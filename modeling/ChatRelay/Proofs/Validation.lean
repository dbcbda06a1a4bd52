import ChatRelay.Validation
import Mathlib.Data.List.Forall2

/-!
# What checks accept

A check accepts a value if it has no issue with it, and then there is only one way in which it can have
done so. One equivalence for each check says which: what the value looks like from outside and what
was read off it. They hold of every kind of data that can be checked. A check whose result is put
together from the results of others accepts exactly if all of these do (`Checked.seq_eq_accept_iff`).

JSON values are known from their shapes (`Json.shape_injective`).
-/

namespace ChatRelay

/-! ## Combined checks -/

namespace Checked

variable {α β : Type}

theorem toExcept_eq_ok_iff {c : Checked α} {a : α} : c.toExcept = .ok a ↔ c = .accept a := by
  constructor
  · intro h
    obtain ⟨value, issues⟩ := c
    rw [toExcept] at h
    split at h
    case h_1 hvalue hissues =>
      cases h
      cases hvalue
      cases hissues
      rfl
    case h_2 => cases h
  · rintro rfl
    rfl

theorem map_eq_accept_iff {f : α → β} {c : Checked α} {b : β} :
    c.map f = .accept b ↔ ∃ a, c = .accept a ∧ f a = b := by
  constructor
  · intro h
    obtain ⟨value, issues⟩ := c
    obtain ⟨hvalue, hissues⟩ := Checked.mk.inj h
    obtain ⟨a, rfl, rfl⟩ := Option.map_eq_some_iff.mp hvalue
    cases hissues
    exact ⟨a, rfl, rfl⟩
  · rintro ⟨a, rfl, rfl⟩
    rfl

theorem functor_eq_accept_iff {f : α → β} {c : Checked α} {b : β} :
    f <$> c = .accept b ↔ ∃ a, c = .accept a ∧ f a = b := map_eq_accept_iff

theorem both_eq_accept_iff {f : Checked (α → β)} {c : Checked α} {b : β} :
    f.both c = .accept b ↔ ∃ g a, f = .accept g ∧ c = .accept a ∧ g a = b := by
  constructor
  · intro h
    obtain ⟨function, before⟩ := f
    obtain ⟨value, issues⟩ := c
    obtain ⟨hvalue, hissues⟩ := Checked.mk.inj h
    obtain ⟨g, rfl, hg⟩ := Option.bind_eq_some_iff.mp hvalue
    obtain ⟨a, rfl, rfl⟩ := Option.map_eq_some_iff.mp hg
    obtain ⟨rfl, rfl⟩ := List.append_eq_nil_iff.mp hissues
    exact ⟨g, a, rfl, rfl, rfl⟩
  · rintro ⟨g, a, rfl, rfl, rfl⟩
    rfl

theorem seq_eq_accept_iff {f : Checked (α → β)} {c : Checked α} {b : β} :
    f <*> c = .accept b ↔ ∃ g a, f = .accept g ∧ c = .accept a ∧ g a = b := both_eq_accept_iff

theorem require_eq_accept_iff {c : Checked α} {holds : α → Bool} {issue : Issue} {a : α} :
    c.require holds issue = .accept a ↔ c = .accept a ∧ holds a = true := by
  obtain ⟨value, issues⟩ := c
  rw [require]
  cases value with
  | none => simp [accept]
  | some b =>
      dsimp only
      split
      case isTrue hholds =>
        constructor
        · intro h
          obtain rfl : b = a := Option.some.inj (Checked.mk.inj h).1
          exact ⟨h, hholds⟩
        · exact And.left
      case isFalse hfails =>
        constructor
        · intro h
          exact absurd (Checked.mk.inj h).2 (List.append_ne_nil_of_right_ne_nil _ (List.cons_ne_nil _ _))
        · rintro ⟨h, hholds⟩
          obtain rfl : b = a := Option.some.inj (Checked.mk.inj h).1
          exact absurd hholds hfails

theorem accept_inj {a b : α} : accept a = accept b ↔ a = b := by simp [accept]

theorem flag_eq_accept_iff {a b : α} {issues : List Issue} :
    flag a issues = .accept b ↔ a = b ∧ issues = [] := by simp [flag, accept]

theorem reject_ne_accept {issue : Issue} {a : α} : reject issue ≠ .accept a := by
  simp [reject, accept]

end Checked

/-! ## Single checks -/

namespace Check

open Checked

variable {α δ : Type} {path : List PathStep} {v : Option δ}

theorem optional_eq_accept_iff {check : Check α δ} {o : Option α} :
    optional check path v = .accept o ↔
      (v = none ∧ o = none) ∨ ∃ w a, v = some w ∧ check path (some w) = .accept a ∧ o = some a := by
  cases v with
  | none => simp [optional, accept_inj, eq_comm]
  | some w => simp [optional, map_eq_accept_iff, @eq_comm _ o]

/-- The items of an array are accepted if each of them is, wherever it stands. -/
theorem itemsFrom_eq_accept_iff {check : Check α δ} {Reads : δ → α → Prop}
    (hcheck : ∀ path x a, check path (some x) = .accept a ↔ Reads x a) {xs : List δ} {as : List α}
    (i : Nat) : itemsFrom check path i xs = .accept as ↔ List.Forall₂ Reads xs as := by
  induction xs generalizing i as with
  | nil => simp [itemsFrom, accept_inj, eq_comm]
  | cons x xs ih =>
      rw [itemsFrom, both_eq_accept_iff, List.forall₂_cons_left_iff]
      constructor
      · rintro ⟨_, rest, hitem, hrest, rfl⟩
        obtain ⟨a, ha, rfl⟩ := map_eq_accept_iff.mp hitem
        exact ⟨a, rest, (hcheck ..).mp ha, (ih (i + 1)).mp hrest, rfl⟩
      · rintro ⟨a, rest, ha, hrest, rfl⟩
        exact ⟨List.cons a, rest, map_eq_accept_iff.mpr ⟨a, (hcheck ..).mpr ha, rfl⟩,
          (ih (i + 1)).mpr hrest, rfl⟩

variable [Shaped δ]

theorem wrongKind_ne_accept {expected : Kind} {a : α} : wrongKind expected path v ≠ .accept a :=
  reject_ne_accept

theorem string_eq_accept_iff {t : Text} : string path v = .accept t ↔ v.map shape = some (.str t) := by
  unfold string
  cases v.map shape with
  | none => simp [wrongKind_ne_accept]
  | some s => cases s <;> simp [wrongKind_ne_accept, accept_inj]

theorem nonEmptyString_eq_accept_iff {t : Text} :
    nonEmptyString path v = .accept t ↔ v.map shape = some (.str t) ∧ t ≠ [] := by
  unfold nonEmptyString
  cases v.map shape with
  | none => simp [wrongKind_ne_accept]
  | some s =>
      cases s with
      | str u =>
          have hne : (if u.isEmpty then [(⟨path, .emptyString⟩ : Issue)] else []) = [] ↔ u ≠ [] := by
            cases u <;> simp
          rw [flag_eq_accept_iff, hne, Option.some.injEq, Shape.str.injEq]
          exact and_congr_right fun heq => by rw [heq]
      | _ => simp [wrongKind_ne_accept]

theorem boolean_eq_accept_iff {b : Bool} :
    boolean path v = .accept b ↔ v.map shape = some (.bool b) := by
  unfold boolean
  cases v.map shape with
  | none => simp [wrongKind_ne_accept]
  | some s => cases s <;> simp [wrongKind_ne_accept, accept_inj]

theorem number_eq_accept_iff {bounds : List (Fault × (Number → Bool))} {x : Number} :
    number bounds path v = .accept x ↔
      v.map shape = some (.num x) ∧ x ≠ .nan ∧ ∀ bound ∈ bounds, bound.2 x = true := by
  -- The bounds have nothing to say about the number, or it would come with issues.
  have hbounds (y : Number) : flag y (bounds.filterMap fun bound =>
      if bound.2 y then none else some ⟨path, bound.1⟩) = .accept x ↔
        y = x ∧ ∀ bound ∈ bounds, bound.2 x = true := by
    rw [flag_eq_accept_iff, List.filterMap_eq_nil_iff]
    refine and_congr_right fun heq => forall₂_congr fun bound _ => ?_
    rw [heq]
    cases bound.2 x <;> simp
  unfold number
  cases v.map shape with
  | none => simp [wrongKind_ne_accept]
  | some s =>
      cases s with
      | num y =>
          cases y with
          | nan =>
              refine iff_of_false wrongKind_ne_accept ?_
              rintro ⟨heq, hnan, -⟩
              cases heq
              exact hnan rfl
          | _ =>
              refine (hbounds _).trans ⟨?_, ?_⟩
              · rintro ⟨rfl, hholds⟩
                exact ⟨rfl, Number.noConfusion, hholds⟩
              · rintro ⟨heq, -, hholds⟩
                cases heq
                exact ⟨rfl, hholds⟩
      | _ => simp [wrongKind_ne_accept]

theorem count_eq_accept_iff {n : Number} :
    count path v = .accept n ↔ ∃ x : Number, v.map shape = some (.num x) ∧ x.isInteger = true ∧
      x.isNonNegative = true ∧ x.plainZero = n := by
  refine map_eq_accept_iff.trans (exists_congr fun x => ?_)
  rw [number_eq_accept_iff]
  constructor
  · rintro ⟨⟨hv, -, hholds⟩, hn⟩
    simp only [List.forall_mem_cons] at hholds
    exact ⟨hv, hholds.1, hholds.2.1, hn⟩
  · rintro ⟨hv, hint, hnonneg, hn⟩
    refine ⟨⟨hv, ?_, ?_⟩, hn⟩
    · rintro rfl
      cases hint
    · simp [hint, hnonneg]

theorem nullable_eq_accept_iff {check : Check α δ} {o : Option α} :
    nullable check path v = .accept o ↔ (v.map shape = some .null ∧ o = none) ∨
      v.map shape ≠ some .null ∧ ∃ a, check path v = .accept a ∧ o = some a := by
  unfold nullable
  split
  case h_1 hnull => simp [hnull, accept_inj, eq_comm]
  case h_2 hother => simp [Ne.intro hother, map_eq_accept_iff, @eq_comm _ o]

theorem object_eq_accept_iff {fields : List PathStep → List (Text × δ) → Checked α} {a : α} :
    object fields path v = .accept a ↔
      ∃ ms, v.map shape = some (.obj ms) ∧ fields path ms = .accept a := by
  unfold object
  cases v.map shape with
  | none => simp [wrongKind_ne_accept]
  | some s => cases s <;> simp [wrongKind_ne_accept]

theorem record_eq_accept_iff {ms : List (Text × δ)} : record path v = .accept ms ↔
    ∃ given, v.map shape = some (.obj given) ∧ Json.without reservedKey given = ms :=
  object_eq_accept_iff.trans (exists_congr fun _ => and_congr_right fun _ => accept_inj)

theorem array_eq_accept_iff {check : Check α δ} {Reads : δ → α → Prop}
    (hcheck : ∀ path x a, check path (some x) = .accept a ↔ Reads x a) {as : List α} :
    array check path v = .accept as ↔
      ∃ xs, v.map shape = some (.arr xs) ∧ List.Forall₂ Reads xs as := by
  unfold array
  cases v.map shape with
  | none => simp [wrongKind_ne_accept]
  | some s =>
      cases s with
      | arr xs => simp [itemsFrom_eq_accept_iff hcheck]
      | _ => simp [wrongKind_ne_accept]

/-- What may be left out looks like what is read off it, if that holds of what may not. -/
theorem optional_eq_accept_iff_shape {check : Check α δ} {look : α → Shape δ}
    (hcheck : ∀ w a, check path (some w) = .accept a ↔ shape w = look a) {o : Option α} :
    optional check path v = .accept o ↔ v.map shape = o.map look := by
  rw [optional_eq_accept_iff]
  constructor
  · rintro (⟨rfl, rfl⟩ | ⟨w, a, rfl, ha, rfl⟩)
    · rfl
    · exact congrArg some ((hcheck w a).mp ha)
  · intro h
    cases v with
    | none =>
        cases o with
        | none => exact .inl ⟨rfl, rfl⟩
        | some a => cases h
    | some w =>
        cases o with
        | none => cases h
        | some a => exact .inr ⟨w, a, rfl, (hcheck w a).mpr (Option.some.inj h), rfl⟩

theorem optional_string_eq_accept_iff {o : Option Text} :
    optional string path v = .accept o ↔ v.map shape = o.map .str :=
  optional_eq_accept_iff_shape fun _ _ => string_eq_accept_iff.trans Option.some_inj

theorem optional_boolean_eq_accept_iff {o : Option Bool} :
    optional boolean path v = .accept o ↔ v.map shape = o.map .bool :=
  optional_eq_accept_iff_shape fun _ _ => boolean_eq_accept_iff.trans Option.some_inj

theorem optional_record_eq_accept_iff {o : Option (List (Text × δ))} :
    optional record path v = .accept o ↔ ∃ given : Option (List (Text × δ)),
      v.map shape = given.map .obj ∧ given.map (Json.without reservedKey) = o := by
  rw [optional_eq_accept_iff]
  constructor
  · rintro (⟨rfl, rfl⟩ | ⟨w, ms, rfl, hms, rfl⟩)
    · exact ⟨none, rfl, rfl⟩
    · obtain ⟨given, hgiven, rfl⟩ := record_eq_accept_iff.mp hms
      exact ⟨some given, hgiven, rfl⟩
  · rintro ⟨given, hv, rfl⟩
    cases v with
    | none =>
        cases given with
        | none => exact .inl ⟨rfl, rfl⟩
        | some ms => cases hv
    | some w =>
        cases given with
        | none => cases hv
        | some ms => exact .inr ⟨w, _, rfl, record_eq_accept_iff.mpr ⟨ms, hv, rfl⟩, rfl⟩

end Check

/-! ## JSON values -/

theorem Json.shape_injective : Function.Injective Json.shape := by
  intro v w h
  cases v <;> cases w <;> cases h <;> rfl

/-- What looks like a JSON value is that value. -/
theorem Json.map_shape_eq {v : Option Json} {w : Json} :
    v.map shape = some w.shape ↔ v = some w := by
  rw [← Option.map_some, Option.map_inj_right]
  exact fun _ _ h => shape_injective h

end ChatRelay
