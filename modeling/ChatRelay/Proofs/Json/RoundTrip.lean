import ChatRelay.Proofs.Json.Order
import ChatRelay.Proofs.Json.Printed

/-!
# What was written is read again

The text of a settled value is read as that value (`parse?_render`), provided that each of its
numbers is, which depends on decimals and not on JSON (`ReadsBack`).

The text of a value inside of another one has more text behind it. Numbers are the only values that
could go on there, and what is written behind a value ends them (`EndsNumber`). So the induction is on
values that are read with whatever ends a number behind them (`Readable`), and the fuel is enough if
it is more than the length of the text that is read.
-/

namespace ChatRelay.Json

variable {α β : Type}

/-! ## The end of a number -/

/-- A text that does not go on with a number in front of it. -/
def EndsNumber : Text → Prop
  | [] => True
  | u :: _ => Text.digit? u = none ∧ u ≠ Text.unit '.' ∧ u ≠ Text.unit 'e' ∧ u ≠ Text.unit 'E'

/-- What `S` reads in the whole of a text it reads also if something stands behind that ends a
number. -/
structure Halts (S : Scan α) : Prop where
  stops : ∀ {t a}, S t = some (a, []) → ∀ {y}, EndsNumber y → S (t ++ y) = some (a, y)

theorem Halts.map {S : Scan α} (h : Halts S) (f : α → β) : Halts (S.map f) where
  stops hr y hy := by
    obtain ⟨⟨a, r⟩, ha, heq⟩ := Option.map_eq_some_iff.mp hr
    cases heq
    rw [Scan.map, h.stops ha hy]
    rfl

theorem Halts.bind {S : Scan α} {F : α → Scan β} (hS : Halts S) (hpeeks : Peeks S S)
    (hF : ∀ a, Halts (F a)) : Halts (S.bind F) where
  stops {t b} h y hy := by
    obtain ⟨⟨a, r⟩, hr, h⟩ := Option.bind_eq_some_iff.mp h
    have hall : S (t ++ y) = some (a, r ++ y) := by
      by_cases hnil : r = []
      · subst hnil
        exact hS.stops hr hy
      · exact hpeeks.grows hr hnil y
    rw [Scan.bind, hall]
    exact (hF a).stops h hy

theorem spanDigits_ends {y : Text} (hy : EndsNumber y) : Number.spanDigits y = ([], y) := by
  cases y with
  | nil => rfl
  | cons u y => exact spanDigits_other hy.1 y

theorem halts_digits1 : Halts digits1 where
  stops {t ds} h y hy := by
    obtain ⟨hne, hspan⟩ := digits1_eq_some.mp h
    refine digits1_eq_some.mpr ⟨hne, ?_⟩
    clear h hne
    induction t generalizing ds with
    | nil =>
        cases hspan
        exact spanDigits_ends hy
    | cons u t ih =>
        cases hu : Text.digit? u with
        | none =>
            rw [spanDigits_other hu] at hspan
            cases hspan
        | some d =>
            rw [spanDigits_digit hu] at hspan
            obtain ⟨rfl, hnil⟩ := Prod.mk.inj hspan
            rw [List.cons_append, spanDigits_digit hu, ih (Prod.ext rfl hnil)]

theorem halts_integerPart : Halts integerPart where
  stops {t ds} h y hy := by
    cases t with
    | nil => cases h
    | cons u t =>
        by_cases hu : Text.digit? u = some 0
        · rw [integerPart_zero hu] at h
          cases h
          exact integerPart_zero hu y
        · rw [integerPart_digits hu] at h
          rw [List.cons_append, integerPart_digits hu]
          exact halts_digits1.stops h hy

theorem halts_fractionPart : Halts fractionPart where
  stops {t ds} h y hy := by
    cases t with
    | nil =>
        cases h
        cases y with
        | nil => rfl
        | cons u y => exact if_neg hy.2.1
    | cons u t =>
        rw [fractionPart] at h
        rw [List.cons_append, fractionPart]
        split at h
        · rw [if_pos ‹_›]
          exact halts_digits1.stops h hy
        · cases h

theorem halts_exponentPart : Halts exponentPart where
  stops {t e} h y hy := by
    cases t with
    | nil =>
        cases h
        cases y with
        | nil => rfl
        | cons u y => exact exponentPart_absent (not_or.mpr hy.2.2) y
    | cons u t =>
        by_cases hu : u = Text.unit 'e' ∨ u = Text.unit 'E'
        · cases t with
          | nil => rw [exponentPart_mark hu] at h; cases h
          | cons s t =>
              have hdigits (negative : Bool) : Halts (exponentDigits negative) := halts_digits1.map _
              rw [List.cons_append, List.cons_append, exponentPart_eq hu]
              rw [exponentPart_eq hu] at h
              split at h
              · rw [if_pos ‹_›]
                exact (hdigits true).stops h hy
              · rw [if_neg ‹_›]
                split at h
                · rw [if_pos ‹_›]
                  exact (hdigits false).stops h hy
                · rw [if_neg ‹_›]
                  exact (hdigits false).stops h hy
        · rw [exponentPart_absent hu] at h
          cases h

theorem halts_number : Halts number where
  stops {t x} h y hy := by
    have hmagnitude (negative : Bool) : Halts (magnitude negative) :=
      halts_integerPart.bind peeks_integerPart fun _ =>
        halts_fractionPart.bind peeks_fractionPart fun _ => halts_exponentPart.map _
    cases t with
    | nil => cases h
    | cons u t =>
        rw [number_cons] at h
        rw [List.cons_append, number_cons]
        split at h
        · rw [if_pos ‹_›]
          exact (hmagnitude true).stops h hy
        · rw [if_neg ‹_›]
          exact (hmagnitude false).stops h hy

/-! ## Strings -/

theorem hexDigit?_hexDigit : ∀ n < 16, Text.hexDigit? (Text.hexDigit n) = some n := by decide

theorem spells_hexEscape (u : CodeUnit) : Spells (hexEscape u) u := by
  have hu := u.toNat_lt
  refine .hex ?_
  rw [hexUnit?, hexDigit?_hexDigit _ (by omega), hexDigit?_hexDigit _ (by omega),
    hexDigit?_hexDigit _ (by omega), hexDigit?_hexDigit _ (by omega)]
  have hvalue : ((u.toNat / 4096 * 16 + u.toNat / 256 % 16) * 16 + u.toNat / 16 % 16) * 16
      + u.toNat % 16 = u.toNat := by omega
  show some (Nat.toUInt16 _) = some u
  rw [hvalue]
  exact congrArg some (UInt16.ofNat_toNat)

theorem spells_escapeUnit (u : CodeUnit) : Spells (escapeUnit u) u := by
  unfold escapeUnit
  -- The units with an escape of their own.
  iterate 7
    split
    · subst u
      exact .short (by decide) (by decide)
  split
  · exact spells_hexEscape u
  · exact .plain ‹_› ‹_› ‹_›

theorem spells_escapeLone (u : CodeUnit) : Spells (escapeLone u) u := by
  rw [escapeLone]
  split
  · exact spells_hexEscape u
  · exact spells_escapeUnit u

theorem spells_surrogate {u : CodeUnit} (h : 0xD800 ≤ u.toNat) : Spells [u] u := by
  refine .plain ?_ ?_ ?_
  · rintro rfl
    exact absurd h (by decide)
  · rintro rfl
    exact absurd h (by decide)
  · rw [UInt16.lt_iff_toNat_lt]
    exact fun hlt => absurd (Nat.lt_of_le_of_lt h hlt) (by decide)

/-- The content of a string is read up to its other quote. -/
theorem stringBody_escape (s y : Text) :
    stringBody (escape s ++ Text.unit '"' :: y) = some (s, y) := by
  induction s using escape.induct with
  | case1 => exact stringBody_quote y
  | case2 u => rw [escape, (spells_escapeLone u).stringBody, stringBody_quote]; rfl
  | case3 u v r h ih =>
      rw [escape, if_pos h]
      obtain ⟨hu, hv⟩ := Bool.and_eq_true_iff.mp h
      obtain ⟨hu, -⟩ := Text.isHighSurrogate_iff.mp hu
      obtain ⟨hv, -⟩ := Text.isLowSurrogate_iff.mp hv
      show stringBody ([u] ++ ([v] ++ (escape r ++ Text.unit '"' :: y))) = _
      rw [(spells_surrogate hu).stringBody, (spells_surrogate (by omega)).stringBody, ih]
      rfl
  | case4 u v r h ih =>
      rw [escape, if_neg h, List.append_assoc, (spells_escapeLone u).stringBody, ih]
      rfl

/-! ## Numbers -/

/-- Reading inverts the writing of a number. -/
def ReadsBack (x : Number) : Prop := parse? (renderNumber x) = some (.num x)

instance (x : Number) : Decidable (ReadsBack x) := inferInstanceAs (Decidable (_ = _))

/-- All numbers in a value have a property. -/
inductive AllNumbers (P : Number → Prop) : Json → Prop
  | null : AllNumbers P .null
  | bool {b : Bool} : AllNumbers P (.bool b)
  | num {x : Number} : P x → AllNumbers P (.num x)
  | str {s : Text} : AllNumbers P (.str s)
  | arr {items : List Json} : (∀ v ∈ items, AllNumbers P v) → AllNumbers P (.arr items)
  | obj {ms : Members} : (∀ m ∈ ms, AllNumbers P m.2) → AllNumbers P (.obj ms)

section AllNumbers

variable {P : Number → Prop}

@[simp] theorem allNumbers_null : AllNumbers P .null := .null

@[simp] theorem allNumbers_bool {b : Bool} : AllNumbers P (.bool b) := .bool

@[simp] theorem allNumbers_str {s : Text} : AllNumbers P (.str s) := .str

@[simp] theorem allNumbers_num {x : Number} : AllNumbers P (.num x) ↔ P x :=
  ⟨fun | .num h => h, .num⟩

@[simp] theorem allNumbers_arr {items : List Json} :
    AllNumbers P (.arr items) ↔ ∀ v ∈ items, AllNumbers P v := ⟨fun | .arr h => h, .arr⟩

@[simp] theorem allNumbers_obj {ms : Members} :
    AllNumbers P (.obj ms) ↔ ∀ m ∈ ms, AllNumbers P m.2 := ⟨fun | .obj h => h, .obj⟩

end AllNumbers

theorem skipSpace_of_forall {t : Text} (h : ∀ u ∈ t, isSpace u = false) : skipSpace t = t := by
  cases t with
  | nil => rfl
  | cons u t =>
      rw [skipSpace, List.dropWhile_cons, if_neg (Bool.not_eq_true _ ▸ h u List.mem_cons_self)]

theorem isSpace_of_isGraphic {u : CodeUnit} (h : Text.isGraphic u = true) : isSpace u = false := by
  obtain ⟨hlower, -⟩ := Text.isGraphic_iff.mp h
  rw [isSpace]
  simp only [Bool.or_eq_false_iff, beq_eq_false_iff_ne]
  refine ⟨⟨⟨?_, ?_⟩, ?_⟩, ?_⟩
  all_goals
    rintro rfl
    exact absurd hlower (by decide)

theorem isSpace_renderNumber (x : Number) : ∀ u ∈ renderNumber x, isSpace u = false :=
  fun u hu => isSpace_of_isGraphic (List.all_eq_true.mp (all_isGraphic_renderNumber x) u hu)

/-- Only the reader of numbers gives numbers. -/
theorem value_eq_number {n : Nat} {t rest : Text} {x : Number}
    (h : Json.value (n + 1) t = some (.num x, rest)) : number t = some (x, rest) := by
  have hstring : Gives (· ≠ .num x) (Scan.map Json.str stringBody) :=
    (gives_true _).map fun _ _ => by simp
  have harray : Gives (· ≠ .num x) (arrayBody n) := (gives_true _).bind fun _ _ =>
    .orEmpty (by simp) ((gives_true _).map fun _ _ => by simp)
  have hobject : Gives (· ≠ .num x) (objectBody n) := (gives_true _).bind fun _ _ =>
    .orEmpty (by simp) ((gives_true _).map fun _ _ => by simp)
  have hword (w : Text) (v : Json) (hv : v ≠ .num x) : Gives (· ≠ .num x) (word w v) := gives_word w hv
  cases t with
  | nil => cases h
  | cons u t =>
      rw [value_succ, Scan.peek] at h
      split at h
      · exact absurd rfl ((hstring.after _).reads h)
      split at h
      · exact absurd rfl ((harray.after _).reads h)
      split at h
      · exact absurd rfl ((hobject.after _).reads h)
      split at h
      · exact absurd rfl ((hword _ (.bool true) (by simp)).reads h)
      split at h
      · exact absurd rfl ((hword _ (.bool false) (by simp)).reads h)
      split at h
      · exact absurd rfl ((hword _ .null (by simp)).reads h)
      · obtain ⟨⟨y, r⟩, hy, heq⟩ := Option.map_eq_some_iff.mp h
        cases heq
        exact hy

/-- What the reader of numbers gives is not read as anything else. -/
theorem value_of_number {t rest : Text} {x : Number} (h : number t = some (x, rest)) (n : Nat) :
    Json.value (n + 1) t = some (.num x, rest) := by
  cases t with
  | nil => cases h
  | cons u t =>
      have hne : ∀ v, v ≠ Text.unit '-' → Text.digit? v = none → u ≠ v := by
        rintro v hminus hdigit rfl
        rw [number_eq_none hminus hdigit] at h
        cases h
      rw [value_succ, Scan.peek, if_neg (hne _ (by decide) (by decide)),
        if_neg (hne _ (by decide) (by decide)), if_neg (hne _ (by decide) (by decide)),
        if_neg (hne _ (by decide) (by decide)), if_neg (hne _ (by decide) (by decide)),
        if_neg (hne _ (by decide) (by decide)), Scan.map, h]
      rfl

theorem ReadsBack.number {x : Number} (h : ReadsBack x) :
    number (renderNumber x) = some (x, []) := by
  have hspace := isSpace_renderNumber x
  obtain ⟨rest, hvalue, hrest⟩ := parse?_eq_some.mp h
  rw [skipSpace_of_forall hspace] at hvalue
  have hnumber := value_eq_number hvalue
  have hsuffix := peeks_number.leaves hnumber
  rw [skipSpace_of_forall fun u hu => hspace u (hsuffix.subset hu)] at hrest
  rw [hnumber, hrest]

/-! ## Values -/

/-- The text of a value is read as that value, whatever ends a number behind it. -/
structure Readable (v : Json) : Prop where
  reads : ∀ {n y}, v.render.length < n → EndsNumber y →
    Json.value n (v.render ++ y) = some (v, y)

/-- What stands behind an item or a member ends a number. -/
theorem endsNumber_behind {u : CodeUnit}
    (h : u = Text.unit ',' ∨ u = Text.unit ']' ∨ u = Text.unit '\x7d') (y : Text) :
    EndsNumber (u :: y) := by
  rcases h with rfl | rfl | rfl <;> exact ⟨by decide, by decide, by decide, by decide⟩

theorem skipSpace_of_starts {u : CodeUnit} (h : Starts u) (r : Text) :
    skipSpace (u :: r) = u :: r := by
  rw [skipSpace, List.dropWhile_cons, if_neg]
  exact fun hspace => not_starts_of_isBlank (isBlank_of_isSpace hspace) h

theorem quote_append (s z : Text) :
    quote s ++ z = Text.unit '"' :: (escape s ++ Text.unit '"' :: z) := by
  rw [quote, List.append_assoc, List.append_assoc]
  rfl

theorem renderItems_append (v w : Json) (vs : List Json) (z : Text) :
    renderItems (v :: w :: vs) ++ z = v.render ++ Text.unit ',' :: (renderItems (w :: vs) ++ z) := by
  rw [renderItems, List.append_assoc, List.append_assoc]
  rfl

namespace Readable

variable {v : Json}

/-- The text of a readable value begins like a value. -/
theorem starts (h : Readable v) : ∃ u r, v.render = u :: r ∧ Starts u := by
  have hread := h.reads (Nat.lt_succ_self _) (y := []) trivial
  cases hv : v.render with
  | nil =>
      rw [hv] at hread
      cases hread
  | cons u r =>
      refine ⟨u, r, rfl, ?_⟩
      by_contra hu
      rw [hv, List.cons_append, value_eq_none hu] at hread
      cases hread

/-- A reader of fuel that is enough for something has been given some. -/
theorem of_succ (h : ∀ {n y}, v.render.length < n + 1 → EndsNumber y →
    Json.value (n + 1) (v.render ++ y) = some (v, y)) : Readable v where
  reads {n y} hn hy := by
    cases n with
    | zero => exact absurd hn (Nat.not_lt_zero _)
    | succ n => exact h hn hy

theorem null : Readable .null := .of_succ fun {n _} _ _ => (congrFun (value_succ n) _).trans rfl

theorem bool (b : Bool) : Readable (.bool b) := .of_succ fun {n _} _ _ => by
  cases b <;> exact (congrFun (value_succ n) _).trans rfl

theorem num {x : Number} (hx : ReadsBack x) : Readable (.num x) :=
  .of_succ fun _ hy => value_of_number (halts_number.stops hx.number hy) _

theorem str (s : Text) : Readable (.str s) := .of_succ fun {n y} _ _ => by
  rw [render, quote_append, value_succ]
  show (stringBody _).map _ = _
  rw [stringBody_escape]
  rfl

/-! ### Items -/

/-- Items begin like a value. -/
theorem starts_items (h : Readable v) (vs : List Json) (z : Text) :
    ∃ u r, renderItems (v :: vs) ++ z = u :: r ∧ Starts u := by
  obtain ⟨u, r, hv, hu⟩ := h.starts
  cases vs with
  | nil => exact ⟨u, r ++ z, by rw [renderItems, hv, List.cons_append], hu⟩
  | cons w vs => exact ⟨u, _, by rw [renderItems_append, hv, List.cons_append], hu⟩

/-- Readable items are read up to the bracket behind them. -/
theorem items {vs : List Json} (hne : vs ≠ []) (hvs : ∀ v ∈ vs, Readable v) {n : Nat}
    (hn : (renderItems vs).length + 1 < n) (y : Text) :
    Json.items n (renderItems vs ++ Text.unit ']' :: y) = some (vs, y) := by
  induction vs generalizing n with
  | nil => exact absurd rfl hne
  | cons v vs ih =>
      obtain ⟨n, rfl⟩ : ∃ k, n = k + 1 := ⟨n - 1, by omega⟩
      obtain ⟨hv, hvs⟩ := List.forall_mem_cons.mp hvs
      rw [items_succ]
      cases vs with
      | nil =>
          rw [renderItems] at hn ⊢
          rw [Scan.bind_some (hv.reads (by omega) (endsNumber_behind (by simp) y))]
          rfl
      | cons w vs =>
          have hlength := congrArg List.length (renderItems_append v w vs [])
          simp only [List.length_append, List.length_cons, List.length_nil] at hlength
          have hrest := ih (List.cons_ne_nil w vs) hvs (n := n) (by omega)
          obtain ⟨u, r, htext, hu⟩ :=
            starts_items (hvs w List.mem_cons_self) vs (Text.unit ']' :: y)
          rw [renderItems_append,
            Scan.bind_some (hv.reads (by omega) (endsNumber_behind (by simp) _))]
          show Scan.map (v :: ·) (Scan.space.bind fun _ => Json.items n) _ = _
          rw [Scan.map, Scan.space_bind, htext, skipSpace_of_starts hu, ← htext, hrest]
          rfl

theorem arr {vs : List Json} (hvs : ∀ v ∈ vs, Readable v) : Readable (.arr vs) :=
  .of_succ fun {n y} hn _ => by
    have hrender (z : Text) : (Json.arr vs).render ++ z
        = Text.unit '[' :: (renderItems vs ++ Text.unit ']' :: z) := by
      rw [render, List.append_assoc, List.append_assoc]
      rfl
    have hlength := congrArg List.length (hrender [])
    simp only [List.length_append, List.length_cons, List.length_nil] at hlength
    rw [hrender, value_array, arrayBody, Scan.space_bind]
    cases vs with
    | nil => rfl
    | cons v vs =>
        have hread := items (List.cons_ne_nil v vs) hvs (n := n) (by omega) y
        obtain ⟨u, r, htext, hu⟩ :=
          starts_items (hvs v List.mem_cons_self) vs (Text.unit ']' :: y)
        have hstop : u ≠ Text.unit ']' := by
          rintro rfl
          exact absurd hu (by decide)
        rw [htext, skipSpace_of_starts hu, Scan.orEmpty, if_neg hstop, ← htext, Scan.map, hread]
        rfl

/-! ### Members -/

theorem renderMembers_single (key : Text) (v : Json) (z : Text) :
    renderMembers [(key, v)] ++ z
      = Text.unit '"' :: (escape key ++ Text.unit '"' :: Text.unit ':' :: (v.render ++ z)) := by
  rw [renderMembers, List.append_assoc, List.append_assoc, quote_append]
  rfl

theorem renderMembers_append (key : Text) (v : Json) (m : Text × Json) (ms : Members) (z : Text) :
    renderMembers ((key, v) :: m :: ms) ++ z
      = Text.unit '"' :: (escape key ++ Text.unit '"' :: Text.unit ':' ::
        (v.render ++ Text.unit ',' :: (renderMembers (m :: ms) ++ z))) := by
  rw [renderMembers, List.append_assoc, List.append_assoc, List.append_assoc, List.append_assoc,
    quote_append]
  rfl

/-- Members begin with a quote. -/
theorem starts_members (m : Text × Json) (ms : Members) (z : Text) :
    ∃ r, renderMembers (m :: ms) ++ z = Text.unit '"' :: r := by
  cases ms with
  | nil => exact ⟨_, renderMembers_single m.1 m.2 z⟩
  | cons m' ms => exact ⟨_, renderMembers_append m.1 m.2 m' ms z⟩

/-- A member is read up to what stands behind it. -/
theorem member (hv : Readable v) (key : Text) {n : Nat} (hn : v.render.length < n) {z : Text}
    (hz : EndsNumber z) :
    Json.members (n + 1)
        (Text.unit '"' :: (escape key ++ Text.unit '"' :: Text.unit ':' :: (v.render ++ z))) =
      Scan.orEnd (Text.unit '\x7d') [(key, v)]
        (Scan.map ((key, v) :: ·) (Scan.space.bind fun _ => Json.members n)) (skipSpace z) := by
  obtain ⟨u, r, htext, hu⟩ := hv.starts
  have hskip : skipSpace (v.render ++ z) = v.render ++ z := by
    rw [htext, List.cons_append, skipSpace_of_starts hu]
  rw [members_succ, Scan.after, if_pos rfl, Scan.bind_some (stringBody_escape key _),
    Scan.space_bind]
  show Scan.after (Text.unit ':') _ (Text.unit ':' :: _) = _
  rw [Scan.after, if_pos rfl, Scan.space_bind, hskip, Scan.bind_some (hv.reads hn hz),
    Scan.space_bind]

/-- Readable members are read up to the brace behind them. -/
theorem members {ms : Members} (hne : ms ≠ []) (hms : ∀ m ∈ ms, Readable m.2) {n : Nat}
    (hn : (renderMembers ms).length + 1 < n) (y : Text) :
    Json.members n (renderMembers ms ++ Text.unit '\x7d' :: y) = some (ms, y) := by
  induction ms generalizing n with
  | nil => exact absurd rfl hne
  | cons m ms ih =>
      obtain ⟨n, rfl⟩ : ∃ k, n = k + 1 := ⟨n - 1, by omega⟩
      obtain ⟨key, v⟩ := m
      obtain ⟨hv, hms⟩ : Readable v ∧ ∀ m ∈ ms, Readable m.2 := List.forall_mem_cons.mp hms
      cases ms with
      | nil =>
          have hlength := congrArg List.length (renderMembers_single key v [])
          simp only [List.length_append, List.length_cons, List.length_nil] at hlength
          rw [renderMembers_single, hv.member key (by omega) (endsNumber_behind (by simp) y)]
          rfl
      | cons m ms =>
          have hlength := congrArg List.length (renderMembers_append key v m ms [])
          simp only [List.length_append, List.length_cons, List.length_nil] at hlength
          have hrest := ih (List.cons_ne_nil m ms) hms (n := n) (by omega)
          rw [renderMembers_append, hv.member key (by omega) (endsNumber_behind (by simp) _)]
          show Scan.map ((key, v) :: ·) (Scan.space.bind fun _ => Json.members n) _ = _
          obtain ⟨r, htext⟩ := starts_members m ms (Text.unit '\x7d' :: y)
          rw [Scan.map, Scan.space_bind, htext, skipSpace_of_starts (by decide), ← htext, hrest]
          rfl

theorem obj {ms : Members} (hordered : Ordered ms) (hms : ∀ m ∈ ms, Readable m.2) :
    Readable (.obj ms) := .of_succ fun {n y} hn _ => by
  have hrender (z : Text) : (Json.obj ms).render ++ z
      = Text.unit '\x7b' :: (renderMembers ms ++ Text.unit '\x7d' :: z) := by
    rw [render, List.append_assoc, List.append_assoc]
    rfl
  have hlength := congrArg List.length (hrender [])
  simp only [List.length_append, List.length_cons, List.length_nil] at hlength
  rw [hrender, value_object, objectBody, Scan.space_bind]
  cases ms with
  | nil => rfl
  | cons m ms =>
      have hread := members (List.cons_ne_nil m ms) hms (n := n) (by omega) y
      obtain ⟨r, htext⟩ := starts_members m ms (Text.unit '\x7d' :: y)
      rw [htext, skipSpace_of_starts (by decide), Scan.orEmpty, if_neg (by decide), ← htext, Scan.map,
        hread]
      show some (Json.obj (ofPairs (m :: ms)), y) = _
      rw [ofPairs_eq_self hordered]

/-- Settled values are readable if their numbers are. -/
theorem of_settled {v : Json} (hv : Settled v) (hnumbers : AllNumbers ReadsBack v) : Readable v := by
  induction hv with
  | null => exact null
  | bool => exact bool _
  | num =>
      cases hnumbers with
      | num hx => exact num hx
  | str => exact str _
  | arr _ ih =>
      cases hnumbers with
      | arr hitems => exact arr fun v hv => ih v hv (hitems v hv)
  | obj hordered _ ih =>
      cases hnumbers with
      | obj hmembers => exact obj hordered fun m hm => ih m hm (hmembers m hm)

end Readable

/-- A settled value is read off its text, if reading inverts the writing of its numbers. -/
theorem parse?_render {v : Json} (hv : Settled v) (hnumbers : AllNumbers ReadsBack v) :
    parse? v.render = some v := by
  have hreadable := Readable.of_settled hv hnumbers
  obtain ⟨u, r, htext, hu⟩ := hreadable.starts
  have hread := hreadable.reads (Nat.lt_succ_self _) (y := []) trivial
  rw [List.append_nil] at hread
  refine parse?_eq_some.mpr ⟨[], ?_, rfl⟩
  rwa [htext, skipSpace_of_starts hu, ← htext]

end ChatRelay.Json
