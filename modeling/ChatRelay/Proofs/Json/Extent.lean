import ChatRelay.Json.Reader
import ChatRelay.Proofs.Text.Cutting

/-!
# How far a JSON text reaches

The functions that read JSON take the beginning of a text and leave the rest. Where the rest is not
empty it shows that what was read is over, so more text behind it changes nothing (`Peeks`);
strings, arrays and objects end with a unit of their own and need no such sign (`Closes`). Both are
kept by reading one thing after another, so they hold for values, items and members together, by one
induction on the fuel, which may also grow (`scans_grow`).

For objects it follows that a beginning of a text that denotes one denotes the same or nothing
(`parse?_object_beginning`), and nothing with a replacement character behind it
(`parse?_concat_replacement`).
-/

namespace ChatRelay.Json

/-- A reading of the beginning of a text: what it says and the rest behind it. -/
abbrev Scan (α : Type) := Text → Option (α × Text)

variable {α β : Type}

/-- What `S` reads off a text is a beginning of it, and unless that is all of it `S'` reads the same
off the text with more behind it. -/
structure Peeks (S S' : Scan α) : Prop where
  leaves : ∀ {t a rest}, S t = some (a, rest) → rest <:+ t
  grows : ∀ {t a rest}, S t = some (a, rest) → rest ≠ [] → ∀ x, S' (t ++ x) = some (a, rest ++ x)

/-- What `S` reads off a text is a beginning of it that ends with `stop`, and `S'` reads the same
off the text with more behind it. -/
structure Closes (stop : CodeUnit) (S S' : Scan α) : Prop where
  leaves : ∀ {t a rest}, S t = some (a, rest) → stop :: rest <:+ t
  grows : ∀ {t a rest}, S t = some (a, rest) → ∀ x, S' (t ++ x) = some (a, rest ++ x)

namespace Scan

/-- One reading and then another one, which may depend on what the first one says. -/
def bind (S : Scan α) (F : α → Scan β) : Scan β := fun t => (S t).bind fun r => F r.1 r.2

/-- A reading with another account of what it says. -/
def map (f : α → β) (S : Scan α) : Scan β := fun t => (S t).map fun r => (f r.1, r.2)

/-- White space. -/
def space : Scan Unit := fun t => some ((), skipSpace t)

/-- A given unit and then another reading. -/
def after (u : CodeUnit) (S : Scan α) : Scan α
  | [] => none
  | v :: r => if v = u then S r else none

/-- A reading that the first unit decides on. -/
def peek (F : CodeUnit → Scan α) : Scan α
  | [] => none
  | u :: r => F u (u :: r)

/-- The end of a list that has no items, or another reading. -/
def orEmpty (stop : CodeUnit) (a : α) (S : Scan α) : Scan α
  | [] => none
  | u :: r => if u = stop then some (a, r) else S (u :: r)

/-- What stands behind the last item that was read: a comma and then another reading, or the end. -/
def orEnd (stop : CodeUnit) (a : α) (S : Scan α) : Scan α
  | [] => none
  | u :: r => if u = Text.unit ',' then S r else if u = stop then some (a, r) else none

end Scan

/-! ## One reading after another -/

theorem Peeks.bind {S S' : Scan α} {F F' : α → Scan β} (hS : Peeks S S')
    (hF : ∀ a, Peeks (F a) (F' a)) : Peeks (S.bind F) (S'.bind F') where
  leaves h := by
    obtain ⟨⟨a, r⟩, hr, h⟩ := Option.bind_eq_some_iff.mp h
    exact ((hF a).leaves h).trans (hS.leaves hr)
  grows h hne x := by
    obtain ⟨⟨a, r⟩, hr, h⟩ := Option.bind_eq_some_iff.mp h
    -- Nothing can be left behind the second reading if nothing is left behind the first.
    have hr' : r ≠ [] := by
      rintro rfl
      exact hne (List.suffix_nil.mp ((hF a).leaves h))
    rw [Scan.bind, hS.grows hr hr' x]
    exact (hF a).grows h hne x

theorem Peeks.bind_closes {stop : CodeUnit} {S S' : Scan α} {F F' : α → Scan β}
    (hS : Peeks S S') (hF : ∀ a, Closes stop (F a) (F' a)) :
    Closes stop (S.bind F) (S'.bind F') where
  leaves h := by
    obtain ⟨⟨a, r⟩, hr, h⟩ := Option.bind_eq_some_iff.mp h
    exact ((hF a).leaves h).trans (hS.leaves hr)
  grows h x := by
    obtain ⟨⟨a, r⟩, hr, h⟩ := Option.bind_eq_some_iff.mp h
    have hr' : r ≠ [] := by
      rintro rfl
      cases List.suffix_nil.mp ((hF a).leaves h)
    rw [Scan.bind, hS.grows hr hr' x]
    exact (hF a).grows h x

theorem Closes.peeks {stop : CodeUnit} {S S' : Scan α} (h : Closes stop S S') : Peeks S S' where
  leaves hr := (List.suffix_cons ..).trans (h.leaves hr)
  grows hr _ x := h.grows hr x

theorem Peeks.map {S S' : Scan α} (h : Peeks S S') (f : α → β) :
    Peeks (S.map f) (S'.map f) where
  leaves hr := by
    obtain ⟨⟨a, r⟩, ha, heq⟩ := Option.map_eq_some_iff.mp hr
    cases heq
    exact h.leaves ha
  grows hr hne x := by
    obtain ⟨⟨a, r⟩, ha, heq⟩ := Option.map_eq_some_iff.mp hr
    cases heq
    rw [Scan.map, h.grows ha hne x]
    rfl

theorem Closes.map {stop : CodeUnit} {S S' : Scan α} (h : Closes stop S S') (f : α → β) :
    Closes stop (S.map f) (S'.map f) where
  leaves hr := by
    obtain ⟨⟨a, r⟩, ha, heq⟩ := Option.map_eq_some_iff.mp hr
    cases heq
    exact h.leaves ha
  grows hr x := by
    obtain ⟨⟨a, r⟩, ha, heq⟩ := Option.map_eq_some_iff.mp hr
    cases heq
    rw [Scan.map, h.grows ha x]
    rfl

theorem Peeks.peek {F F' : CodeUnit → Scan α} (h : ∀ u, Peeks (F u) (F' u)) :
    Peeks (Scan.peek F) (Scan.peek F') where
  leaves {t} _ _ hr := by
    cases t with
    | nil => cases hr
    | cons u t => exact (h u).leaves hr
  grows {t} _ _ hr hne x := by
    cases t with
    | nil => cases hr
    | cons u t => exact (h u).grows hr hne x

theorem Peeks.ite {S S' T T' : Scan α} (p : Prop) [Decidable p] (hS : Peeks S S')
    (hT : Peeks T T') : Peeks (if p then S else T) (if p then S' else T') := by
  split
  · exact hS
  · exact hT

theorem Closes.after {stop : CodeUnit} {S S' : Scan α} (h : Closes stop S S') (u : CodeUnit) :
    Closes stop (S.after u) (S'.after u) where
  leaves {t} _ _ hr := by
    cases t with
    | nil => cases hr
    | cons v t =>
        rw [Scan.after] at hr
        split at hr
        · exact (h.leaves hr).trans (List.suffix_cons ..)
        · cases hr
  grows {t} _ _ hr x := by
    cases t with
    | nil => cases hr
    | cons v t =>
        rw [Scan.after] at hr
        rw [List.cons_append, Scan.after]
        split at hr
        · rw [if_pos ‹_›, h.grows hr x]
        · cases hr

theorem Closes.orEmpty {stop : CodeUnit} {S S' : Scan α} (h : Closes stop S S') (a : α) :
    Closes stop (S.orEmpty stop a) (S'.orEmpty stop a) where
  leaves {t} _ _ hr := by
    cases t with
    | nil => cases hr
    | cons u t =>
        rw [Scan.orEmpty] at hr
        split at hr
        · cases hr
          subst u
          exact List.suffix_rfl
        · exact h.leaves hr
  grows {t} _ _ hr x := by
    cases t with
    | nil => cases hr
    | cons u t =>
        rw [Scan.orEmpty] at hr
        rw [List.cons_append, Scan.orEmpty]
        split at hr
        · cases hr
          rw [if_pos ‹_›]
        · rw [if_neg ‹_›, ← List.cons_append, h.grows hr x]

theorem Closes.orEnd {stop : CodeUnit} {S S' : Scan α} (h : Closes stop S S') (a : α) :
    Closes stop (S.orEnd stop a) (S'.orEnd stop a) where
  leaves {t} _ _ hr := by
    cases t with
    | nil => cases hr
    | cons u t =>
        rw [Scan.orEnd] at hr
        split at hr
        · exact (h.leaves hr).trans (List.suffix_cons ..)
        · split at hr
          · cases hr
            subst u
            exact List.suffix_rfl
          · cases hr
  grows {t} _ _ hr x := by
    cases t with
    | nil => cases hr
    | cons u t =>
        rw [Scan.orEnd] at hr
        rw [List.cons_append, Scan.orEnd]
        split at hr
        · rw [if_pos ‹_›, h.grows hr x]
        · rw [if_neg ‹_›]
          split at hr
          · cases hr
            rw [if_pos ‹_›]
          · cases hr

theorem peeks_space : Peeks Scan.space Scan.space where
  leaves h := by
    cases h
    exact List.dropWhile_suffix _
  grows h hne x := by
    cases h
    rw [Scan.space, skipSpace, Text.dropWhile_append_of_ne_nil hne x]
    rfl

/-! ## Strings and words -/

/-- The ways in which a unit of a string is written. -/
inductive Spells : Text → CodeUnit → Prop
  | plain {u : CodeUnit} : u ≠ Text.unit '"' → u ≠ Text.unit '\\' → ¬ u < 32 → Spells [u] u
  | short {e v : CodeUnit} : e ≠ Text.unit 'u' → shortEscape? e = some v →
      Spells [Text.unit '\\', e] v
  | hex {a b c d v : CodeUnit} : hexUnit? a b c d = some v →
      Spells [Text.unit '\\', Text.unit 'u', a, b, c, d] v

theorem stringBody_quote (t : Text) : stringBody (Text.unit '"' :: t) = some ([], t) := by
  rw [stringBody.eq_def]
  exact if_pos rfl

theorem Spells.stringBody {c : Text} {v : CodeUnit} (h : Spells c v) (t : Text) :
    stringBody (c ++ t) = (stringBody t).map fun r => (v :: r.1, r.2) := by
  have hquote : Text.unit '\\' ≠ Text.unit '"' := by decide
  cases h with
  | plain hq hb hc =>
      rw [List.singleton_append, Json.stringBody.eq_def]
      simp only [if_neg hq, if_neg hb, if_neg hc]
      cases Json.stringBody t <;> rfl
  | short hu hv =>
      rw [List.cons_append, List.singleton_append, Json.stringBody.eq_def]
      simp only [if_neg hquote, if_true, if_neg hu, hv]
      cases Json.stringBody t <;> rfl
  | hex hv =>
      simp only [List.cons_append, List.nil_append]
      rw [Json.stringBody.eq_def]
      simp only [if_neg hquote, if_true, hv]
      cases Json.stringBody t <;> rfl

theorem stringBody_cases {t s rest : Text} (h : stringBody t = some (s, rest)) :
    (s = [] ∧ t = Text.unit '"' :: rest) ∨
    ∃ c v s' t', Spells c v ∧ s = v :: s' ∧ t = c ++ t' ∧ stringBody t' = some (s', rest) := by
  rw [stringBody.eq_def] at h
  split at h
  · cases h
  · split at h
    · cases h
      subst_vars
      exact Or.inl ⟨rfl, rfl⟩
    · right
      split at h
      · subst_vars
        split at h
        · split at h
          · subst_vars
            split at h
            · split at h
              · cases h
                exact ⟨_, _, _, _, .hex ‹_›, rfl, rfl, ‹_›⟩
              · cases h
            · cases h
          · split at h
            · cases h
              exact ⟨_, _, _, _, .short ‹_› ‹_›, rfl, rfl, ‹_›⟩
            · cases h
        · cases h
      · split at h
        · cases h
        · split at h
          · cases h
            exact ⟨_, _, _, _, .plain ‹_› ‹_› ‹_›, rfl, rfl, ‹_›⟩
          · cases h

theorem closes_stringBody : Closes (Text.unit '"') stringBody stringBody where
  leaves {t} s rest h := by
    induction s generalizing t with
    | nil =>
        obtain ⟨-, rfl⟩ | ⟨_, _, _, _, _, hs, _⟩ := stringBody_cases h
        · exact List.suffix_rfl
        · cases hs
    | cons v s ih =>
        obtain ⟨hs, -⟩ | ⟨c, _, _, t', _, hs, rfl, ht'⟩ := stringBody_cases h
        · cases hs
        · cases hs
          exact (ih ht').trans (List.suffix_append c t')
  grows {t} s rest h x := by
    induction s generalizing t with
    | nil =>
        obtain ⟨-, rfl⟩ | ⟨_, _, _, _, _, hs, _⟩ := stringBody_cases h
        · exact stringBody_quote (rest ++ x)
        · cases hs
    | cons v s ih =>
        obtain ⟨hs, -⟩ | ⟨c, _, _, t', hc, hs, rfl, ht'⟩ := stringBody_cases h
        · cases hs
        · cases hs
          rw [List.append_assoc, hc.stringBody, ih ht']
          rfl

/-- A word that stands for a value. -/
def word (w : Text) (v : Json) : Scan Json := fun t => (Text.after? w t).map fun rest => (v, rest)

theorem peeks_word (w : Text) (v : Json) : Peeks (word w v) (word w v) where
  leaves {t} _ _ h := by
    obtain ⟨rest, hrest, heq⟩ := Option.map_eq_some_iff.mp h
    cases heq
    exact ⟨w, (Text.after?_eq_some hrest).symm⟩
  grows {t} _ _ h _ x := by
    obtain ⟨rest, hrest, heq⟩ := Option.map_eq_some_iff.mp h
    cases heq
    rw [word, Text.after?_eq_some hrest, List.append_assoc, Text.after?_append]
    rfl

/-! ## Numbers -/

theorem spanDigits_digit {u : CodeUnit} {d : Nat} (h : Text.digit? u = some d) (t : Text) :
    Number.spanDigits (u :: t) = (d :: (Number.spanDigits t).1, (Number.spanDigits t).2) := by
  rw [Number.spanDigits, h]

theorem spanDigits_other {u : CodeUnit} (h : Text.digit? u = none) (t : Text) :
    Number.spanDigits (u :: t) = ([], u :: t) := by
  rw [Number.spanDigits, h]

theorem spanDigits_suffix (t : Text) : (Number.spanDigits t).2 <:+ t := by
  induction t with
  | nil => exact List.suffix_rfl
  | cons u t ih =>
      cases hu : Text.digit? u with
      | none => simp only [spanDigits_other hu, List.suffix_rfl]
      | some d => rw [spanDigits_digit hu]; exact ih.trans (List.suffix_cons u t)

theorem spanDigits_append {t : Text} (h : (Number.spanDigits t).2 ≠ []) (x : Text) :
    Number.spanDigits (t ++ x) = ((Number.spanDigits t).1, (Number.spanDigits t).2 ++ x) := by
  induction t with
  | nil => exact absurd rfl h
  | cons u t ih =>
      rw [List.cons_append]
      cases hu : Text.digit? u with
      | none => rw [spanDigits_other hu, spanDigits_other hu]; rfl
      | some d =>
          rw [spanDigits_digit hu] at h
          rw [spanDigits_digit hu, spanDigits_digit hu, ih h]

theorem digits1_eq_some {t : Text} {ds : List Nat} {rest : Text} :
    digits1 t = some (ds, rest) ↔ ds ≠ [] ∧ Number.spanDigits t = (ds, rest) := by
  rw [digits1]
  obtain ⟨es, r⟩ := Number.spanDigits t
  cases es with
  | nil => simp +contextual
  | cons e es =>
      constructor
      · intro h
        cases h
        exact ⟨List.cons_ne_nil _ _, rfl⟩
      · rintro ⟨-, h⟩
        cases h
        rfl

theorem peeks_digits1 : Peeks digits1 digits1 where
  leaves {t} _ _ h := by
    obtain ⟨-, h⟩ := digits1_eq_some.mp h
    have hsuffix := spanDigits_suffix t
    rwa [h] at hsuffix
  grows {t} _ _ h hne x := by
    obtain ⟨hds, h⟩ := digits1_eq_some.mp h
    have happend := spanDigits_append (t := t) (by rwa [h]) x
    rw [h] at happend
    exact digits1_eq_some.mpr ⟨hds, happend⟩

/-- A leading zero is the whole integer part. -/
theorem integerPart_zero {u : CodeUnit} (h : Text.digit? u = some 0) (t : Text) :
    integerPart (u :: t) = some ([0], t) := by
  rw [integerPart, digits1, spanDigits_digit h]
  rfl

theorem integerPart_digits {u : CodeUnit} (h : Text.digit? u ≠ some 0) (t : Text) :
    integerPart (u :: t) = digits1 (u :: t) := by
  rw [integerPart, digits1]
  cases hu : Text.digit? u with
  | none => rw [spanDigits_other hu]
  | some d =>
      rw [spanDigits_digit hu]
      cases d with
      | zero => exact absurd hu h
      | succ d => rfl

theorem peeks_integerPart : Peeks integerPart integerPart where
  leaves {t} _ _ h := by
    cases t with
    | nil => cases h
    | cons u t =>
        by_cases hu : Text.digit? u = some 0
        · rw [integerPart_zero hu] at h
          cases h
          exact List.suffix_cons u _
        · rw [integerPart_digits hu] at h
          exact peeks_digits1.leaves h
  grows {t} _ _ h hne x := by
    cases t with
    | nil => cases h
    | cons u t =>
        rw [List.cons_append]
        by_cases hu : Text.digit? u = some 0
        · rw [integerPart_zero hu] at h
          cases h
          exact integerPart_zero hu _
        · rw [integerPart_digits hu] at h
          rw [integerPart_digits hu]
          exact peeks_digits1.grows h hne x

theorem peeks_fractionPart : Peeks fractionPart fractionPart where
  leaves {t} _ _ h := by
    cases t with
    | nil => cases h; exact List.suffix_rfl
    | cons u t =>
        rw [fractionPart] at h
        split at h
        · exact (peeks_digits1.leaves h).trans (List.suffix_cons u t)
        · cases h; exact List.suffix_rfl
  grows {t} _ _ h hne x := by
    cases t with
    | nil => cases h; exact absurd rfl hne
    | cons u t =>
        rw [List.cons_append, fractionPart]
        rw [fractionPart] at h
        split at h
        · rw [if_pos ‹_›]
          exact peeks_digits1.grows h hne x
        · cases h
          exact if_neg ‹_›

/-- The digits of an exponent with the given sign. -/
def exponentDigits (negative : Bool) : Scan Int :=
  Scan.map (fun ds => if negative then -(Text.digitsValue 10 ds : Int) else Text.digitsValue 10 ds)
    digits1

theorem exponentPart_eq {u : CodeUnit} (h : u = Text.unit 'e' ∨ u = Text.unit 'E') (s : CodeUnit)
    (t : Text) : exponentPart (u :: s :: t) =
      if s = Text.unit '-' then exponentDigits true t
      else if s = Text.unit '+' then exponentDigits false t
      else exponentDigits false (s :: t) := by
  have hu : (decide (u = Text.unit 'e') || decide (u = Text.unit 'E')) = true := by simpa using h
  rw [exponentPart.eq_def]
  simp only [hu, if_true, exponentDigits, Scan.map]
  by_cases hminus : s = Text.unit '-'
  · simp only [if_pos hminus]
    cases digits1 t <;> rfl
  · by_cases hplus : s = Text.unit '+'
    · simp only [if_neg hminus, if_pos hplus]
      cases digits1 t <;> rfl
    · simp only [if_neg hminus, if_neg hplus]
      cases digits1 (s :: t) <;> rfl

theorem exponentPart_absent {u : CodeUnit} (h : ¬(u = Text.unit 'e' ∨ u = Text.unit 'E'))
    (t : Text) : exponentPart (u :: t) = some (0, u :: t) := by
  have hu : (decide (u = Text.unit 'e') || decide (u = Text.unit 'E')) = false := by simpa using h
  rw [exponentPart.eq_def]
  simp only [hu, Bool.false_eq_true, if_false]

theorem exponentPart_mark {u : CodeUnit} (h : u = Text.unit 'e' ∨ u = Text.unit 'E') :
    exponentPart [u] = none := by
  have hu : (decide (u = Text.unit 'e') || decide (u = Text.unit 'E')) = true := by simpa using h
  rw [exponentPart.eq_def]
  simp only [hu, if_true]

theorem peeks_exponentDigits (negative : Bool) :
    Peeks (exponentDigits negative) (exponentDigits negative) := peeks_digits1.map _

theorem peeks_exponentPart : Peeks exponentPart exponentPart where
  leaves {t} _ _ h := by
    cases t with
    | nil => cases h; exact List.suffix_rfl
    | cons u t =>
        by_cases hu : u = Text.unit 'e' ∨ u = Text.unit 'E'
        · cases t with
          | nil => rw [exponentPart_mark hu] at h; cases h
          | cons s t =>
              have hbehind : t <:+ u :: s :: t := List.suffix_append [u, s] t
              rw [exponentPart_eq hu] at h
              split at h
              · exact ((peeks_exponentDigits true).leaves h).trans hbehind
              · split at h
                · exact ((peeks_exponentDigits false).leaves h).trans hbehind
                · exact ((peeks_exponentDigits false).leaves h).trans (List.suffix_cons u _)
        · rw [exponentPart_absent hu] at h
          cases h
          exact List.suffix_rfl
  grows {t} _ _ h hne x := by
    cases t with
    | nil => cases h; exact absurd rfl hne
    | cons u t =>
        rw [List.cons_append]
        by_cases hu : u = Text.unit 'e' ∨ u = Text.unit 'E'
        · cases t with
          | nil => rw [exponentPart_mark hu] at h; cases h
          | cons s t =>
              rw [List.cons_append, exponentPart_eq hu]
              rw [exponentPart_eq hu] at h
              split at h
              · rw [if_pos ‹_›]
                exact (peeks_exponentDigits true).grows h hne x
              · rw [if_neg ‹_›]
                split at h
                · rw [if_pos ‹_›]
                  exact (peeks_exponentDigits false).grows h hne x
                · rw [if_neg ‹_›]
                  exact (peeks_exponentDigits false).grows h hne x
        · rw [exponentPart_absent hu] at h
          cases h
          exact exponentPart_absent hu _

/-- A number behind its sign. -/
def magnitude (negative : Bool) : Scan Number :=
  Scan.bind integerPart fun whole => Scan.bind fractionPart fun fraction =>
    Scan.map (fun e => Number.ofDecimal negative (Text.digitsValue 10 (whole ++ fraction))
      (e - fraction.length)) exponentPart

theorem peeks_magnitude (negative : Bool) : Peeks (magnitude negative) (magnitude negative) :=
  peeks_integerPart.bind fun _ => peeks_fractionPart.bind fun _ => peeks_exponentPart.map _

theorem number_cons (u : CodeUnit) (t : Text) :
    number (u :: t) =
      if u = Text.unit '-' then magnitude true t else magnitude false (u :: t) := by
  have hparts (negative : Bool) (r : Text) : magnitude negative r =
      (integerPart r).bind fun w => (fractionPart w.2).bind fun f => (exponentPart f.2).bind fun e =>
        some (Number.ofDecimal negative (Text.digitsValue 10 (w.1 ++ f.1)) (e.1 - f.1.length),
          e.2) := by
    simp only [magnitude, Scan.bind, Scan.map]
    cases integerPart r with
    | none => rfl
    | some w =>
        cases hf : fractionPart w.2 with
        | none => simp [hf]
        | some f => cases he : exponentPart f.2 <;> simp [hf, he]
  rw [hparts, hparts, number]
  by_cases hu : u = Text.unit '-'
  · simp only [if_pos hu]
    rfl
  · simp only [if_neg hu]
    rfl

theorem peeks_number : Peeks number number where
  leaves {t} _ _ h := by
    cases t with
    | nil => cases h
    | cons u t =>
        rw [number_cons] at h
        split at h
        · exact ((peeks_magnitude true).leaves h).trans (List.suffix_cons u t)
        · exact (peeks_magnitude false).leaves h
  grows {t} _ _ h hne x := by
    cases t with
    | nil => cases h
    | cons u t =>
        rw [number_cons] at h
        rw [List.cons_append, number_cons]
        split at h
        · rw [if_pos ‹_›]
          exact (peeks_magnitude true).grows h hne x
        · rw [if_neg ‹_›]
          exact (peeks_magnitude false).grows h hne x

/-! ## Values -/

theorem Scan.bind_some {S : Scan α} {t rest : Text} {a : α} (h : S t = some (a, rest))
    (F : α → Scan β) : S.bind F t = F a rest := by
  rw [Scan.bind, h]
  rfl

theorem Scan.bind_none {S : Scan α} {t : Text} (h : S t = none) (F : α → Scan β) :
    S.bind F t = none := by
  rw [Scan.bind, h]
  rfl

theorem Scan.space_bind (F : Unit → Scan β) (t : Text) :
    Scan.space.bind F t = F () (skipSpace t) := rfl

/-- The content of an array whose opening bracket has been read. -/
def arrayBody (n : Nat) : Scan Json :=
  Scan.space.bind fun _ => Scan.orEmpty (Text.unit ']') (.arr []) (Scan.map .arr (items n))

/-- The content of an object whose opening brace has been read. -/
def objectBody (n : Nat) : Scan Json :=
  Scan.space.bind fun _ =>
    Scan.orEmpty (Text.unit '\x7d') (.obj []) (Scan.map (fun ms => .obj (ofPairs ms)) (members n))

theorem items_succ (n : Nat) :
    items (n + 1) = Scan.bind (value n) fun x => Scan.space.bind fun _ =>
      Scan.orEnd (Text.unit ']') [x] (Scan.map (x :: ·) (Scan.space.bind fun _ => items n)) := by
  funext t
  rw [items]
  cases h : value n t with
  | none => rw [Scan.bind_none h]
  | some r =>
      obtain ⟨x, rest⟩ := r
      rw [Scan.bind_some h, Scan.space_bind]
      dsimp only
      cases skipSpace rest <;> rfl

theorem members_succ (n : Nat) :
    members (n + 1) = Scan.after (Text.unit '"') (Scan.bind stringBody fun key =>
      Scan.space.bind fun _ => Scan.after (Text.unit ':') (Scan.space.bind fun _ =>
        Scan.bind (value n) fun x => Scan.space.bind fun _ =>
          Scan.orEnd (Text.unit '\x7d') [(key, x)]
            (Scan.map ((key, x) :: ·) (Scan.space.bind fun _ => members n)))) := by
  funext t
  cases t with
  | nil => rfl
  | cons q r =>
      rw [members, Scan.after]
      split
      · cases hkey : stringBody r with
        | none => rw [Scan.bind_none hkey]
        | some k =>
            obtain ⟨key, rest⟩ := k
            rw [Scan.bind_some hkey, Scan.space_bind]
            dsimp only
            cases skipSpace rest with
            | nil => rfl
            | cons c r =>
                rw [Scan.after, Scan.space_bind]
                dsimp only
                cases hx : value n (skipSpace r) with
                | none => rw [Scan.bind_none hx]
                | some y =>
                    obtain ⟨x, rest⟩ := y
                    rw [Scan.bind_some hx, Scan.space_bind]
                    dsimp only
                    cases skipSpace rest <;> rfl
      · rfl

theorem value_succ (n : Nat) :
    value (n + 1) = Scan.peek fun u =>
      if u = Text.unit '"' then Scan.after (Text.unit '"') (Scan.map Json.str stringBody)
      else if u = Text.unit '[' then Scan.after (Text.unit '[') (arrayBody n)
      else if u = Text.unit '\x7b' then Scan.after (Text.unit '\x7b') (objectBody n)
      else if u = Text.unit 't' then word "true" (.bool true)
      else if u = Text.unit 'f' then word "false" (.bool false)
      else if u = Text.unit 'n' then word "null" .null
      else Scan.map Json.num number := by
  funext t
  cases t with
  | nil => rfl
  | cons u t =>
      rw [value, Scan.peek]
      split
      · rw [Scan.after, if_pos ‹_›]
        rfl
      · split
        · rw [Scan.after, if_pos ‹_›, arrayBody, Scan.space_bind]
          cases skipSpace t <;> rfl
        · split
          · rw [Scan.after, if_pos ‹_›, objectBody, Scan.space_bind]
            cases skipSpace t <;> rfl
          · split
            · subst u
              rfl
            · split
              · subst u
                rfl
              · split
                · subst u
                  rfl
                · rfl

/-- What the beginning of a text is read as does not change when the text goes on, nor with more
fuel. -/
theorem scans_grow {n m : Nat} (h : n ≤ m) :
    Peeks (value n) (value m) ∧ Closes (Text.unit ']') (items n) (items m) ∧
      Closes (Text.unit '\x7d') (members n) (members m) := by
  -- The three readings call each other with less fuel, so one induction on it serves them all.
  induction n generalizing m with
  | zero =>
      exact ⟨⟨nofun, nofun⟩, ⟨nofun, nofun⟩, ⟨nofun, nofun⟩⟩
  | succ n ih =>
      obtain ⟨m, rfl⟩ : ∃ k, m = k + 1 := ⟨m - 1, by omega⟩
      obtain ⟨hvalue, hitems, hmembers⟩ := ih (Nat.le_of_succ_le_succ h)
      have harray : Closes (Text.unit ']') (arrayBody n) (arrayBody m) :=
        peeks_space.bind_closes fun _ => (hitems.map Json.arr).orEmpty _
      have hobject : Closes (Text.unit '\x7d') (objectBody n) (objectBody m) :=
        peeks_space.bind_closes fun _ => (hmembers.map _).orEmpty _
      refine ⟨?_, ?_, ?_⟩
      · rw [value_succ, value_succ]
        exact .peek fun u => .ite _ ((closes_stringBody.map Json.str).after _).peeks <|
          .ite _ (harray.after _).peeks <| .ite _ (hobject.after _).peeks <|
          .ite _ (peeks_word ..) <| .ite _ (peeks_word ..) <| .ite _ (peeks_word ..) <|
          peeks_number.map Json.num
      · rw [items_succ, items_succ]
        exact hvalue.bind_closes fun x => peeks_space.bind_closes fun _ =>
          ((peeks_space.bind_closes fun _ => hitems).map (x :: ·)).orEnd [x]
      · rw [members_succ, members_succ]
        refine .after (closes_stringBody.peeks.bind_closes fun key =>
          peeks_space.bind_closes fun _ => .after ?_ _) _
        exact peeks_space.bind_closes fun _ => hvalue.bind_closes fun x =>
          peeks_space.bind_closes fun _ =>
            ((peeks_space.bind_closes fun _ => hmembers).map ((key, x) :: ·)).orEnd _

/-! ## Where a value begins -/

/-- The units with which a value may begin. -/
def Starts (u : CodeUnit) : Prop :=
  u = Text.unit '"' ∨ u = Text.unit '[' ∨ u = Text.unit '\x7b' ∨ u = Text.unit 't' ∨
    u = Text.unit 'f' ∨ u = Text.unit 'n' ∨ u = Text.unit '-' ∨ (Text.digit? u).isSome

instance (u : CodeUnit) : Decidable (Starts u) := by
  unfold Starts
  infer_instance

theorem number_eq_none {u : CodeUnit} (hminus : u ≠ Text.unit '-') (hdigit : Text.digit? u = none)
    (t : Text) : number (u :: t) = none := by
  rw [number_cons, if_neg hminus, magnitude, Scan.bind, integerPart_digits (by rw [hdigit]; nofun),
    digits1, spanDigits_other hdigit]
  rfl

theorem value_eq_none {u : CodeUnit} (h : ¬ Starts u) (n : Nat) (t : Text) :
    value n (u :: t) = none := by
  cases n with
  | zero => rfl
  | succ n =>
      simp only [Starts, not_or, Option.not_isSome_iff_eq_none] at h
      obtain ⟨hquote, hbracket, hbrace, ht, hf, hn, hminus, hdigit⟩ := h
      rw [value_succ, Scan.peek, if_neg hquote, if_neg hbracket, if_neg hbrace, if_neg ht,
        if_neg hf, if_neg hn, Scan.map, number_eq_none hminus hdigit]
      rfl

theorem not_starts_of_isBlank {u : CodeUnit} (h : Text.isBlank u) : ¬ Starts u := by
  intro hu
  rcases hu with rfl | rfl | rfl | rfl | rfl | rfl | rfl | hu
  all_goals try exact absurd h (by decide)
  rw [Text.digit?] at hu
  split at hu
  · rename_i hd
    simp only [Text.isBlank, Bool.and_eq_true, Bool.or_eq_true, decide_eq_true_eq, beq_iff_eq,
      UInt16.le_iff_toNat_le, ← UInt16.toNat_inj, UInt16.reduceToNat] at h hd
    omega
  · cases hu

theorem value_array (n : Nat) (t : Text) : value (n + 1) (Text.unit '[' :: t) = arrayBody n t := by
  rw [value_succ]
  rfl

theorem value_object (n : Nat) (t : Text) :
    value (n + 1) (Text.unit '\x7b' :: t) = objectBody n t := by
  rw [value_succ]
  rfl

/-- Behind white space, of whatever kind, only what a value begins with is read. -/
theorem parse?_blank_append {a t : Text} (ha : ∀ u ∈ a, Text.isBlank u)
    (ht : ∀ n, value n (skipSpace t) = none) : parse? (a ++ t) = none := by
  have hvalue : ∀ n, value n (skipSpace (a ++ t)) = none := by
    intro n
    induction a with
    | nil => exact ht n
    | cons u a ih =>
        rw [List.cons_append, skipSpace, List.dropWhile_cons]
        split
        · exact ih fun v hv => ha v (List.mem_cons_of_mem u hv)
        · exact value_eq_none (not_starts_of_isBlank (ha u (List.mem_cons_self ..))) n _
  rw [parse?, hvalue]

/-! ## Object texts -/

theorem parse?_eq_some {t : Text} {v : Json} :
    parse? t = some v ↔
      ∃ rest, value (t.length + 1) (skipSpace t) = some (v, rest) ∧ skipSpace rest = [] := by
  rw [parse?]
  cases value (t.length + 1) (skipSpace t) with
  | none => simp
  | some r =>
      obtain ⟨w, rest⟩ := r
      by_cases hrest : skipSpace rest = []
      · simp only [hrest, List.isEmpty_nil, if_true, Option.some.injEq, Prod.mk.injEq]
        constructor
        · rintro rfl
          exact ⟨rest, ⟨rfl, rfl⟩, hrest⟩
        · rintro ⟨_, ⟨h, -⟩, -⟩
          exact h
      · simp [hrest]

theorem skipSpace_append {t : Text} (h : skipSpace t ≠ []) (x : Text) :
    skipSpace (t ++ x) = skipSpace t ++ x := Text.dropWhile_append_of_ne_nil h x

theorem arrayBody_ne_object {n : Nat} {t rest : Text} {ms : Members} :
    arrayBody n t ≠ some (.obj ms, rest) := by
  intro h
  rw [arrayBody, Scan.space_bind] at h
  cases hs : skipSpace t with
  | nil => rw [hs] at h; cases h
  | cons u r =>
      rw [hs, Scan.orEmpty] at h
      split at h
      · cases h
      · simp [Scan.map] at h

/-- Only a text that begins with a brace is read as an object. -/
theorem value_eq_object {n : Nat} {t rest : Text} {ms : Members}
    (h : value (n + 1) t = some (.obj ms, rest)) : ∃ s, t = Text.unit '\x7b' :: s := by
  cases t with
  | nil => cases h
  | cons u t =>
      by_cases hu : u = Text.unit '\x7b'
      · exact ⟨t, by rw [hu]⟩
      · exfalso
        rw [value_succ, Scan.peek, if_neg hu] at h
        split at h
        · simp [Scan.after, Scan.map] at h
        · split at h
          · rw [Scan.after, if_pos ‹_›] at h
            exact arrayBody_ne_object h
          · repeat' split at h
            all_goals simp [Scan.map, word] at h

theorem closes_objectBody {n m : Nat} (h : n ≤ m) :
    Closes (Text.unit '\x7d') (objectBody n) (objectBody m) :=
  peeks_space.bind_closes fun _ => ((scans_grow h).2.2.map _).orEmpty _

/-- A beginning of the text of an object, white space apart, is a beginning of its braces' content
behind the first brace. -/
theorem skipSpace_object_beginning {p q : Text} {ms : Members} (h : parse? p = some (.obj ms))
    (hq : q <+: p) : skipSpace q = [] ∨
      ∃ s y rest, skipSpace q = Text.unit '\x7b' :: s ∧ p = q ++ y ∧
        objectBody p.length (s ++ y) = some (.obj ms, rest) := by
  obtain ⟨y, rfl⟩ := hq
  obtain ⟨rest, hvalue, -⟩ := parse?_eq_some.mp h
  by_cases hnil : skipSpace q = []
  · exact Or.inl hnil
  · rw [skipSpace_append hnil] at hvalue
    obtain ⟨s, hs⟩ := value_eq_object hvalue
    cases hskip : skipSpace q with
    | nil => exact absurd hskip hnil
    | cons u s' =>
        rw [hskip, List.cons_append, List.cons.injEq] at hs
        obtain ⟨rfl, rfl⟩ := hs
        rw [hskip, List.cons_append, value_object] at hvalue
        exact Or.inr ⟨s', y, rest, rfl, rfl, hvalue⟩

/-- A beginning of the text of an object denotes the object or nothing. -/
theorem parse?_object_beginning {p q : Text} {ms : Members} (h : parse? p = some (.obj ms))
    (hq : q <+: p) {v : Json} (hv : parse? q = some v) : v = .obj ms := by
  obtain ⟨rest, hvalue, -⟩ := parse?_eq_some.mp hv
  rcases skipSpace_object_beginning h hq with hnil | ⟨s, y, rest', hs, hp, hbody⟩
  · rw [hnil] at hvalue
    cases hvalue
  · rw [hs, value_object] at hvalue
    rw [(closes_objectBody hq.length_le).grows hvalue y] at hbody
    cases hbody
    rfl

theorem isSpace_of_skipSpace_eq_nil {t : Text} (h : skipSpace t = []) : ∀ u ∈ t, isSpace u :=
  Text.forall_of_dropWhile_eq_nil h

theorem isBlank_of_isSpace {u : CodeUnit} (h : isSpace u) : Text.isBlank u := by
  simp only [isSpace, Bool.or_eq_true, beq_iff_eq] at h
  rcases h with ((rfl | rfl) | rfl) | rfl <;> rfl

theorem value_replacement (n : Nat) : value n (skipSpace [0xFFFD]) = none :=
  value_eq_none (by decide) n []

/-- A beginning of the text of an object, with a replacement character behind it, denotes nothing:
the text of an object ends with a brace and white space. -/
theorem parse?_concat_replacement {p q : Text} {ms : Members} (h : parse? p = some (.obj ms))
    (hq : q <+: p) : parse? (q ++ [0xFFFD]) = none := by
  rcases skipSpace_object_beginning h hq with hnil | ⟨s, _, _, hs, -, -⟩
  · exact parse?_blank_append (fun u hu => isBlank_of_isSpace
      (isSpace_of_skipSpace_eq_nil hnil u hu)) value_replacement
  · cases hv : parse? (q ++ [0xFFFD]) with
    | none => rfl
    | some v =>
        exfalso
        obtain ⟨rest, hvalue, hrest⟩ := parse?_eq_some.mp hv
        rw [skipSpace_append (by rw [hs]; exact List.cons_ne_nil _ _), hs, List.cons_append,
          value_object] at hvalue
        have hend := (closes_objectBody (Nat.le_refl _)).leaves hvalue
        rcases List.suffix_concat_iff.mp hend with hend | ⟨t, ht, -⟩
        · cases hend
        · cases t with
          | nil => cases ht
          | cons w t =>
              obtain ⟨-, rfl⟩ := List.cons.inj ht
              have hspace : isSpace 0xFFFD = true := isSpace_of_skipSpace_eq_nil hrest 0xFFFD
                (List.mem_append_right t (List.mem_singleton.mpr rfl))
              cases hspace

end ChatRelay.Json
