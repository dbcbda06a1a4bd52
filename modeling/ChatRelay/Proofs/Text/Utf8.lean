import ChatRelay.Text.Utf8

/-!
# UTF-8, read as a whole

`Utf8.Decoder` reads byte after byte. `Utf8.points` reads a whole byte sequence: at each place it
takes the longest beginning of a well-formed character, which is the code point of the character if
it is complete and U+FFFD if it is not. The table of well-formed characters is `tails?`.

The two agree (`decode_eq_text`): a decoder in the middle of a character stands for the ranges that
the character still needs (`Needs`), and every byte keeps it that way.
-/

namespace ChatRelay.Utf8

/-- The range of a continuation byte without special bounds. -/
def anyTail : UInt8 × UInt8 := (0x80, 0xBF)

/-- The ranges of the bytes that complete a character with a given first byte; `none` for a byte
that begins no character. -/
def tails? (b : UInt8) : Option (List (UInt8 × UInt8)) :=
  if b ≤ 0x7F then some []
  else if b < 0xC2 then none
  else if b ≤ 0xDF then some [anyTail]
  else if b = 0xE0 then some [(0xA0, 0xBF), anyTail]
  else if b = 0xED then some [(0x80, 0x9F), anyTail]
  else if b ≤ 0xEF then some [anyTail, anyTail]
  else if b = 0xF0 then some [(0x90, 0xBF), anyTail, anyTail]
  else if b < 0xF4 then some [anyTail, anyTail, anyTail]
  else if b = 0xF4 then some [(0x80, 0x8F), anyTail, anyTail]
  else none

/-- The bits that the first byte of a character of `1 + n` bytes gives. -/
def leadBits (b : UInt8) : Nat → Nat
  | 0 => b.toNat
  | 1 => b.toNat - 0xC0
  | 2 => b.toNat - 0xE0
  | _ => b.toNat - 0xF0

/-- The bits read so far, followed by six bits of every continuation byte. -/
def withTails (bits : Nat) (bytes : List UInt8) : Nat :=
  bytes.foldl (fun n b => n * 64 + (b.toNat - 0x80)) bits

/-- How many bytes lie in the ranges, one after another. -/
def fitting : List (UInt8 × UInt8) → List UInt8 → Nat
  | [], _ => 0
  | _ :: _, [] => 0
  | r :: ranges, b :: bytes => if r.1 ≤ b ∧ b ≤ r.2 then fitting ranges bytes + 1 else 0

/-- The code points of a byte sequence. -/
def points : List UInt8 → List Nat
  | [] => []
  | b :: bytes =>
    match tails? b with
    | none => replacement :: points bytes
    | some ranges =>
      let n := fitting ranges bytes
      (if n = ranges.length then withTails (leadBits b ranges.length) (bytes.take n) else replacement)
        :: points (bytes.drop n)
termination_by bytes => bytes.length
decreasing_by all_goals (simp only [List.length_cons, List.length_drop]; omega)

/-- The text of a byte sequence; a byte order mark at its beginning is dropped. -/
def text (bytes : List UInt8) : Text :=
  match points bytes with
  | [] => []
  | p :: ps => (if p = 0xFEFF then ps else p :: ps).flatMap Text.ofPoint

/-! ## Code points, byte by byte -/

/-- The code points that the decoder's steps complete, up to the end of the input. -/
def stepPoints : Option Sequence → List UInt8 → List Nat
  | none, [] => []
  | some _, [] => [replacement]
  | s, b :: bytes => (stepByte s b).2 ++ stepPoints (stepByte s b).1 bytes

/-- A character under way needs bytes in these ranges. -/
structure Needs (s : Sequence) (ranges : List (UInt8 × UInt8)) : Prop where
  first : ranges.head? = some (s.lower, s.upper)
  rest : ∀ r ∈ ranges.tail, r = anyTail
  length : ranges.length = s.missing

/-- The code points of bytes in the middle of a character. -/
def pointsFrom (bits : Nat) (ranges : List (UInt8 × UInt8)) (bytes : List UInt8) : List Nat :=
  (if fitting ranges bytes = ranges.length then withTails bits (bytes.take (fitting ranges bytes))
    else replacement) :: points (bytes.drop (fitting ranges bytes))

theorem points_cons (b : UInt8) (bytes : List UInt8) :
    points (b :: bytes) =
      match tails? b with
      | none => replacement :: points bytes
      | some ranges => pointsFrom (leadBits b ranges.length) ranges bytes := by
  rw [points]
  cases tails? b with
  | none => rfl
  | some ranges => rfl

/-- A byte in its range is one of the bytes that a character takes up. -/
theorem pointsFrom_cons {r : UInt8 × UInt8} {b : UInt8} (h : r.1 ≤ b ∧ b ≤ r.2) (bits : Nat)
    (ranges : List (UInt8 × UInt8)) (bytes : List UInt8) :
    pointsFrom bits (r :: ranges) (b :: bytes)
      = pointsFrom (bits * 64 + (b.toNat - 0x80)) ranges bytes := by
  have hfit : fitting (r :: ranges) (b :: bytes) = fitting ranges bytes + 1 := by
    rw [fitting, if_pos h]
  simp only [pointsFrom, hfit, List.length_cons, Nat.add_right_cancel_iff, List.take_succ_cons,
    List.drop_succ_cons, withTails, List.foldl_cons]

/-- A byte out of its range is none of them. -/
theorem pointsFrom_cons_out {r : UInt8 × UInt8} {b : UInt8} (h : ¬(r.1 ≤ b ∧ b ≤ r.2))
    (bits : Nat) (ranges : List (UInt8 × UInt8)) (bytes : List UInt8) :
    pointsFrom bits (r :: ranges) (b :: bytes) = replacement :: points (b :: bytes) := by
  have hfit : fitting (r :: ranges) (b :: bytes) = 0 := by rw [fitting, if_neg h]
  rw [pointsFrom, hfit, if_neg (by simp)]
  rfl

/-- What a byte does where no character is under way, read off the table. -/
def leadStep (b : UInt8) : Option Sequence × List Nat :=
  match tails? b with
  | none => (none, [replacement])
  | some [] => (none, [leadBits b 0])
  | some (r :: ranges) =>
    (some ⟨ranges.length + 1, r.1, r.2, leadBits b (ranges.length + 1)⟩, [])

theorem stepLead_eq (b : UInt8) : stepLead b = leadStep b := by
  -- The four first bytes with special bounds; between them the ranges of both tables coincide.
  by_cases hE0 : b = 0xE0
  · subst hE0; decide
  by_cases hED : b = 0xED
  · subst hED; decide
  by_cases hF0 : b = 0xF0
  · subst hF0; decide
  by_cases hF4 : b = 0xF4
  · subst hF4; decide
  have h0 : b.toNat ≠ 0xE0 := fun h => hE0 (UInt8.toNat_inj.mp h)
  have h1 : b.toNat ≠ 0xED := fun h => hED (UInt8.toNat_inj.mp h)
  have h2 : b.toNat ≠ 0xF0 := fun h => hF0 (UInt8.toNat_inj.mp h)
  have h3 : b.toNat ≠ 0xF4 := fun h => hF4 (UInt8.toNat_inj.mp h)
  simp only [stepLead, lead, leadStep, tails?, hE0, hED, hF0, hF4, if_false, Bool.and_eq_true,
    decide_eq_true_eq, UInt8.le_iff_toNat_le, UInt8.lt_iff_toNat_lt, UInt8.reduceToNat]
  rcases (by omega : b.toNat ≤ 0x7F ∨ (0x80 ≤ b.toNat ∧ b.toNat < 0xC2)
      ∨ (0xC2 ≤ b.toNat ∧ b.toNat ≤ 0xDF) ∨ (0xE1 ≤ b.toNat ∧ b.toNat ≤ 0xEF)
      ∨ (0xF1 ≤ b.toNat ∧ b.toNat < 0xF4) ∨ 0xF5 ≤ b.toNat) with h | h | h | h | h | h
  all_goals simp (disch := omega) only [if_pos, if_neg]
  all_goals rfl

/-- Only the second byte of a character can have special bounds. -/
theorem tails?_tail {b : UInt8} {ranges : List (UInt8 × UInt8)} (h : tails? b = some ranges) :
    ∀ r ∈ ranges.tail, r = anyTail := by
  unfold tails? at h
  repeat' split at h
  all_goals cases h
  all_goals simp only [List.tail_cons, List.tail_nil, List.mem_cons, List.not_mem_nil, or_false,
    or_self, imp_self, implies_true, false_imp_iff]

theorem stepPoints_lead (b : UInt8) (bytes : List UInt8)
    (hnone : stepPoints none bytes = points bytes)
    (hsome : ∀ s ranges, Needs s ranges →
      stepPoints (some s) bytes = pointsFrom s.bits ranges bytes) :
    (stepLead b).2 ++ stepPoints (stepLead b).1 bytes = points (b :: bytes) := by
  rw [points_cons, stepLead_eq, leadStep]
  cases ht : tails? b with
  | none => rw [hnone]; rfl
  | some ranges =>
      cases ranges with
      | nil => rw [hnone]; rfl
      | cons r ranges => exact hsome _ _ ⟨rfl, tails?_tail ht, rfl⟩

/-- The decoder's code points are those of the bytes as a whole; in the middle of a character, those
of the bytes behind its beginning. -/
theorem stepPoints_eq (bytes : List UInt8) :
    stepPoints none bytes = points bytes ∧
      ∀ s ranges, Needs s ranges →
        stepPoints (some s) bytes = pointsFrom s.bits ranges bytes := by
  induction bytes with
  | nil =>
      refine ⟨by rw [stepPoints, points], fun s ranges hneeds => ?_⟩
      cases ranges with
      | nil => cases hneeds.first
      | cons r ranges =>
          rw [stepPoints, pointsFrom, fitting, if_neg (by simp), List.drop_nil, points]
  | cons b bytes ih =>
      obtain ⟨hnone, hsome⟩ := ih
      have hlead := stepPoints_lead b bytes hnone hsome
      refine ⟨hlead, fun s ranges hneeds => ?_⟩
      cases ranges with
      | nil => cases hneeds.first
      | cons r ranges =>
          obtain rfl : r = (s.lower, s.upper) := Option.some.inj hneeds.first
          have hlength := hneeds.length
          simp only [stepPoints, stepByte, Bool.and_eq_true, decide_eq_true_eq]
          by_cases hb : s.lower ≤ b ∧ b ≤ s.upper
          · rw [pointsFrom_cons hb, if_pos hb]
            cases ranges with
            | nil =>
                rw [if_pos (by simp at hlength; omega), hnone]
                simp [pointsFrom, fitting, withTails]
            | cons r ranges =>
                obtain rfl : r = anyTail := hneeds.rest r (by simp)
                rw [if_neg (by simp at hlength; omega)]
                refine hsome _ (anyTail :: ranges) ⟨rfl, fun x hx => ?_, ?_⟩
                · exact hneeds.rest x (List.mem_cons_of_mem _ hx)
                · simp at hlength ⊢
                  omega
          -- A byte outside of the range ends the character and is read again, as a first byte.
          · rw [pointsFrom_cons_out hb, if_neg hb, ← hlead]
            rfl

/-! ## The text -/

theorem emit_append (started : Bool) (p q : List Nat) :
    (emit started (p ++ q)).2 = (emit started p).2 ++ (emit (emit started p).1 q).2 := by
  cases started with
  | true => cases p <;> cases q <;> simp [emit]
  | false =>
      cases p with
      | nil => cases q <;> simp [emit]
      | cons x p =>
          cases q with
          | nil => simp [emit]
          | cons y q => by_cases hx : x = 0xFEFF <;> simp [emit, hx]

/-- A piece of the input and the end of the input write what their code points are. -/
theorem run_flush_eq_emit (d : Decoder) (bytes : List UInt8) :
    (d.run bytes).2 ++ (d.run bytes).1.flush
      = (emit d.started (stepPoints d.sequence bytes)).2 := by
  induction bytes generalizing d with
  | nil =>
      obtain ⟨sequence, started⟩ := d
      cases sequence with
      | none => cases started <;> rfl
      | some s => rfl
  | cons b bytes ih =>
      have hstep : d.step b
          = (⟨(stepByte d.sequence b).1, (emit d.started (stepByte d.sequence b).2).1⟩,
              (emit d.started (stepByte d.sequence b).2).2) := rfl
      rw [Decoder.run, stepPoints, emit_append, hstep]
      rw [List.append_assoc, ih]

/-- Decoding byte after byte gives the text of the bytes as a whole. -/
theorem decode_eq_text (bytes : List UInt8) : decode bytes = text bytes := by
  have hemit : decode bytes = (emit false (stepPoints none bytes)).2 :=
    run_flush_eq_emit .fresh bytes
  rw [hemit, (stepPoints_eq bytes).1, text]
  cases points bytes <;> rfl

end ChatRelay.Utf8
