import ChatRelay.Proofs.Text.Utf8

/-!
# Text through UTF-8

Text whose surrogates come in pairs survives its encoding: the bytes of a code point that is no
surrogate read back as the code point, whatever bytes follow (`points_encodePoint`), so the bytes of
the text read back as the text, unless it begins with a byte order mark (`text_encode`).
-/

namespace ChatRelay

namespace Text

/-- Surrogates stand in pairs only. -/
inductive Paired : Text → Prop
  | nil : Paired []
  | unit {u : CodeUnit} {t : Text} : isHighSurrogate u = false → isLowSurrogate u = false →
      Paired t → Paired (u :: t)
  | pair {u v : CodeUnit} {t : Text} : isHighSurrogate u = true → isLowSurrogate v = true →
      Paired t → Paired (u :: v :: t)

/-- A code point that is no surrogate. -/
def IsScalar (point : Nat) : Prop := point < 0xD800 ∨ 0xDFFF < point ∧ point < 0x110000

theorem Paired.append {s t : Text} (hs : Paired s) (ht : Paired t) : Paired (s ++ t) := by
  induction hs with
  | nil => exact ht
  | unit hhigh hlow _ ih => exact .unit hhigh hlow ih
  | pair hhigh hlow _ ih => exact .pair hhigh hlow ih

theorem isHighSurrogate_iff {u : CodeUnit} :
    isHighSurrogate u = true ↔ 0xD800 ≤ u.toNat ∧ u.toNat ≤ 0xDBFF := by
  simp [isHighSurrogate, UInt16.le_iff_toNat_le]

theorem isLowSurrogate_iff {u : CodeUnit} :
    isLowSurrogate u = true ↔ 0xDC00 ≤ u.toNat ∧ u.toNat ≤ 0xDFFF := by
  simp [isLowSurrogate, UInt16.le_iff_toNat_le]

theorem ofPoint_unit (u : CodeUnit) : ofPoint u.toNat = [u] := by
  rw [ofPoint, if_pos u.toNat_lt]
  exact congrArg (· :: []) UInt16.ofNat_toNat

theorem ofPoint_pair {u v : CodeUnit} (hu : isHighSurrogate u = true)
    (hv : isLowSurrogate v = true) :
    ofPoint (0x10000 + (u.toNat - 0xD800) * 0x400 + (v.toNat - 0xDC00)) = [u, v] := by
  obtain ⟨hu, hu'⟩ := isHighSurrogate_iff.mp hu
  obtain ⟨hv, hv'⟩ := isLowSurrogate_iff.mp hv
  have hfirst : 0xD800 + (0x10000 + (u.toNat - 0xD800) * 0x400 + (v.toNat - 0xDC00) - 0x10000)
      / 0x400 = u.toNat := by omega
  have hsecond : 0xDC00 + (0x10000 + (u.toNat - 0xD800) * 0x400 + (v.toNat - 0xDC00) - 0x10000)
      % 0x400 = v.toNat := by omega
  rw [ofPoint, if_neg (by omega), hfirst, hsecond]
  simp [Nat.toUInt16]

/-- The code points of a text are written as the text. -/
theorem flatMap_ofPoint_points (t : Text) : t.points.flatMap ofPoint = t := by
  induction t using points.induct with
  | case1 => rfl
  | case2 u => rw [points, List.flatMap_singleton, ofPoint_unit]
  | case3 u v r h ih =>
      obtain ⟨hu, hv⟩ := Bool.and_eq_true_iff.mp h
      rw [points, if_pos h, List.flatMap_cons, ih, ofPoint_pair hu hv]
      rfl
  | case4 u v r h ih =>
      rw [points, if_neg h, List.flatMap_cons, ih, ofPoint_unit]
      rfl

theorem points_unit {u : CodeUnit} (h : isHighSurrogate u = false) (t : Text) :
    points (u :: t) = u.toNat :: points t := by
  cases t with
  | nil => rfl
  | cons v r => rw [points, h, Bool.false_and, if_neg Bool.false_ne_true]

theorem Paired.scalar {t : Text} (h : Paired t) : ∀ p ∈ t.points, IsScalar p := by
  induction h with
  | nil => exact List.forall_mem_nil _
  | @unit u t hhigh hlow _ ih =>
      rw [points_unit hhigh, List.forall_mem_cons]
      refine ⟨?_, ih⟩
      have hbound := u.toNat_lt
      have hu := mt isHighSurrogate_iff.mpr (Bool.eq_false_iff.mp hhigh)
      have hu' := mt isLowSurrogate_iff.mpr (Bool.eq_false_iff.mp hlow)
      unfold IsScalar
      omega
  | @pair u v t hhigh hlow _ ih =>
      obtain ⟨hu, hu'⟩ := isHighSurrogate_iff.mp hhigh
      obtain ⟨hv, hv'⟩ := isLowSurrogate_iff.mp hlow
      rw [points, if_pos (Bool.and_eq_true_iff.mpr ⟨hhigh, hlow⟩), List.forall_mem_cons]
      refine ⟨?_, ih⟩
      unfold IsScalar
      omega

end Text

namespace Utf8

open Text (IsScalar)

/-! ## The table of characters, by value -/

theorem toNat_toUInt8 {n : Nat} (h : n < 256) : n.toUInt8.toNat = n :=
  UInt8.toNat_ofNat_of_lt' h

theorem tails?_one {b : UInt8} (h : b.toNat < 0x80) : tails? b = some [] := by
  simp only [tails?, UInt8.le_iff_toNat_le, UInt8.reduceToNat]
  simp (disch := omega) only [if_pos]

theorem tails?_two {b : UInt8} (h : 0xC2 ≤ b.toNat) (h' : b.toNat < 0xE0) :
    tails? b = some [anyTail] := by
  simp only [tails?, UInt8.le_iff_toNat_le, UInt8.lt_iff_toNat_lt, UInt8.reduceToNat]
  simp (disch := omega) only [if_pos, if_neg]

theorem tails?_three {b : UInt8} (h : 0xE0 ≤ b.toNat) (h' : b.toNat < 0xF0) :
    tails? b = some [(if b = 0xE0 then 0xA0 else 0x80, if b = 0xED then 0x9F else 0xBF),
      anyTail] := by
  by_cases hE0 : b = 0xE0
  · subst hE0; decide
  by_cases hED : b = 0xED
  · subst hED; decide
  simp only [tails?, hE0, hED, if_false, UInt8.le_iff_toNat_le, UInt8.lt_iff_toNat_lt,
    UInt8.reduceToNat]
  have hne : b.toNat ≠ 0xE0 := fun hb => hE0 (UInt8.toNat_inj.mp hb)
  simp (disch := omega) only [if_pos, if_neg]
  rfl

theorem tails?_four {b : UInt8} (h : 0xF0 ≤ b.toNat) (h' : b.toNat < 0xF5) :
    tails? b = some [(if b = 0xF0 then 0x90 else 0x80, if b = 0xF4 then 0x8F else 0xBF),
      anyTail, anyTail] := by
  by_cases hF0 : b = 0xF0
  · subst hF0; decide
  by_cases hF4 : b = 0xF4
  · subst hF4; decide
  have hE0 : b ≠ 0xE0 := by rintro rfl; simp at h
  have hED : b ≠ 0xED := by rintro rfl; simp at h
  have hne : b.toNat ≠ 0xF4 := fun hb => hF4 (UInt8.toNat_inj.mp hb)
  simp only [tails?, hE0, hED, hF0, hF4, if_false, UInt8.le_iff_toNat_le, UInt8.lt_iff_toNat_lt,
    UInt8.reduceToNat]
  simp (disch := omega) only [if_pos, if_neg]
  rfl

theorem pointsFrom_nil (bits : Nat) (bytes : List UInt8) :
    pointsFrom bits [] bytes = bits :: points bytes := by
  simp [pointsFrom, fitting, withTails]

/-- The byte for six bits is a continuation byte. -/
theorem tail_fits (n : Nat) :
    anyTail.1 ≤ (0x80 + n % 64).toUInt8 ∧ (0x80 + n % 64).toUInt8 ≤ anyTail.2 := by
  simp only [anyTail, UInt8.le_iff_toNat_le, UInt8.reduceToNat]
  rw [toNat_toUInt8 (by omega)]
  omega

/-! ## Code points -/

theorem points_encodePoint {p : Nat} (h : IsScalar p) (bytes : List UInt8) :
    points (encodePoint p ++ bytes) = p :: points bytes := by
  have hsurrogate : (if 0xD800 ≤ p && p ≤ 0xDFFF then replacement else p) = p := by
    rw [if_neg]
    unfold IsScalar at h
    simp
    omega
  have htail (n : Nat) : (0x80 + n % 64).toUInt8.toNat = 0x80 + n % 64 :=
    toNat_toUInt8 (by omega)
  unfold IsScalar at h
  simp only [encodePoint, hsurrogate]
  split
  case isTrue hone =>
    have hlead : p.toUInt8.toNat = p := toNat_toUInt8 (by omega)
    rw [List.singleton_append, points_cons, tails?_one (by omega)]
    show pointsFrom p.toUInt8.toNat [] bytes = p :: points bytes
    rw [pointsFrom_nil, hlead]
  split
  case isTrue htwo =>
    have hlead : (0xC0 + p / 64).toUInt8.toNat = 0xC0 + p / 64 := toNat_toUInt8 (by omega)
    have hbits : (0xC0 + p / 64 - 0xC0) * 64 + (0x80 + p % 64 - 0x80) = p := by omega
    rw [List.cons_append, points_cons, tails?_two (by omega) (by omega)]
    show pointsFrom ((0xC0 + p / 64).toUInt8.toNat - 0xC0) [anyTail]
      ((0x80 + p % 64).toUInt8 :: bytes) = p :: points bytes
    rw [pointsFrom_cons (tail_fits p), pointsFrom_nil, hlead, htail, hbits]
  split
  case isTrue hthree =>
    have hlead : (0xE0 + p / 4096).toUInt8.toNat = 0xE0 + p / 4096 := toNat_toUInt8 (by omega)
    have hsecond : (if (0xE0 + p / 4096).toUInt8 = 0xE0 then 0xA0 else 0x80)
          ≤ (0x80 + p / 64 % 64).toUInt8 ∧
        (0x80 + p / 64 % 64).toUInt8
          ≤ (if (0xE0 + p / 4096).toUInt8 = 0xED then 0x9F else 0xBF) := by
      simp only [← UInt8.toNat_inj, UInt8.le_iff_toNat_le, hlead, htail, UInt8.reduceToNat]
      constructor <;> split <;> simp only [UInt8.reduceToNat] <;> omega
    have hbits : ((0xE0 + p / 4096 - 0xE0) * 64 + (0x80 + p / 64 % 64 - 0x80)) * 64
        + (0x80 + p % 64 - 0x80) = p := by omega
    rw [List.cons_append, points_cons, tails?_three (by omega) (by omega)]
    show pointsFrom ((0xE0 + p / 4096).toUInt8.toNat - 0xE0) [_, anyTail]
      ((0x80 + p / 64 % 64).toUInt8 :: (0x80 + p % 64).toUInt8 :: bytes) = p :: points bytes
    rw [pointsFrom_cons hsecond, pointsFrom_cons (tail_fits p), pointsFrom_nil, hlead, htail, htail,
      hbits]
  case isFalse hfour =>
    have hlead : (0xF0 + p / 262144).toUInt8.toNat = 0xF0 + p / 262144 :=
      toNat_toUInt8 (by omega)
    have hsecond : (if (0xF0 + p / 262144).toUInt8 = 0xF0 then 0x90 else 0x80)
          ≤ (0x80 + p / 4096 % 64).toUInt8 ∧
        (0x80 + p / 4096 % 64).toUInt8
          ≤ (if (0xF0 + p / 262144).toUInt8 = 0xF4 then 0x8F else 0xBF) := by
      simp only [← UInt8.toNat_inj, UInt8.le_iff_toNat_le, hlead, htail, UInt8.reduceToNat]
      constructor <;> split <;> simp only [UInt8.reduceToNat] <;> omega
    have hbits : (((0xF0 + p / 262144 - 0xF0) * 64 + (0x80 + p / 4096 % 64 - 0x80)) * 64
        + (0x80 + p / 64 % 64 - 0x80)) * 64 + (0x80 + p % 64 - 0x80) = p := by omega
    rw [List.cons_append, points_cons, tails?_four (by omega) (by omega)]
    show pointsFrom ((0xF0 + p / 262144).toUInt8.toNat - 0xF0) [_, anyTail, anyTail]
      ((0x80 + p / 4096 % 64).toUInt8 :: (0x80 + p / 64 % 64).toUInt8
        :: (0x80 + p % 64).toUInt8 :: bytes) = p :: points bytes
    rw [pointsFrom_cons hsecond, pointsFrom_cons (tail_fits (p / 64)),
      pointsFrom_cons (tail_fits p), pointsFrom_nil, hlead, htail, htail, htail, hbits]

theorem points_encode {ps : List Nat} (h : ∀ p ∈ ps, IsScalar p) :
    points (ps.flatMap encodePoint) = ps := by
  induction ps with
  | nil => rw [List.flatMap_nil, points]
  | cons p ps ih =>
      obtain ⟨hp, hps⟩ := List.forall_mem_cons.mp h
      rw [List.flatMap_cons, points_encodePoint hp, ih hps]

/-- A text with its surrogates in pairs is read back from its bytes, unless it begins with a byte
order mark. -/
theorem text_encode {t : Text} (h : t.Paired) (hmark : t.head? ≠ some 0xFEFF) :
    text (encode t) = t := by
  have hwritten := Text.flatMap_ofPoint_points t
  rw [text, encode, points_encode h.scalar]
  cases hpoints : t.points with
  | nil =>
      rw [hpoints] at hwritten
      exact hwritten
  | cons p ps =>
      rw [hpoints] at hwritten
      have hp : p ≠ 0xFEFF := by
        rintro rfl
        rw [← hwritten] at hmark
        exact hmark rfl
      simp only [if_neg hp]
      exact hwritten

end Utf8

end ChatRelay
