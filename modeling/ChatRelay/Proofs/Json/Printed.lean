import ChatRelay.Json.Printer
import ChatRelay.Proofs.Text.Encoding

/-!
# What JSON texts are made of

The text of a value is one line of well-formed Unicode: it holds no control character, so neither a
line feed nor a carriage return, and its surrogates stand in pairs, whatever stands in the strings
of the value (`printed_render`).
-/

namespace ChatRelay

namespace Text

/-- Whether a unit is neither a control character nor a surrogate nor beyond the surrogates. -/
def isInner (u : CodeUnit) : Bool := 32 ≤ u && u < 0xD800

theorem isInner_iff {u : CodeUnit} : isInner u = true ↔ 32 ≤ u.toNat ∧ u.toNat < 0xD800 := by
  simp [isInner, UInt16.le_iff_toNat_le, UInt16.lt_iff_toNat_lt]

/-- Whether a unit is such a unit and no space. -/
def isGraphic (u : CodeUnit) : Bool := 33 ≤ u && u < 0xD800

theorem isGraphic_iff {u : CodeUnit} : isGraphic u = true ↔ 33 ≤ u.toNat ∧ u.toNat < 0xD800 := by
  simp [isGraphic, UInt16.le_iff_toNat_le, UInt16.lt_iff_toNat_lt]

theorem isInner_of_isGraphic {u : CodeUnit} (h : isGraphic u = true) : isInner u = true := by
  obtain ⟨hlower, hupper⟩ := isGraphic_iff.mp h
  exact isInner_iff.mpr ⟨Nat.le_of_succ_le hlower, hupper⟩

/-- A text without control characters whose surrogates stand in pairs. -/
structure Printed (t : Text) : Prop where
  noControl : ∀ u ∈ t, 32 ≤ u
  paired : Paired t

namespace Printed

theorem nil : Printed [] := ⟨List.forall_mem_nil _, .nil⟩

theorem append {s t : Text} (hs : Printed s) (ht : Printed t) : Printed (s ++ t) :=
  ⟨List.forall_mem_append.mpr ⟨hs.noControl, ht.noControl⟩, hs.paired.append ht.paired⟩

theorem unit {u : CodeUnit} (h : 32 ≤ u) (hhigh : isHighSurrogate u = false)
    (hlow : isLowSurrogate u = false) : Printed [u] :=
  ⟨List.forall_mem_singleton.mpr h, .unit hhigh hlow .nil⟩

theorem pair {u v : CodeUnit} (hu : isHighSurrogate u = true) (hv : isLowSurrogate v = true) :
    Printed [u, v] := by
  refine ⟨?_, .pair hu hv .nil⟩
  obtain ⟨hu, -⟩ := isHighSurrogate_iff.mp hu
  obtain ⟨hv, -⟩ := isLowSurrogate_iff.mp hv
  simp only [List.forall_mem_cons, UInt16.le_iff_toNat_le, UInt16.reduceToNat]
  exact ⟨by omega, by omega, List.forall_mem_nil _⟩

theorem of_inner {t : Text} (h : t.all isInner = true) : Printed t := by
  induction t with
  | nil => exact nil
  | cons u t ih =>
      rw [List.all_cons, Bool.and_eq_true] at h
      obtain ⟨hu, ht⟩ := h
      obtain ⟨hlower, hupper⟩ := isInner_iff.mp hu
      have hhigh : isHighSurrogate u = false := by
        rw [Bool.eq_false_iff, Ne, isHighSurrogate_iff]
        omega
      have hlow : isLowSurrogate u = false := by
        rw [Bool.eq_false_iff, Ne, isLowSurrogate_iff]
        omega
      have hcontrol : 32 ≤ u := UInt16.le_iff_toNat_le.mpr hlower
      exact (unit hcontrol hhigh hlow).append (ih ht)

end Printed

/-! ## Numerals -/

theorem all_isGraphic_ofNat (n : Nat) : (ofNat n).all isGraphic = true := by
  rw [ofNat, List.all_map, List.all_eq_true]
  intro c hc
  have hdigit := Nat.isDigit_of_mem_toDigits (by decide) (by decide) hc
  have hrange : 48 ≤ c.toNat ∧ c.toNat ≤ 57 := Char.isDigit_iff_toNat.mp hdigit
  have hunit : (unit c).toNat = c.toNat := UInt16.toNat_ofNat_of_lt' (by rw [UInt16.size]; omega)
  refine isGraphic_iff.mpr ?_
  omega

theorem isInner_hexDigit : ∀ n < 16, isInner (hexDigit n) = true := by decide

end Text

namespace Number

open Text (isGraphic)

theorem all_isGraphic_layout {digits : Text} (h : digits.all isGraphic = true) (point : Int) :
    (layout digits point).all isGraphic = true := by
  have hzeros (n : Nat) : (List.replicate n (Text.unit '0')).all isGraphic = true := by
    rw [List.all_replicate]
    split <;> rfl
  have htake (n : Nat) : (digits.take n).all isGraphic = true := by
    rw [List.all_eq_true] at h ⊢
    exact fun u hu => h u (List.mem_of_mem_take hu)
  have hdrop (n : Nat) : (digits.drop n).all isGraphic = true := by
    rw [List.all_eq_true] at h ⊢
    exact fun u hu => h u (List.mem_of_mem_drop hu)
  dsimp only [layout]
  split
  · rw [List.all_append, h, hzeros]
    rfl
  split
  · rw [List.all_append, List.all_append, htake, hdrop]
    rfl
  split
  · rw [List.all_append, List.all_append, hzeros, h]
    rfl
  · have hfraction :
        (if digits.length ≤ 1 then [] else "." ++ digits.drop 1 : Text).all isGraphic = true := by
      split
      · rfl
      · rw [List.all_append, hdrop]
        rfl
    have hsign : (Text.ofString (if point - 1 < 0 then "-" else "+")).all isGraphic = true := by
      split <;> rfl
    rw [List.all_append, List.all_append, List.all_append, List.all_append, htake, hfraction, hsign,
      Text.all_isGraphic_ofNat]
    rfl

theorem all_isGraphic_render (x : Number) : x.render.all isGraphic = true := by
  cases x with
  | nan => rfl
  | infinite negative => cases negative <;> rfl
  | finite negative m e =>
      rw [render]
      split
      · rfl
      · have hsign : (Text.ofString (if negative = true then "-" else "")).all isGraphic = true := by
          split <;> rfl
        have hnumeral := all_isGraphic_layout (Text.all_isGraphic_ofNat (shortestDigits m e).1)
          ((shortestDigits m e).2 + (Text.ofNat (shortestDigits m e).1).length)
        rw [List.all_append, hsign]
        exact hnumeral

end Number

namespace Json

open Text (Printed)

/-! ## Strings -/

theorem printed_hexEscape (u : CodeUnit) : Printed (hexEscape u) := by
  have hu := u.toNat_lt
  have hdigits : ([Text.hexDigit (u.toNat / 4096), Text.hexDigit (u.toNat / 256 % 16),
      Text.hexDigit (u.toNat / 16 % 16), Text.hexDigit (u.toNat % 16)] : Text).all Text.isInner
        = true := by
    simp only [List.all_cons, List.all_nil, Bool.and_true, Bool.and_eq_true]
    exact ⟨Text.isInner_hexDigit _ (by omega), Text.isInner_hexDigit _ (by omega),
      Text.isInner_hexDigit _ (by omega), Text.isInner_hexDigit _ (by omega)⟩
  exact Printed.append (.of_inner (by decide)) (.of_inner hdigits)

theorem printed_escapeUnit {u : CodeUnit} (hhigh : Text.isHighSurrogate u = false)
    (hlow : Text.isLowSurrogate u = false) : Printed (escapeUnit u) := by
  unfold escapeUnit
  -- The units with an escape of their own.
  iterate 7
    split
    · exact .of_inner (by decide)
  split
  · exact printed_hexEscape u
  · rename_i h
    exact .unit (UInt16.not_lt.mp h) hhigh hlow

theorem printed_escapeLone (u : CodeUnit) : Printed (escapeLone u) := by
  rw [escapeLone]
  split
  · exact printed_hexEscape u
  · rename_i h
    rw [Bool.not_eq_true, Bool.or_eq_false_iff] at h
    exact printed_escapeUnit h.1 h.2

theorem printed_escape (s : Text) : Printed (escape s) := by
  induction s using escape.induct with
  | case1 => exact .nil
  | case2 u => exact printed_escapeLone u
  | case3 u v r h ih =>
      rw [escape, if_pos h]
      obtain ⟨hu, hv⟩ := Bool.and_eq_true_iff.mp h
      exact (Printed.pair hu hv).append ih
  | case4 u v r h ih =>
      rw [escape, if_neg h]
      exact (printed_escapeLone u).append ih

theorem printed_quote (s : Text) : Printed (quote s) :=
  ((Printed.of_inner (by decide)).append (printed_escape s)).append (.of_inner (by decide))

/-! ## Values -/

theorem all_isGraphic_renderNumber (x : Number) : (renderNumber x).all Text.isGraphic = true := by
  cases x with
  | finite negative m e => exact Number.all_isGraphic_render (.finite negative m e)
  | nan => rfl
  | infinite negative => rfl

theorem printed_renderNumber (x : Number) : Printed (renderNumber x) := by
  refine .of_inner (List.all_eq_true.mpr fun u hu => ?_)
  exact Text.isInner_of_isGraphic (List.all_eq_true.mp (all_isGraphic_renderNumber x) u hu)

mutual

/-- The text of a value is one line of well-formed Unicode. -/
theorem printed_render : ∀ v : Json, Printed v.render
  | .null => .of_inner (by decide)
  | .bool true => .of_inner (by decide)
  | .bool false => .of_inner (by decide)
  | .num x => printed_renderNumber x
  | .str s => printed_quote s
  | .arr items =>
      ((Printed.of_inner (by decide)).append (printed_renderItems items)).append
        (.of_inner (by decide))
  | .obj ms =>
      ((Printed.of_inner (by decide)).append (printed_renderMembers ms)).append
        (.of_inner (by decide))

theorem printed_renderItems : ∀ vs : List Json, Printed (renderItems vs)
  | [] => .nil
  | [v] => printed_render v
  | v :: w :: vs =>
      ((printed_render v).append (.of_inner (by decide))).append (printed_renderItems (w :: vs))

theorem printed_renderMembers : ∀ ms : List (Text × Json), Printed (renderMembers ms)
  | [] => .nil
  | [(k, v)] => ((printed_quote k).append (.of_inner (by decide))).append (printed_render v)
  | (k, v) :: m :: ms =>
      ((((printed_quote k).append (.of_inner (by decide))).append (printed_render v)).append
        (.of_inner (by decide))).append (printed_renderMembers (m :: ms))

end

end Json

end ChatRelay
