import ChatRelay.Text.Basic
import Mathlib.Data.List.DropRight

/-!
# Cutting texts

What a text begins with, what stands between its white space, and what its pieces are.
`Text.after?` and `++` undo each other, and so do `Text.splitOn` and `Text.joinWith` on pieces that
do not hold the separator (`splitOn_joinWith`). Cutting a text in two cuts one of its pieces in two
and leaves the others as they are (`splitOn_append`).
-/

namespace ChatRelay.Text

/-! ## Beginnings -/

theorem after?_eq (start t : Text) :
    after? start t = if start.isPrefixOf t then some (t.drop start.length) else none := by
  induction start generalizing t with
  | nil => cases t <;> rfl
  | cons u start ih =>
      cases t with
      | nil => rfl
      | cons v t =>
          by_cases huv : u = v
          · subst huv
            simp only [after?, if_true, ih, List.isPrefixOf, beq_self_eq_true, Bool.true_and,
              List.length_cons, List.drop_succ_cons]
          · simp [after?, List.isPrefixOf, huv]

theorem after?_eq_some {start t rest : Text} (h : after? start t = some rest) :
    t = start ++ rest := by
  rw [after?_eq] at h
  split at h
  · obtain ⟨r, rfl⟩ := List.isPrefixOf_iff_prefix.mp ‹_›
    rw [List.drop_left] at h
    rw [Option.some.inj h]
  · cases h

theorem after?_append (start rest : Text) : after? start (start ++ rest) = some rest := by
  rw [after?_eq, if_pos (List.isPrefixOf_iff_prefix.mpr (List.prefix_append start rest)),
    List.drop_left]

/-- What `dropWhile` drops. -/
theorem exists_append_dropWhile (p : CodeUnit → Bool) (t : Text) :
    ∃ a, (∀ u ∈ a, p u) ∧ t = a ++ t.dropWhile p :=
  ⟨t.takeWhile p, List.all_eq_true.mp List.all_takeWhile, List.takeWhile_append_dropWhile.symm⟩

theorem forall_of_dropWhile_eq_nil {p : CodeUnit → Bool} {t : Text} (h : t.dropWhile p = []) :
    ∀ u ∈ t, p u := by
  obtain ⟨a, ha, ht⟩ := exists_append_dropWhile p t
  rw [h, List.append_nil] at ht
  exact ht ▸ ha

theorem dropWhile_append_of_ne_nil {p : CodeUnit → Bool} {t : Text} (h : t.dropWhile p ≠ [])
    (x : Text) : (t ++ x).dropWhile p = t.dropWhile p ++ x := by
  induction t with
  | nil => exact absurd rfl h
  | cons u t ih =>
      rw [List.cons_append, List.dropWhile_cons, List.dropWhile_cons]
      rw [List.dropWhile_cons] at h
      split
      · rw [if_pos ‹_›] at h
        exact ih h
      · rfl

/-! ## White space -/

theorem trimStart_blank_append {a : Text} (ha : ∀ u ∈ a, isBlank u) (t : Text) :
    trimStart (a ++ t) = trimStart t := by
  induction a with
  | nil => rfl
  | cons u a ih =>
      rw [List.forall_mem_cons] at ha
      rw [List.cons_append, trimStart, List.dropWhile_cons, if_pos ha.1]
      exact ih ha.2

theorem trim_prefix_trimStart (t : Text) : trim t <+: trimStart t := by
  have h : (trimStart t).reverse.dropWhile isBlank <:+ (trimStart t).reverse :=
    List.dropWhile_suffix _
  simpa [trim, trimEnd] using List.reverse_prefix.mpr h

theorem blank_of_trim_eq_nil {t : Text} (h : trim t = []) : ∀ u ∈ t, isBlank u := by
  obtain ⟨a, ha, ht⟩ := exists_append_dropWhile isBlank t
  have hrest := forall_of_dropWhile_eq_nil (List.reverse_eq_nil_iff.mp h)
  intro u hu
  rw [ht, List.mem_append] at hu
  rcases hu with hu | hu
  · exact ha u hu
  · exact hrest u (List.mem_reverse.mpr hu)

theorem trimStart_trim (t : Text) : trimStart (trim t) = trim t := by
  have hhead := List.head?_dropWhile_not isBlank t
  obtain ⟨rest, hrest⟩ := trim_prefix_trimStart t
  cases h : trim t with
  | nil => rfl
  | cons u r =>
      -- What is left begins as the text without its leading white space does.
      rw [trimStart, h, List.cons_append] at hrest
      rw [← hrest] at hhead
      exact List.dropWhile_cons_of_neg (by simp [show isBlank u = false from hhead])

/-- A trimmed text has nothing left to trim. -/
theorem trim_trim (t : Text) : trim (trim t) = trim t := by
  have hend : trimEnd (trim t) = trim t := by
    simp only [trim, trimEnd, List.reverse_reverse, List.dropWhile_idempotent]
  rw [trim, trimStart_trim, hend]

theorem trimmed?_eq_some {t s : Text} : trimmed? t = some s ↔ trim t = s ∧ s ≠ [] := by
  rw [trimmed?]
  constructor
  · intro h
    split at h
    · cases h
    · cases h
      exact ⟨‹_›, List.cons_ne_nil _ _⟩
  · rintro ⟨rfl, hne⟩
    split
    · exact absurd ‹_› hne
    · rename_i h
      rw [h]

/-! ## Pieces -/

theorem splitOn_ne_nil (sep : CodeUnit) (t : Text) : splitOn sep t ≠ [] := by
  cases t with
  | nil => exact List.cons_ne_nil _ _
  | cons u t =>
      rw [splitOn]
      split
      · exact List.cons_ne_nil _ _
      · split <;> exact List.cons_ne_nil _ _

theorem splitOn_cons_sep (sep : CodeUnit) (t : Text) :
    splitOn sep (sep :: t) = [] :: splitOn sep t := by
  rw [splitOn, if_pos rfl]

theorem splitOn_cons_of_ne {sep u : CodeUnit} (hu : u ≠ sep) {t p : Text} {ps : List Text}
    (h : splitOn sep t = p :: ps) : splitOn sep (u :: t) = (u :: p) :: ps := by
  rw [splitOn, if_neg hu, h]

/-- The text up to the first separator is the first piece. -/
theorem splitOn_terminated {sep : CodeUnit} {t : Text} (h : sep ∉ t) (r : Text) :
    splitOn sep (t ++ sep :: r) = t :: splitOn sep r := by
  induction t with
  | nil => exact splitOn_cons_sep sep r
  | cons u t ih =>
      rw [List.mem_cons, not_or] at h
      exact splitOn_cons_of_ne (Ne.symm h.1) (ih h.2)

theorem splitOn_of_not_mem {sep : CodeUnit} {t : Text} (h : sep ∉ t) : splitOn sep t = [t] := by
  induction t with
  | nil => rfl
  | cons u t ih =>
      rw [List.mem_cons, not_or] at h
      exact splitOn_cons_of_ne (Ne.symm h.1) (ih h.2)

/-- The first piece of a text ends where the text does or at a separator. -/
theorem splitOn_eq_cons {sep : CodeUnit} {t p : Text} {ps : List Text}
    (h : splitOn sep t = p :: ps) :
    sep ∉ p ∧ (t = p ∧ ps = [] ∨ ∃ r, t = p ++ sep :: r ∧ splitOn sep r = ps) := by
  by_cases hsep : sep ∈ t
  · obtain ⟨first, r, rfl, hfirst⟩ := List.eq_append_cons_of_mem hsep
    rw [splitOn_terminated hfirst] at h
    obtain ⟨rfl, rfl⟩ := List.cons.inj h
    exact ⟨hfirst, .inr ⟨r, rfl, rfl⟩⟩
  · rw [splitOn_of_not_mem hsep] at h
    obtain ⟨rfl, rfl⟩ := List.cons.inj h
    exact ⟨hsep, .inl ⟨rfl, rfl⟩⟩

/-- Pieces that do not hold the separator are read back from their join. -/
theorem splitOn_joinWith {sep : CodeUnit} : ∀ {ls : List Text}, ls ≠ [] → (∀ l ∈ ls, sep ∉ l) →
    splitOn sep (joinWith [sep] ls) = ls
  | [], hne, _ => absurd rfl hne
  | [l], _, h => splitOn_of_not_mem (h l (List.mem_singleton.mpr rfl))
  | l :: m :: ls, _, h => by
      have hl : sep ∉ l := h l (List.mem_cons_self ..)
      have hrest := splitOn_joinWith (List.cons_ne_nil m ls)
        (fun x hx => h x (List.mem_cons_of_mem l hx))
      rw [joinWith, List.append_assoc, List.singleton_append, splitOn_terminated hl, hrest]

/-- The pieces of a text are those of a beginning and those of the rest, but that the last of the
ones and the first of the others are one piece. -/
theorem splitOn_append (sep : CodeUnit) (a b : Text) :
    ∃ ls l m ms, splitOn sep a = ls ++ [l] ∧ splitOn sep b = m :: ms
      ∧ splitOn sep (a ++ b) = ls ++ (l ++ m) :: ms := by
  obtain ⟨m, ms, hb⟩ := List.exists_cons_of_ne_nil (splitOn_ne_nil sep b)
  induction a with
  | nil => exact ⟨[], [], m, ms, rfl, hb, hb⟩
  | cons u a ih =>
      obtain ⟨ls, l, _, _, ha, hb', hab⟩ := ih
      rw [hb] at hb'
      obtain ⟨rfl, rfl⟩ := List.cons.inj hb'
      by_cases hu : u = sep
      · subst hu
        refine ⟨[] :: ls, l, m, ms, ?_, hb, ?_⟩
        · rw [splitOn_cons_sep, ha, List.cons_append]
        · rw [List.cons_append, splitOn_cons_sep, hab, List.cons_append]
      · cases ls with
        | nil =>
            exact ⟨[], u :: l, m, ms, splitOn_cons_of_ne hu ha, hb, splitOn_cons_of_ne hu hab⟩
        | cons x ls =>
            exact ⟨(u :: x) :: ls, l, m, ms, splitOn_cons_of_ne hu ha, hb,
              splitOn_cons_of_ne hu hab⟩

/-- A join goes on as a list of pieces does: its beginning depends on the first pieces only. -/
theorem joinWith_append (sep : Text) (ls : List Text) :
    ∃ a, joinWith sep ls <+: a ∧
      ∀ l ms, joinWith sep (ls ++ l :: ms) = a ++ (l ++ ms.flatMap (sep ++ ·)) := by
  have hjoin (l : Text) (ms : List Text) :
      joinWith sep (l :: ms) = l ++ ms.flatMap (sep ++ ·) := by
    induction ms generalizing l with
    | nil => exact (List.append_nil l).symm
    | cons m ms ih =>
        rw [joinWith, ih m, List.flatMap_cons, List.append_assoc, List.append_assoc]
  cases ls with
  | nil => exact ⟨[], List.prefix_rfl, hjoin⟩
  | cons k ls =>
      refine ⟨joinWith sep (k :: ls) ++ sep, List.prefix_append .., fun l ms => ?_⟩
      rw [List.cons_append, hjoin, hjoin, List.flatMap_append, List.flatMap_cons]
      simp only [List.append_assoc]

theorem joinWith_prefix_append (sep : Text) (ls ms : List Text) :
    joinWith sep ls <+: joinWith sep (ls ++ ms) := by
  cases ms with
  | nil => simp only [List.append_nil, List.prefix_rfl]
  | cons m ms =>
      obtain ⟨a, ha, happ⟩ := joinWith_append sep ls
      rw [happ]
      exact ha.trans (List.prefix_append ..)

end ChatRelay.Text

namespace ChatRelay

/-! ## Texts that are not empty -/

theorem nonEmpty?_of_ne_nil {t : Text} (h : t ≠ []) : nonEmpty? t = some t := by
  cases t with
  | nil => exact absurd rfl h
  | cons u t => rfl

theorem nonEmpty?_bind {m : Option Text} (h : ∀ t, m = some t → t ≠ []) : m.bind nonEmpty? = m := by
  cases m with
  | none => rfl
  | some t => exact nonEmpty?_of_ne_nil (h t rfl)

end ChatRelay
