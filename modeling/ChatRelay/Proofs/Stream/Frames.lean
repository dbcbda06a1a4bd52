import ChatRelay.Stream.Sse

/-!
# Frames of a text

A frame ends at a blank line, which is two line feeds in a row. `IsSplit` says what it is to split a
text at every blank line, each taken as far to the left as it goes, and `frames` is the one list of
pieces that this can give (`isSplit_iff`). All but the last piece are terminated.

Two facts serve whoever reads a text piece by piece. The unterminated rest of a beginning is all of
it that the later pieces of the whole text depend on (`pieces_append`), and up to one line feed it
is a beginning of the frame that the whole text has in its place (`prefix_head_frames`).
-/

namespace ChatRelay.Sse

/-- Two line feeds in a row. -/
def blankLine : Text := [lineFeed, lineFeed]

/-- The pieces of a text, split at each leftmost blank line behind the one before. -/
inductive IsSplit : Text → List Text → Prop
  | last {t : Text} : ¬ blankLine <:+: t → IsSplit t [t]
  | cons {p r : Text} {fs : List Text} : ¬ blankLine <:+: p ++ [lineFeed] → IsSplit r fs →
      IsSplit (p ++ lineFeed :: lineFeed :: r) (p :: fs)

/-- All frames of a text, the unterminated one at its end included. -/
def frames (t : Text) : List Text := (pieces t).1 ++ [(pieces t).2]

/-! ## Blank lines -/

theorem blankLine_infix_cons {u v : CodeUnit} {t : Text} :
    blankLine <:+: u :: v :: t ↔ (u = lineFeed ∧ v = lineFeed) ∨ blankLine <:+: v :: t := by
  rw [List.infix_cons_iff]
  constructor
  · rintro (h | h)
    · obtain ⟨hu, h⟩ := List.cons_prefix_cons.mp h
      obtain ⟨hv, -⟩ := List.cons_prefix_cons.mp h
      exact Or.inl ⟨hu.symm, hv.symm⟩
    · exact Or.inr h
  · rintro (⟨rfl, rfl⟩ | h)
    · exact Or.inl ⟨t, rfl⟩
    · exact Or.inr h

theorem not_blankLine_infix_short {t : Text} (h : t.length < 2) : ¬ blankLine <:+: t := by
  intro hinfix
  have := hinfix.length_le
  simp only [blankLine, List.length_cons, List.length_nil] at this
  omega

/-! ## Pieces -/

theorem pieces_cons_rest {u v : CodeUnit} {t rest : Text} (h : ¬(u = lineFeed ∧ v = lineFeed))
    (ht : pieces (v :: t) = ([], rest)) : pieces (u :: v :: t) = ([], u :: rest) := by
  rw [pieces, if_neg h, ht]

theorem pieces_cons_piece {u v : CodeUnit} {t p rest : Text} {ps : List Text}
    (h : ¬(u = lineFeed ∧ v = lineFeed)) (ht : pieces (v :: t) = (p :: ps, rest)) :
    pieces (u :: v :: t) = ((u :: p) :: ps, rest) := by
  rw [pieces, if_neg h, ht]

/-- A text without a blank line is unterminated. -/
theorem pieces_unterminated {t : Text} (h : ¬ blankLine <:+: t) : pieces t = ([], t) := by
  induction t with
  | nil => rfl
  | cons u t ih =>
      cases t with
      | nil => rfl
      | cons v t =>
          rw [blankLine_infix_cons, not_or] at h
          exact pieces_cons_rest h.1 (ih h.2)

/-- A text up to its first blank line is its first piece. -/
theorem pieces_terminated {p : Text} (h : ¬ blankLine <:+: p ++ [lineFeed]) (r : Text) :
    pieces (p ++ lineFeed :: lineFeed :: r) = (p :: (pieces r).1, (pieces r).2) := by
  induction p with
  | nil => simp only [List.nil_append, pieces, and_self, if_true]
  | cons u p ih =>
      -- The unit behind `u` is the same whether the frame goes on or the blank line follows.
      obtain ⟨v, t, hv⟩ : ∃ v t, p ++ [lineFeed] = v :: t := by
        cases p with
        | nil => exact ⟨_, _, rfl⟩
        | cons v t => exact ⟨_, _, rfl⟩
      have happ : p ++ lineFeed :: lineFeed :: r = v :: (t ++ lineFeed :: r) := by
        rw [← List.cons_append, ← hv, List.append_assoc]
        rfl
      rw [List.cons_append, hv, blankLine_infix_cons, not_or, ← hv] at h
      rw [List.cons_append, happ]
      exact pieces_cons_piece h.1 (happ ▸ ih h.2)

/-- A unit in front of a text joins its first piece, unless it makes a blank line. -/
theorem IsSplit.cons_unit {u v : CodeUnit} {t p : Text} {ps : List Text}
    (h : ¬(u = lineFeed ∧ v = lineFeed)) (ht : IsSplit (v :: t) (p :: ps)) :
    IsSplit (u :: v :: t) ((u :: p) :: ps) := by
  generalize hvt : v :: t = w at ht
  cases ht with
  | last hlast =>
      subst hvt
      refine .last ?_
      rw [blankLine_infix_cons, not_or]
      exact ⟨h, hlast⟩
  | @cons _ r _ hp hr =>
      refine .cons (p := u :: p) ?_ hr
      cases p with
      | nil =>
          rw [List.nil_append, List.cons.injEq] at hvt
          exact fun hinfix => (blankLine_infix_cons.mp hinfix).elim
            (fun huv => h ⟨huv.1, hvt.1⟩) (not_blankLine_infix_short (by simp))
      | cons x p =>
          rw [List.cons_append, List.cons.injEq] at hvt
          obtain ⟨rfl, -⟩ := hvt
          rw [List.cons_append, List.cons_append, blankLine_infix_cons, not_or]
          exact ⟨h, hp⟩

theorem isSplit_frames (t : Text) : IsSplit t (frames t) := by
  induction t using pieces.induct with
  | case1 => exact .last (not_blankLine_infix_short (by simp))
  | case2 u => exact .last (not_blankLine_infix_short (by simp))
  | case3 u v r h ps rest hr ih =>
      obtain ⟨rfl, rfl⟩ := h
      have hframes : frames (lineFeed :: lineFeed :: r) = [] :: frames r := by
        simp only [frames, pieces, and_self, if_true, List.cons_append]
      rw [hframes]
      exact .cons (p := []) (not_blankLine_infix_short (by simp)) ih
  | case4 u v r h rest hr ih =>
      rw [frames, hr] at ih
      rw [frames, pieces_cons_rest h hr]
      exact ih.cons_unit h
  | case5 u v r h rest p ps hr ih =>
      rw [frames, hr] at ih
      rw [frames, pieces_cons_piece h hr]
      exact ih.cons_unit h

theorem IsSplit.eq_frames {t : Text} {fs : List Text} (h : IsSplit t fs) : fs = frames t := by
  induction h with
  | last h => rw [frames, pieces_unterminated h]; rfl
  | cons h _ ih => rw [frames, pieces_terminated h, ih]; rfl

/-- Splitting at blank lines has one result. -/
theorem isSplit_iff {t : Text} {fs : List Text} : IsSplit t fs ↔ fs = frames t :=
  ⟨IsSplit.eq_frames, fun h => h ▸ isSplit_frames t⟩

/-! ## Reading on -/

theorem IsSplit.ne_nil {t : Text} {fs : List Text} (h : IsSplit t fs) : fs ≠ [] := by
  cases h <;> exact List.cons_ne_nil _ _

theorem IsSplit.last_clear {t rest : Text} {fs : List Text} (h : IsSplit t fs)
    (hlast : fs.getLast? = some rest) : ¬ blankLine <:+: rest := by
  induction h with
  | last h =>
      obtain rfl := Option.some.inj hlast
      exact h
  | cons _ hr ih =>
      obtain ⟨f, fs, rfl⟩ := List.exists_cons_of_ne_nil hr.ne_nil
      rw [List.getLast?_cons_cons] at hlast
      exact ih hlast

/-- The rest of a text holds no blank line. -/
theorem not_blankLine_infix_rest (t : Text) : ¬ blankLine <:+: (pieces t).2 :=
  (isSplit_frames t).last_clear (by rw [frames, List.getLast?_concat])

/-- Of a beginning, only the pieces and the rest matter for the pieces of the whole. -/
theorem pieces_append (a b : Text) :
    pieces (a ++ b) = ((pieces a).1 ++ (pieces ((pieces a).2 ++ b)).1,
      (pieces ((pieces a).2 ++ b)).2) := by
  have ha := isSplit_frames a
  generalize frames a = fs at ha
  induction ha with
  | last h => rw [pieces_unterminated h, List.nil_append]
  | @cons p r _ hp _ ih =>
      have happ : (p ++ lineFeed :: lineFeed :: r) ++ b
          = p ++ lineFeed :: lineFeed :: (r ++ b) := by
        rw [List.append_assoc, List.cons_append, List.cons_append]
      rw [happ, pieces_terminated hp, pieces_terminated hp, ih, List.cons_append]

/-- A unit that is no line feed terminates nothing. -/
theorem pieces_rest_concat (t : Text) {u : CodeUnit} (hu : u ≠ lineFeed) :
    pieces ((pieces t).2 ++ [u]) = ([], (pieces t).2 ++ [u]) := by
  refine pieces_unterminated fun h => ?_
  rcases List.infix_concat_iff.mp h with h | h
  · rcases List.suffix_concat_iff.mp h with h | ⟨s, hs, -⟩
    · cases h
    · have hs' : [lineFeed] ++ [lineFeed] = _ := hs
      obtain ⟨-, h⟩ := List.append_inj' hs' rfl
      exact hu (List.cons.inj h).1.symm
  · exact not_blankLine_infix_rest t h

/-- A text without a blank line is, up to a line feed, a beginning of the first frame of whatever it
begins. -/
theorem prefix_head_frames {a : Text} (ha : ¬ blankLine <:+: a) (b : Text) :
    ∃ g fs, frames (a ++ b) = g :: fs ∧ a <+: g ++ [lineFeed] := by
  have h := isSplit_frames (a ++ b)
  generalize frames (a ++ b) = fs at h ⊢
  generalize hab : a ++ b = t at h
  cases h with
  | last _ =>
      subst hab
      exact ⟨a ++ b, [], rfl, b ++ [lineFeed], (List.append_assoc _ _ _).symm⟩
  | @cons p r fs _ _ =>
      refine ⟨p, fs, rfl, ?_⟩
      rcases List.append_eq_append_iff.mp hab with ⟨c, rfl, -⟩ | ⟨c, rfl, hc⟩
      · exact ⟨c ++ [lineFeed], (List.append_assoc _ _ _).symm⟩
      · match c, hc with
        | [], _ => exact ⟨[lineFeed], by rw [List.append_nil]⟩
        | [x], hc =>
            obtain ⟨rfl, -⟩ := List.cons.inj hc
            exact List.prefix_rfl
        | x :: y :: c, hc =>
            obtain ⟨rfl, hc'⟩ := List.cons.inj hc
            obtain ⟨rfl, -⟩ := List.cons.inj hc'
            exact absurd ⟨p, c, by rw [List.append_assoc]; rfl⟩ ha

end ChatRelay.Sse
