import ChatRelay.Proofs.Json.Extent
import ChatRelay.Stream.Sse

/-!
# The mark that ends a stream

A payload that is the mark, white space around it allowed, is no JSON text, and neither is what a
cut leaves of it: the bracket is followed by a letter that begins no value (`parse?_cut_mark`). The
other way round, what a cut leaves of the text of an object is never the mark (`trim_cut_object`).
So the two kinds of payloads cannot be taken for each other.
-/

namespace ChatRelay

/-- What a cut leaves of a text: a beginning, and the replacement character where the cut goes
through a character. -/
def Cut (t' t : Text) : Prop := ∃ q x, q <+: t ∧ (x = [] ∨ x = [0xFFFD]) ∧ t' = q ++ x

theorem Cut.refl (t : Text) : Cut t t :=
  ⟨t, [], List.prefix_rfl, Or.inl rfl, (List.append_nil t).symm⟩

namespace Sse

/-! ## The mark is no JSON text -/

theorem exists_of_trim_eq_doneMark {t : Text} (h : t.trim = doneMark) :
    ∃ a r, (∀ u ∈ a, Text.isBlank u) ∧ t = a ++ (doneMark ++ r) := by
  obtain ⟨a, ha, ht⟩ := Text.exists_append_dropWhile Text.isBlank t
  obtain ⟨r, hr⟩ := h ▸ Text.trim_prefix_trimStart t
  exact ⟨a, r, ha, by rw [hr]; exact ht⟩

/-- Neither nothing nor a replacement character begins a value. -/
theorem value_cut_end {x : Text} (hx : x = [] ∨ x = [0xFFFD]) (n : Nat) :
    Json.value n (Json.skipSpace x) = none := by
  rcases hx with rfl | rfl
  · cases n <;> rfl
  · exact Json.value_replacement n

theorem arrayBody_eq_none {u : CodeUnit} (hstart : ¬ Json.Starts u)
    (hspace : Json.isSpace u = false) (hend : u ≠ Text.unit ']') (n : Nat) (t : Text) :
    Json.arrayBody n (u :: t) = none := by
  have hskip : Json.skipSpace (u :: t) = u :: t := by
    rw [Json.skipSpace, List.dropWhile_cons, if_neg (by rw [hspace]; exact Bool.false_ne_true)]
  rw [Json.arrayBody, Json.Scan.space_bind, hskip, Json.Scan.orEmpty, if_neg hend, Json.Scan.map]
  cases n with
  | zero => rfl
  | succ n =>
      rw [Json.items_succ, Json.Scan.bind_none (Json.value_eq_none hstart n t)]
      rfl

/-- What a cut leaves of the mark denotes nothing. -/
theorem parse?_cut_mark {p p' : Text} (h : p.trim = doneMark) (hcut : Cut p' p) :
    Json.parse? p' = none := by
  obtain ⟨q, x, ⟨y, hy⟩, hx, rfl⟩ := hcut
  obtain ⟨a, r, ha, hp⟩ := exists_of_trim_eq_doneMark h
  rcases List.append_eq_append_iff.mp (hy.trans hp) with ⟨c, rfl, -⟩ | ⟨c, rfl, hc⟩
  · exact Json.parse?_blank_append (fun u hu => ha u (List.mem_append_left c hu))
      (value_cut_end hx)
  · rw [List.append_assoc]
    refine Json.parse?_blank_append ha fun n => ?_
    -- Of the mark the cut leaves nothing, the bracket alone, or the bracket and the letter.
    match c, hc with
    | [], _ => exact value_cut_end hx n
    | [v], hc =>
        obtain ⟨rfl, -⟩ := List.cons.inj hc
        cases n with
        | zero => rfl
        | succ n =>
            show Json.value (n + 1) (Text.unit '[' :: x) = none
            rw [Json.value_array]
            rcases hx with rfl | rfl
            · rfl
            · exact arrayBody_eq_none (by decide) rfl (by decide) n []
    | v :: w :: c, hc =>
        obtain ⟨rfl, hc'⟩ := List.cons.inj hc
        obtain ⟨rfl, -⟩ := List.cons.inj hc'
        cases n with
        | zero => rfl
        | succ n =>
            show Json.value (n + 1) (Text.unit '[' :: Text.unit 'D' :: (c ++ x)) = none
            rw [Json.value_array]
            exact arrayBody_eq_none (by decide) rfl (by decide) n _

/-! ## Object texts are not the mark -/

/-- What a cut leaves of the text of an object is not the mark. -/
theorem trim_cut_object {p p' : Text} {ms : Json.Members} (h : Json.parse? p = some (.obj ms))
    (hcut : Cut p' p) : p'.trim ≠ doneMark := by
  obtain ⟨q, x, hq, hx, rfl⟩ := hcut
  intro hmark
  have hprefix := Text.trim_prefix_trimStart (q ++ x)
  rw [hmark] at hprefix
  obtain ⟨a, ha, hqa⟩ := Text.exists_append_dropWhile Json.isSpace q
  have hskip : q = a ++ Json.skipSpace q := hqa
  rw [hskip, List.append_assoc,
    Text.trimStart_blank_append fun u hu => Json.isBlank_of_isSpace (ha u hu)] at hprefix
  rcases Json.skipSpace_object_beginning h hq with hnil | ⟨s, _, _, hs, -, -⟩
  · rw [hnil, List.nil_append] at hprefix
    rcases hx with rfl | rfl <;> exact absurd hprefix (by decide)
  · rw [hs, List.cons_append] at hprefix
    obtain ⟨hhead, -⟩ := List.cons_prefix_cons.mp hprefix
    exact absurd hhead (by decide)

end Sse

end ChatRelay
