import ChatRelay.Options
import Mathlib.Data.List.Induction

/-!
# Layers of options

Three layers of options may be merged in either grouping (`Options.above_layers`). For most fields
that is because a field takes its value from the uppermost layer that has one. Tool lists are the
exception: the union of two lists keeps the place of a name in the lower list and the definition in
the upper one, and lists may repeat names. Two facts carry the law. A list without repetitions, added
to another one, does the same as the tools that it was made of (`Tool.extend_distinct`), so a union
that has been taken already makes no difference. And what a union consists of can be said without the
order in which tools are put into it: the names in the order in which they first occur, each with
its last definition (`Tool.united_distinct`).
-/

namespace ChatRelay

/-! ## Fields -/

/-- The field of two layers: the upper one if it has a value, else the lower one. -/
inductive Field.Over {α : Type} : (upper lower merged : Field α) → Prop
  | said (x : α) (lower : Field α) : Over (.value x) lower (.value x)
  | missing (lower : Field α) : Over .missing lower lower
  | null (lower : Field α) : Over .null lower lower

theorem Field.over_above {α : Type} (upper lower : Field α) :
    Over upper lower (upper.above lower) := by
  cases upper with
  | missing => exact .missing lower
  | null => exact .null lower
  | value x => exact .said x lower

/-! ## Names -/

/-- The value that a scalar is compared by; zero has no sign there. Arrays, objects and NaN have none,
they are not even the same as themselves. -/
def Json.scalar? : Json → Option Json
  | .num .nan => none
  | .num x => some (.num x.plainZero)
  | .arr _ => none
  | .obj _ => none
  | v => some v

theorem Number.sameValue_iff {x y : Number} :
    x.sameValue y = true ↔ x ≠ .nan ∧ y ≠ .nan ∧ x.plainZero = y.plainZero := by
  cases x with
  | nan => simp [sameValue]
  | infinite a =>
      cases y with
      | nan => simp [sameValue]
      | infinite b => simp [sameValue, plainZero]
      | finite b n f => cases n <;> simp [sameValue, plainZero, zero]
  | finite a m e =>
      cases y with
      | nan => simp [sameValue]
      | infinite b => cases m <;> simp [sameValue, plainZero, zero]
      | finite b n f => cases m <;> cases n <;> simp [sameValue, plainZero, zero, and_assoc]

theorem Json.sameScalar_iff {v w : Json} :
    v.sameScalar w = true ↔ v.scalar? = w.scalar? ∧ v.scalar? ≠ none := by
  cases v with
  | num x =>
      cases w with
      | num y =>
          rw [sameScalar, Number.sameValue_iff]
          cases x <;> cases y <;> simp [scalar?]
      | _ => cases x <;> simp [sameScalar, scalar?]
  | _ =>
      cases w with
      | num y => cases y <;> simp [sameScalar, scalar?]
      | _ => simp [sameScalar, scalar?]

namespace Tool

/-- What a tool is told apart by: its name, or that it has none. -/
def key? (t : Tool) : Option (Option Json) :=
  match t.name? with
  | none => some none
  | some v => v.scalar?.map some

theorem sameName_iff {s t : Tool} :
    s.sameName t = true ↔ s.key? = t.key? ∧ s.key? ≠ none := by
  unfold sameName key?
  cases s.name? with
  | none =>
      cases t.name? with
      | none => simp
      | some w =>
          dsimp only
          cases w.scalar? <;> simp
  | some v =>
      cases t.name? with
      | none => simp
      | some w =>
          dsimp only
          rw [Json.sameScalar_iff]
          cases v.scalar? <;> cases w.scalar? <;> simp

theorem sameName_comm (s t : Tool) : s.sameName t = t.sameName s := by
  rw [Bool.eq_iff_iff, sameName_iff, sameName_iff]
  constructor
  · rintro ⟨heq, hne⟩
    exact ⟨heq.symm, heq ▸ hne⟩
  · rintro ⟨heq, hne⟩
    exact ⟨heq.symm, heq ▸ hne⟩

theorem sameName_trans {s t u : Tool} (hst : s.sameName t = true) (htu : t.sameName u = true) :
    s.sameName u = true := by
  obtain ⟨hst, hne⟩ := sameName_iff.mp hst
  obtain ⟨htu, -⟩ := sameName_iff.mp htu
  exact sameName_iff.mpr ⟨hst.trans htu, hne⟩

/-- Tools of one name stand in the same relation to a third one. -/
theorem sameName_congr {s t u : Tool} (h : s.sameName t = true) : s.sameName u = t.sameName u := by
  rw [Bool.eq_iff_iff]
  exact ⟨sameName_trans (sameName_comm s t ▸ h), sameName_trans h⟩

/-! ## Tools put into a list -/

variable {s t u : Tool} {ts : List Tool}

theorem put_of_same (h : s.sameName t = true) : put t (s :: ts) = t :: ts := if_pos h

theorem put_of_other (h : s.sameName t = false) : put t (s :: ts) = s :: put t ts :=
  if_neg (Bool.not_eq_true _ ▸ h)

/-- Of two tools of one name that are put in one after another, the second one remains. -/
theorem put_put_same (h : s.sameName t = true) : put t (put s ts) = put t ts := by
  induction ts with
  | nil => exact put_of_same h
  | cons r ts ih =>
      have hr : r.sameName s = r.sameName t := by
        rw [sameName_comm r, sameName_comm r, sameName_congr h]
      cases hrt : r.sameName t with
      | true => rw [put_of_same (hr.trans hrt), put_of_same h, put_of_same hrt]
      | false => rw [put_of_other (hr.trans hrt), put_of_other hrt, put_of_other hrt, ih]

/-- A tool whose name is in the list takes the same place before and after another one is put in. -/
theorem put_put_other (h : u.sameName t = false) (hmem : ∃ s ∈ ts, s.sameName t = true) :
    put t (put u ts) = put u (put t ts) := by
  induction ts with
  | nil => simp at hmem
  | cons r ts ih =>
      have htu : t.sameName u = false := by rwa [sameName_comm]
      cases hrt : r.sameName t with
      | true =>
          have hru : r.sameName u = false := (sameName_congr hrt).trans htu
          rw [put_of_other hru, put_of_same hrt, put_of_same hrt, put_of_other htu]
      | false =>
          cases hru : r.sameName u with
          | true => rw [put_of_same hru, put_of_other h, put_of_other hrt, put_of_same hru]
          | false =>
              have hmem' : ∃ s ∈ ts, s.sameName t = true := by
                simpa [hrt] using hmem
              rw [put_of_other hru, put_of_other hrt, put_of_other hrt, put_of_other hru, ih hmem']

/-- Putting a tool in takes no name away. -/
theorem exists_sameName_put (u : Tool) (h : ∃ s ∈ ts, s.sameName t = true) :
    ∃ s ∈ put u ts, s.sameName t = true := by
  induction ts with
  | nil => simp at h
  | cons r ts ih =>
      cases hru : r.sameName u with
      | true =>
          rw [put_of_same hru]
          obtain ⟨s, hs, hst⟩ := h
          rcases List.mem_cons.mp hs with rfl | hs
          · exact ⟨u, List.mem_cons_self, (sameName_congr hru).symm.trans hst⟩
          · exact ⟨s, List.mem_cons_of_mem u hs, hst⟩
      | false =>
          rw [put_of_other hru]
          obtain ⟨s, hs, hst⟩ := h
          rcases List.mem_cons.mp hs with rfl | hs
          · exact ⟨s, List.mem_cons_self, hst⟩
          · obtain ⟨s', hs', hst'⟩ := ih ⟨s, hs, hst⟩
            exact ⟨s', List.mem_cons_of_mem r hs', hst'⟩

theorem exists_sameName_put_self (hself : t.sameName t = true) (ts : List Tool) :
    ∃ s ∈ put t ts, s.sameName t = true := by
  induction ts with
  | nil => exact ⟨t, List.mem_singleton_self t, hself⟩
  | cons r ts ih =>
      cases hrt : r.sameName t with
      | true =>
          rw [put_of_same hrt]
          exact ⟨t, List.mem_cons_self, hself⟩
      | false =>
          rw [put_of_other hrt]
          obtain ⟨s, hs, hst⟩ := ih
          exact ⟨s, List.mem_cons_of_mem r hs, hst⟩

/-! ## Lists added to lists -/

/-- A list to which the tools of another one are added one after another. -/
def extend (ts more : List Tool) : List Tool := more.foldl (fun ts t => put t ts) ts

/-- No two tools of a list have the same name. -/
def Apart (ts : List Tool) : Prop := ts.Pairwise fun s t => s.sameName t = false

theorem extend_append (ts more rest : List Tool) :
    extend ts (more ++ rest) = extend (extend ts more) rest := List.foldl_append

theorem distinct_concat (ts : List Tool) (t : Tool) :
    distinct (ts ++ [t]) = put t (distinct ts) := extend_append [] ts [t]

theorem distinct_append (ts more : List Tool) :
    distinct (ts ++ more) = extend (distinct ts) more := extend_append [] ts more

theorem mem_put (h : u ∈ put t ts) : u = t ∨ u ∈ ts := by
  induction ts with
  | nil => exact .inl (List.mem_singleton.mp h)
  | cons r ts ih =>
      cases hrt : r.sameName t with
      | true =>
          rw [put_of_same hrt] at h
          rcases List.mem_cons.mp h with rfl | h
          · exact .inl rfl
          · exact .inr (List.mem_cons_of_mem r h)
      | false =>
          rw [put_of_other hrt] at h
          rcases List.mem_cons.mp h with rfl | h
          · exact .inr List.mem_cons_self
          · exact (ih h).imp_right (List.mem_cons_of_mem r)

theorem Apart.put (h : Apart ts) (t : Tool) : Apart (put t ts) := by
  induction ts with
  | nil => exact List.pairwise_singleton ..
  | cons r ts ih =>
      obtain ⟨hr, hts⟩ := List.pairwise_cons.mp h
      cases hrt : r.sameName t with
      | true =>
          rw [put_of_same hrt]
          refine List.pairwise_cons.mpr ⟨fun s hs => ?_, hts⟩
          rw [← sameName_congr hrt]
          exact hr s hs
      | false =>
          rw [put_of_other hrt]
          refine List.pairwise_cons.mpr ⟨fun s hs => ?_, ih hts⟩
          rcases mem_put hs with rfl | hs
          · exact hrt
          · exact hr s hs

theorem apart_distinct (ts : List Tool) : Apart (distinct ts) := by
  induction ts using List.reverseRecOn with
  | nil => exact List.Pairwise.nil
  | append_singleton ts t ih =>
      rw [distinct_concat]
      exact ih.put t

/-- A tool may be put in first or last, if none of the others has its name and the list holds it. -/
theorem put_extend {more : List Tool} (h : ∀ u ∈ more, u.sameName t = false)
    (hmem : ∃ s ∈ ts, s.sameName t = true) : put t (extend ts more) = extend (put t ts) more := by
  induction more generalizing ts with
  | nil => rfl
  | cons u more ih =>
      obtain ⟨hu, hmore⟩ := List.forall_mem_cons.mp h
      calc put t (extend (put u ts) more)
          = extend (put t (put u ts)) more := ih hmore (exists_sameName_put u hmem)
        _ = extend (put u (put t ts)) more := by rw [put_put_other hu hmem]

theorem extend_put {more : List Tool} (h : Apart more) (t : Tool) (ts : List Tool) :
    extend ts (put t more) = put t (extend ts more) := by
  induction more generalizing ts with
  | nil => rfl
  | cons s more ih =>
      obtain ⟨hs, hmore⟩ := List.pairwise_cons.mp h
      cases hst : s.sameName t with
      | true =>
          have hself : s.sameName s = true := by
            refine sameName_trans hst ?_
            rwa [sameName_comm]
          have hothers : ∀ u ∈ more, u.sameName t = false := by
            intro u hu
            rw [sameName_comm, ← sameName_congr hst]
            exact hs u hu
          have hthere : ∃ r ∈ put s ts, r.sameName t = true := by
            obtain ⟨r, hr, hrs⟩ := exists_sameName_put_self hself ts
            exact ⟨r, hr, sameName_trans hrs hst⟩
          rw [put_of_same hst]
          calc extend (put t ts) more
              = extend (put t (put s ts)) more := by rw [put_put_same hst]
            _ = put t (extend (put s ts) more) := (put_extend hothers hthere).symm
      | false =>
          rw [put_of_other hst]
          exact ih hmore (put s ts)

/-- A list without its repetitions adds the same as the list itself. -/
theorem extend_distinct (ts more : List Tool) : extend ts (distinct more) = extend ts more := by
  induction more using List.reverseRecOn with
  | nil => rfl
  | append_singleton more t ih =>
      calc extend ts (distinct (more ++ [t]))
          = extend ts (put t (distinct more)) := by rw [distinct_concat]
        _ = put t (extend ts (distinct more)) := extend_put (apart_distinct more) t ts
        _ = put t (extend ts more) := by rw [ih]
        _ = extend ts (more ++ [t]) := (extend_append ts more [t]).symm

theorem distinct_append_distinct (ts more : List Tool) :
    distinct (ts ++ distinct more) = distinct (ts ++ more) := by
  rw [distinct_append, extend_distinct, distinct_append]

theorem distinct_distinct_append (ts more : List Tool) :
    distinct (distinct ts ++ more) = distinct (ts ++ more) := by
  rw [distinct_append, distinct_append]
  exact congrArg (extend · more) (extend_distinct [] ts)

/-! ## The union of two lists -/

theorem distinct_eq_nil {ts : List Tool} : distinct ts = [] ↔ ts = [] := by
  constructor
  · intro h
    induction ts using List.reverseRecOn with
    | nil => rfl
    | append_singleton ts t _ =>
        rw [distinct_concat] at h
        cases hts : distinct ts with
        | nil => rw [hts] at h; cases h
        | cons r rs =>
            rw [hts, put] at h
            split at h <;> cases h
  · rintro rfl
    rfl

theorem unite_eq_none {upper lower : Option (List Tool)} :
    unite upper lower = none ↔ upper.getD [] = [] ∧ lower.getD [] = [] := by
  rw [and_comm, ← List.append_eq_nil_iff]
  unfold unite
  split
  case h_1 h => simp [h]
  case h_2 h => simp [h]

theorem getD_unite (upper lower : Option (List Tool)) :
    (unite upper lower).getD [] = distinct (lower.getD [] ++ upper.getD []) := by
  unfold unite
  split
  case h_1 h =>
    rw [h]
    rfl
  case h_2 h => rw [h, Option.getD_some]

theorem unite_assoc (a b d : Option (List Tool)) :
    unite (unite a b) d = unite a (unite b d) := by
  have hlists : (unite (unite a b) d).getD [] = (unite a (unite b d)).getD [] := by
    rw [getD_unite, getD_unite, getD_unite, getD_unite, distinct_append_distinct,
      distinct_distinct_append, List.append_assoc]
  have hnone : unite (unite a b) d = none ↔ unite a (unite b d) = none := by
    simp only [unite_eq_none, getD_unite, distinct_eq_nil, List.append_eq_nil_iff]
    tauto
  cases h : unite (unite a b) d with
  | none => exact (hnone.mp h).symm
  | some ts =>
      cases h' : unite a (unite b d) with
      | none => rw [hnone.mpr h'] at h; cases h
      | some us =>
          rw [h, h'] at hlists
          exact congrArg some hlists

/-! ## What a union consists of -/

/-- The text that names a tool. -/
def nameText? (t : Tool) : Option Text := t.name?.bind Json.text?

/-- The names of tools, in order. -/
def names (ts : List Tool) : List Text := ts.filterMap nameText?

/-- The tools of a name. -/
def called (n : Text) (ts : List Tool) : List Tool := ts.filter fun t => t.nameText? = some n

/-- What two lists come to: the names as they first occur, the lower list coming first, and for each
name the last definition in the upper list if there is one, else the last in the lower one. -/
structure United (upper lower merged : List Tool) : Prop where
  nodup : (names merged).Nodup
  names : names merged = (names lower ++ names upper).eraseDups
  definition : ∀ n, called n merged
    = ((called n upper).getLast?.or (called n lower).getLast?).toList

variable {n : Text}

theorem nameText?_eq_some :
    t.nameText? = some n ↔ t.key? = some (some (.str n)) := by
  unfold nameText? key?
  cases t.name? with
  | none => simp
  | some v =>
      cases v with
      | num x => cases x <;> simp [Json.text?, Json.scalar?]
      | _ => simp [Json.text?, Json.scalar?]

theorem nameText?_of_sameName (h : s.sameName t = true) : s.nameText? = t.nameText? := by
  obtain ⟨hkey, -⟩ := sameName_iff.mp h
  refine Option.ext fun n => ?_
  rw [nameText?_eq_some, nameText?_eq_some, hkey]

theorem sameName_of_nameText? (hs : s.nameText? = some n) (ht : t.nameText? = some n) :
    s.sameName t = true := by
  rw [nameText?_eq_some] at hs ht
  refine sameName_iff.mpr ⟨hs.trans ht.symm, ?_⟩
  rw [hs]
  exact Option.some_ne_none _

theorem names_append (ts more : List Tool) : names (ts ++ more) = names ts ++ names more :=
  List.filterMap_append

theorem called_append (n : Text) (ts more : List Tool) :
    called n (ts ++ more) = called n ts ++ called n more := List.filter_append ..

theorem mem_names : n ∈ names ts ↔ ∃ t ∈ ts, t.nameText? = some n := List.mem_filterMap

/-- A tool that brings no new name leaves the names as they are. -/
theorem names_put_of_mem (h : ∀ n, t.nameText? = some n → n ∈ names ts) :
    names (put t ts) = names ts := by
  induction ts with
  | nil =>
      have ht : t.nameText? = none :=
        Option.eq_none_iff_forall_ne_some.mpr fun n hn => List.not_mem_nil (h n hn)
      simp [put, names, ht]
  | cons r ts ih =>
      cases hrt : r.sameName t with
      | true =>
          rw [put_of_same hrt]
          simp only [names, List.filterMap_cons, nameText?_of_sameName hrt]
      | false =>
          have htail : names (put t ts) = names ts := by
            refine ih fun n hn => ?_
            obtain ⟨s, hs, hsn⟩ := mem_names.mp (h n hn)
            rcases List.mem_cons.mp hs with rfl | hs
            · rw [sameName_of_nameText? hsn hn] at hrt
              cases hrt
            · exact mem_names.mpr ⟨s, hs, hsn⟩
          rw [put_of_other hrt]
          simp only [names, List.filterMap_cons] at htail ⊢
          rw [htail]

/-- A tool with a new name comes last. -/
theorem put_of_absent (h : ∀ s ∈ ts, s.sameName t = false) : put t ts = ts ++ [t] := by
  induction ts with
  | nil => rfl
  | cons r ts ih =>
      obtain ⟨hr, hts⟩ := List.forall_mem_cons.mp h
      rw [put_of_other hr, ih hts, List.cons_append]

theorem names_put_of_not_mem (ht : t.nameText? = some n) (h : n ∉ names ts) :
    names (put t ts) = names ts ++ [n] := by
  have habsent : ∀ s ∈ ts, s.sameName t = false := by
    intro s hs
    rw [← Bool.not_eq_true]
    intro hst
    exact h (mem_names.mpr ⟨s, hs, (nameText?_of_sameName hst).trans ht⟩)
  rw [put_of_absent habsent, names_append]
  simp [names, ht]

theorem names_single (h : t.nameText? = some n) : names [t] = [n] := by simp [names, h]

theorem eraseDups_concat_of_mem {ns : List Text} (h : n ∈ ns) :
    (ns ++ [n]).eraseDups = ns.eraseDups := by
  simp [List.eraseDups_append, List.removeAll, h]

theorem eraseDups_concat_of_not_mem {ns : List Text} (h : n ∉ ns) :
    (ns ++ [n]).eraseDups = ns.eraseDups ++ [n] := by
  simp [List.eraseDups_append, List.removeAll, h, List.eraseDups_cons]

/-- The names of a list without repetitions are the names as they first occur. -/
theorem names_distinct (ts : List Tool) : names (distinct ts) = (names ts).eraseDups := by
  induction ts using List.reverseRecOn with
  | nil => rfl
  | append_singleton ts t ih =>
      have hmem (n : Text) : n ∈ names (distinct ts) ↔ n ∈ names ts := by
        rw [ih, List.mem_eraseDups]
      rw [distinct_concat, names_append]
      cases ht : t.nameText? with
      | none =>
          have hnone : names [t] = [] := by simp [names, ht]
          rw [names_put_of_mem (by simp [ht]), ih, hnone, List.append_nil]
      | some n =>
          rw [names_single ht]
          by_cases hn : n ∈ names ts
          · have hold : ∀ m, t.nameText? = some m → m ∈ names (distinct ts) := by
              intro m hm
              rw [ht] at hm
              cases hm
              exact (hmem n).mpr hn
            rw [names_put_of_mem hold, ih, eraseDups_concat_of_mem hn]
          · rw [names_put_of_not_mem ht ((hmem n).not.mpr hn), ih, eraseDups_concat_of_not_mem hn]

theorem Apart.nodup_names (h : Apart ts) : (names ts).Nodup := by
  refine List.Pairwise.filterMap nameText? ?_ h
  intro s t hst n hs m ht hnm
  subst hnm
  rw [sameName_of_nameText? hs ht] at hst
  cases hst

/-! ## Definitions -/

theorem called_cons_of_eq (h : t.nameText? = some n) : called n (t :: ts) = t :: called n ts :=
  List.filter_cons_of_pos (decide_eq_true h)

theorem called_cons_of_ne (h : t.nameText? ≠ some n) : called n (t :: ts) = called n ts :=
  List.filter_cons_of_neg (by simpa using h)

theorem called_put_of_ne (h : t.nameText? ≠ some n) : called n (put t ts) = called n ts := by
  induction ts with
  | nil => exact called_cons_of_ne h
  | cons r ts ih =>
      cases hrt : r.sameName t with
      | true =>
          have hr : r.nameText? ≠ some n := nameText?_of_sameName hrt ▸ h
          rw [put_of_same hrt, called_cons_of_ne h, called_cons_of_ne hr]
      | false =>
          rw [put_of_other hrt]
          by_cases hr : r.nameText? = some n
          · rw [called_cons_of_eq hr, called_cons_of_eq hr, ih]
          · rw [called_cons_of_ne hr, called_cons_of_ne hr, ih]

/-- A tool that is put in is the only one of its name. -/
theorem called_put_of_eq (h : t.nameText? = some n) (hapart : Apart ts) :
    called n (put t ts) = [t] := by
  induction ts with
  | nil => exact called_cons_of_eq h
  | cons r ts ih =>
      obtain ⟨hr, hts⟩ := List.pairwise_cons.mp hapart
      cases hrt : r.sameName t with
      | true =>
          have hnone : called n ts = [] := by
            refine List.filter_eq_nil_iff.mpr fun s hs hsn => ?_
            have hsame := sameName_of_nameText? h (of_decide_eq_true hsn)
            rw [← sameName_congr hrt, hr s hs] at hsame
            cases hsame
          rw [put_of_same hrt, called_cons_of_eq h, hnone]
      | false =>
          have hrn : r.nameText? ≠ some n := by
            intro hrn
            rw [sameName_of_nameText? hrn h] at hrt
            cases hrt
          rw [put_of_other hrt, called_cons_of_ne hrn, ih hts]

/-- A name is defined by the last of its definitions. -/
theorem called_distinct (n : Text) (ts : List Tool) :
    called n (distinct ts) = (called n ts).getLast?.toList := by
  induction ts using List.reverseRecOn with
  | nil => rfl
  | append_singleton ts t ih =>
      rw [distinct_concat, called_append]
      by_cases ht : t.nameText? = some n
      · rw [called_put_of_eq ht (apart_distinct ts), called_cons_of_eq ht]
        simp [called]
      · rw [called_put_of_ne ht, ih, called_cons_of_ne ht]
        simp [called]

theorem united_distinct (upper lower : List Tool) : United upper lower (distinct (lower ++ upper)) where
  nodup := (apart_distinct _).nodup_names
  names := by rw [names_distinct, names_append]
  definition n := by rw [called_distinct, called_append, List.getLast?_append]

end Tool

/-! ## Merging layers -/

namespace Options

/-- The options of two layers. -/
structure Layered (upper lower merged : Options) : Prop where
  model : Field.Over upper.model lower.model merged.model
  version : Field.Over upper.version lower.version merged.version
  maxTokens : Field.Over upper.maxTokens lower.maxTokens merged.maxTokens
  temperature : Field.Over upper.temperature lower.temperature merged.temperature
  topK : Field.Over upper.topK lower.topK merged.topK
  topP : Field.Over upper.topP lower.topP merged.topP
  stopSequences : ∀ stops, merged.stopSequences = some stops ↔ upper.stopSequences = some stops ∨
    upper.stopSequences = none ∧ lower.stopSequences = some stops
  noTools : merged.tools = none ↔ upper.tools.getD [] = [] ∧ lower.tools.getD [] = []
  tools : ∀ ts, merged.tools = some ts →
    Tool.United (upper.tools.getD []) (lower.tools.getD []) ts

theorem layered_above (upper lower : Options) : Layered upper lower (upper.above lower) where
  model := Field.over_above ..
  version := Field.over_above ..
  maxTokens := Field.over_above ..
  temperature := Field.over_above ..
  topK := Field.over_above ..
  topP := Field.over_above ..
  stopSequences stops := by
    rw [above]
    cases upper.stopSequences <;> simp
  noTools := Tool.unite_eq_none
  tools ts hts := by
    have hlist := Tool.getD_unite upper.tools lower.tools
    have hunite : Tool.unite upper.tools lower.tools = some ts := hts
    rw [hunite, Option.getD_some] at hlist
    rw [hlist]
    exact Tool.united_distinct ..

theorem above_assoc (a b d : Options) : (a.above b).above d = a.above (b.above d) := by
  simp only [above, Field.above_assoc, Tool.unite_assoc, Option.or_assoc, Option.orElse_eq_or,
    Option.orElse_eq_orElse]

/-- Layers of options may be merged in either grouping, also over what is built in, and two layers
come to the fields of the upper one where it has a value and the united tools of both. -/
theorem above_layers (a b d : Options) :
    (a.above b).above d = a.above (b.above d) ∧ (a.above b).resolve = a.above b.resolve ∧
      Layered a d (a.above d) :=
  ⟨above_assoc a b d, above_assoc a b builtInOptions, layered_above a d⟩

end Options

end ChatRelay
