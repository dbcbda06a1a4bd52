import ChatRelay.Proofs.Json.Extent

/-!
# The order of members

An object lists its members in one order (`Ordered`): no key twice, and an array index before every
key that is not a smaller index. Setting a key keeps the order (`Ordered.insert`), so members that
have been set one after another have it (`ordered_ofPairs`), and setting those that have it one after
another gives them again (`ofPairs_eq_self`).

A value is settled if all its objects are in order. Whatever is read from a text is settled
(`settled_of_parse?`), since the reader sets the members of each object as they come.
-/

namespace ChatRelay.Json

variable {α β : Type} {ms : List (Text × α)} {key : Text} {value : α}

/-! ## Places of keys -/

theorem precedes_asymm {a b : Text} (h : precedes a b = true) : precedes b a = false := by
  unfold precedes at h ⊢
  cases ha : arrayIndex? a <;> cases hb : arrayIndex? b <;> simp only [ha, hb] at h ⊢
  case some.some => simp only [decide_eq_true_eq, decide_eq_false_iff_not] at h ⊢; omega
  all_goals trivial

/-- What does not go before a key does not go before one that precedes this. -/
theorem precedes_eq_false_of_precedes {a b c : Text} (hab : precedes a b = true)
    (hcb : precedes c b = false) : precedes c a = false := by
  unfold precedes at hab hcb ⊢
  cases ha : arrayIndex? a <;> cases hb : arrayIndex? b <;> cases hc : arrayIndex? c <;>
    simp only [ha, hb, hc] at hab hcb ⊢
  case some.some.some =>
    simp only [decide_eq_true_eq, decide_eq_false_iff_not] at hab hcb ⊢
    omega
  all_goals trivial

/-- One member may stand before another one. -/
def Before (m m' : Text × α) : Prop := m.1 ≠ m'.1 ∧ precedes m'.1 m.1 = false

/-- Members whose keys differ and stand where they belong. -/
def Ordered (ms : List (Text × α)) : Prop := ms.Pairwise Before

theorem mem_place {m : Text × α} : m ∈ place key value ms ↔ m = (key, value) ∨ m ∈ ms := by
  induction ms with
  | nil => simp [place]
  | cons head ms ih =>
      obtain ⟨k, w⟩ := head
      rw [place]
      split
      · exact List.mem_cons
      · rw [List.mem_cons, ih, List.mem_cons]
        exact or_left_comm

theorem Ordered.place (h : Ordered ms) (hnew : ∀ m ∈ ms, m.1 ≠ key) :
    Ordered (place key value ms) := by
  induction ms with
  | nil => exact List.pairwise_singleton _ _
  | cons head ms ih =>
      obtain ⟨k, w⟩ := head
      obtain ⟨hhead, hms⟩ := List.pairwise_cons.mp h
      obtain ⟨hk, hnew⟩ := List.forall_mem_cons.mp hnew
      rw [Json.place]
      split
      case isTrue hbefore =>
        refine List.pairwise_cons.mpr ⟨List.forall_mem_cons.mpr ⟨⟨hk.symm, ?_⟩, ?_⟩, h⟩
        · exact precedes_asymm hbefore
        · exact fun m hm =>
            ⟨(hnew m hm).symm, precedes_eq_false_of_precedes hbefore (hhead m hm).2⟩
      case isFalse hbehind =>
        refine List.pairwise_cons.mpr ⟨fun m hm => ?_, ih hms hnew⟩
        rcases mem_place.mp hm with rfl | hm
        · exact ⟨hk, Bool.not_eq_true _ ▸ hbehind⟩
        · exact hhead m hm

theorem keys_assign : (assign key value ms).map Prod.fst = ms.map Prod.fst := by
  induction ms with
  | nil => rfl
  | cons head ms ih =>
      rw [assign]
      split
      · rfl
      · rw [List.map_cons, List.map_cons, ih]

theorem mem_assign {m : Text × α} (h : m ∈ assign key value ms) : m = (key, value) ∨ m ∈ ms := by
  induction ms with
  | nil => cases h
  | cons head ms ih =>
      rw [assign] at h
      split at h
      case isTrue heq =>
        rcases List.mem_cons.mp h with rfl | hm
        · exact .inl (congrArg (·, value) heq)
        · exact .inr (List.mem_cons_of_mem _ hm)
      case isFalse =>
        rcases List.mem_cons.mp h with rfl | hm
        · exact .inr List.mem_cons_self
        · exact (ih hm).imp_right (List.mem_cons_of_mem _)

/-- Whether members are in order can be told from their keys. -/
theorem ordered_iff_keys : Ordered ms ↔
    (ms.map Prod.fst).Pairwise fun k k' => k ≠ k' ∧ precedes k' k = false := by
  rw [List.pairwise_map]
  rfl

theorem Ordered.assign (h : Ordered ms) : Ordered (assign key value ms) := by
  rw [ordered_iff_keys, keys_assign]
  exact ordered_iff_keys.mp h

theorem lookup_eq_none_iff : lookup key ms = none ↔ ∀ m ∈ ms, m.1 ≠ key := by
  induction ms with
  | nil => simp [lookup]
  | cons head ms ih =>
      rw [lookup, List.forall_mem_cons]
      split
      case isTrue heq => simp [heq]
      case isFalse hne => simp [ih, hne]

theorem mem_of_lookup {v : α} (h : lookup key ms = some v) : (key, v) ∈ ms := by
  induction ms with
  | nil => cases h
  | cons head ms ih =>
      rw [lookup] at h
      split at h
      case isTrue heq =>
        cases h
        exact heq ▸ List.mem_cons_self
      case isFalse => exact List.mem_cons_of_mem _ (ih h)

theorem Ordered.insert (h : Ordered ms) : Ordered (insert ms key value) := by
  rw [Json.insert]
  split
  · exact h.assign
  · exact h.place (lookup_eq_none_iff.mp (Option.not_isSome_iff_eq_none.mp ‹_›))

theorem mem_insert {m : Text × α} (h : m ∈ insert ms key value) : m = (key, value) ∨ m ∈ ms := by
  rw [insert] at h
  split at h
  · exact mem_assign h
  · exact mem_place.mp h

/-- A member that belongs behind all others is set there. -/
theorem insert_eq_concat (h : ∀ m ∈ ms, Before m (key, value)) :
    insert ms key value = ms ++ [(key, value)] := by
  rw [insert, lookup_eq_none_iff.mpr fun m hm => (h m hm).1]
  show place key value ms = _
  induction ms with
  | nil => rfl
  | cons head ms ih =>
      obtain ⟨hhead, hms⟩ := List.forall_mem_cons.mp h
      rw [place, if_neg (Bool.not_eq_true _ ▸ hhead.2), ih hms]
      rfl

theorem Ordered.without (h : Ordered ms) : Ordered (without key ms) := List.Pairwise.filter _ h

theorem without_without (ms : List (Text × α)) :
    Json.without key (Json.without key ms) = Json.without key ms := by
  simp [Json.without]

/-! ## Members that are set one after another -/

theorem ordered_ofPairs (ps : Members) : Ordered (ofPairs ps) := by
  suffices h : ∀ ms : Members, Ordered ms →
      Ordered (ps.foldl (fun ms m => insert ms m.1 m.2) ms) from h [] .nil
  induction ps with
  | nil => exact fun _ h => h
  | cons p ps ih => exact fun ms h => ih _ h.insert

theorem mem_of_mem_ofPairs {ps : Members} {m : Text × Json} (h : m ∈ ofPairs ps) : m ∈ ps := by
  suffices hall : ∀ ms : Members,
      m ∈ ps.foldl (fun ms m => insert ms m.1 m.2) ms → m ∈ ms ∨ m ∈ ps from
    (hall [] h).resolve_left List.not_mem_nil
  clear h
  induction ps with
  | nil => exact fun _ h => .inl h
  | cons p ps ih =>
      intro ms h
      rcases ih _ h with h | h
      · rcases mem_insert h with rfl | h
        · exact .inr List.mem_cons_self
        · exact .inl h
      · exact .inr (List.mem_cons_of_mem p h)

theorem ofPairs_eq_self {ms : Members} (h : Ordered ms) : ofPairs ms = ms := by
  suffices hall : ∀ first : Members, Ordered (first ++ ms) →
      ms.foldl (fun ms m => insert ms m.1 m.2) first = first ++ ms from hall [] h
  clear h
  induction ms with
  | nil => exact fun first _ => (List.append_nil first).symm
  | cons m ms ih =>
      intro first h
      have hfirst : ∀ m' ∈ first, Before m' m := fun m' hm' =>
        (List.pairwise_append.mp h).2.2 m' hm' m List.mem_cons_self
      rw [List.append_cons] at h ⊢
      rw [List.foldl_cons, insert_eq_concat hfirst]
      exact ih _ h

/-! ## Settled values -/

/-- All objects of a value are in order. -/
inductive Settled : Json → Prop
  | null : Settled .null
  | bool {b : Bool} : Settled (.bool b)
  | num {x : Number} : Settled (.num x)
  | str {s : Text} : Settled (.str s)
  | arr {items : List Json} : (∀ v ∈ items, Settled v) → Settled (.arr items)
  | obj {ms : Members} : Ordered ms → (∀ m ∈ ms, Settled m.2) → Settled (.obj ms)

/-- The members of a settled object without a key are settled. -/
theorem Settled.without {ms : Members} (h : Settled (.obj ms)) (key : Text) :
    Settled (.obj (without key ms)) := by
  cases h with
  | obj hordered hms => exact .obj hordered.without fun m hm => hms m (List.mem_of_mem_filter hm)

theorem Settled.lookup {ms : Members} (h : Settled (.obj ms)) {key : Text} {v : Json}
    (hv : lookup key ms = some v) : Settled v := by
  cases h with
  | obj _ hms => exact hms (key, v) (mem_of_lookup hv)

/-- Whatever `S` reads has a property. -/
structure Gives (P : α → Prop) (S : Scan α) : Prop where
  reads : ∀ {t a rest}, S t = some (a, rest) → P a

section Gives

variable {P : α → Prop} {Q : β → Prop} {S : Scan α}

theorem Gives.bind {F : α → Scan β} (hS : Gives P S) (hF : ∀ a, P a → Gives Q (F a)) :
    Gives Q (S.bind F) where
  reads {t b rest} h := by
    obtain ⟨⟨a, r⟩, ha, hb⟩ := Option.bind_eq_some_iff.mp h
    exact (hF a (hS.reads ha)).reads hb

theorem Gives.map {f : α → β} (hS : Gives P S) (hf : ∀ a, P a → Q (f a)) : Gives Q (S.map f) where
  reads {t b rest} h := by
    obtain ⟨⟨a, r⟩, ha, heq⟩ := Option.map_eq_some_iff.mp h
    cases heq
    exact hf a (hS.reads ha)

theorem Gives.peek {F : CodeUnit → Scan α} (hF : ∀ u, Gives P (F u)) : Gives P (Scan.peek F) where
  reads {t a rest} h := by
    cases t with
    | nil => cases h
    | cons u t => exact (hF u).reads h

theorem Gives.ite {T : Scan α} (p : Prop) [Decidable p] (hS : Gives P S) (hT : Gives P T) :
    Gives P (if p then S else T) := by
  split
  · exact hS
  · exact hT

theorem Gives.after (u : CodeUnit) (hS : Gives P S) : Gives P (S.after u) where
  reads {t a rest} h := by
    cases t with
    | nil => cases h
    | cons v t =>
        rw [Scan.after] at h
        split at h
        · exact hS.reads h
        · cases h

theorem Gives.orEmpty {stop : CodeUnit} {a : α} (ha : P a) (hS : Gives P S) :
    Gives P (S.orEmpty stop a) where
  reads {t a' rest} h := by
    cases t with
    | nil => cases h
    | cons u t =>
        rw [Scan.orEmpty] at h
        split at h
        · cases h
          exact ha
        · exact hS.reads h

theorem Gives.orEnd {stop : CodeUnit} {a : α} (ha : P a) (hS : Gives P S) :
    Gives P (S.orEnd stop a) where
  reads {t a' rest} h := by
    cases t with
    | nil => cases h
    | cons u t =>
        rw [Scan.orEnd] at h
        split at h
        · exact hS.reads h
        · split at h
          · cases h
            exact ha
          · cases h

theorem gives_true (S : Scan α) : Gives (fun _ => True) S := ⟨fun _ => trivial⟩

theorem gives_word {P : Json → Prop} (w : Text) {v : Json} (hv : P v) : Gives P (word w v) where
  reads {t a rest} h := by
    obtain ⟨r, -, heq⟩ := Option.map_eq_some_iff.mp h
    cases heq
    exact hv

end Gives

/-- The readers give settled values only. -/
theorem gives_settled (n : Nat) :
    Gives Settled (Json.value n) ∧ Gives (∀ v ∈ ·, Settled v) (items n) ∧
      Gives (∀ m ∈ ·, Settled m.2) (members n) := by
  -- The three readings call each other with less fuel, as in `scans_grow`.
  induction n with
  | zero => exact ⟨⟨nofun⟩, ⟨nofun⟩, ⟨nofun⟩⟩
  | succ n ih =>
      obtain ⟨hvalue, hitems, hmembers⟩ := ih
      have harray : Gives Settled (arrayBody n) := (gives_true _).bind fun _ _ =>
        .orEmpty (.arr (List.forall_mem_nil _)) (hitems.map fun _ h => .arr h)
      have hobject : Gives Settled (objectBody n) := (gives_true _).bind fun _ _ =>
        .orEmpty (.obj .nil (List.forall_mem_nil _)) (hmembers.map fun ps h =>
          .obj (ordered_ofPairs ps) fun m hm => h m (mem_of_mem_ofPairs hm))
      refine ⟨?_, ?_, ?_⟩
      · rw [value_succ]
        exact .peek fun u => .ite _ (((gives_true _).map fun _ _ => .str).after _) <|
          .ite _ (harray.after _) <| .ite _ (hobject.after _) <|
          .ite _ (gives_word _ .bool) <| .ite _ (gives_word _ .bool) <| .ite _ (gives_word _ .null) <|
          (gives_true _).map fun _ _ => .num
      · rw [items_succ]
        exact hvalue.bind fun x hx => (gives_true _).bind fun _ _ =>
          .orEnd (List.forall_mem_singleton.mpr hx) <| Gives.map
            ((gives_true _).bind fun _ _ => hitems) fun _ h => List.forall_mem_cons.mpr ⟨hx, h⟩
      · rw [members_succ]
        refine .after _ ((gives_true _).bind fun key _ => (gives_true _).bind fun _ _ => .after _ ?_)
        exact (gives_true _).bind fun _ _ => hvalue.bind fun x hx => (gives_true _).bind fun _ _ =>
          .orEnd (List.forall_mem_singleton.mpr hx) <| Gives.map
            ((gives_true _).bind fun _ _ => hmembers) fun _ h => List.forall_mem_cons.mpr ⟨hx, h⟩

/-- What is read from a text is settled. -/
theorem settled_of_parse? {t : Text} {v : Json} (h : parse? t = some v) : Settled v := by
  obtain ⟨rest, hvalue, -⟩ := parse?_eq_some.mp h
  exact (gives_settled _).1.reads hvalue

end ChatRelay.Json
