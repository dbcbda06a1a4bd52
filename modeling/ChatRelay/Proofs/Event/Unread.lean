import ChatRelay.Proofs.Event.Shape
import ChatRelay.Proofs.Json.Order
import Mathlib.Logic.Relation

/-!
# Members that are not read

The reading of a payload looks at a few objects in it (`Event.Place`), and in each of them at a few
keys. Which ones depends on the type that the object gives, since a ping has no index and the block
of a tool call no text (`Event.Place.known`). Two payloads are the same for the reading if the keys
that are looked at hold the same (`Event.Place.Same`); where one holds an object that is looked into,
being the same there is enough.

An edit of a payload that adds members with other keys, or puts members into another order, in any
of the objects that are looked into, leaves it the same (`Event.Place.Edit.same`), so it is read as
the same event, or refused with the same issues (`Event.ofJson_edit`).
-/

namespace ChatRelay

open Json (lookup)

/-! ## Keys -/

namespace Json

variable {α : Type} {ms : List (Text × α)} {key : Text}

theorem lookup_append (before after : List (Text × α)) :
    lookup key (before ++ after) = (lookup key before).or (lookup key after) := by
  induction before with
  | nil => rfl
  | cons m before ih =>
      rw [List.cons_append, lookup, lookup]
      split
      · rfl
      · exact ih

theorem lookup_cons_of_ne {k : Text} {v : α} (h : k ≠ key) :
    lookup key ((k, v) :: ms) = lookup key ms := if_neg h

theorem lookup_eq_some_iff (h : (ms.map Prod.fst).Nodup) {v : α} :
    lookup key ms = some v ↔ (key, v) ∈ ms := by
  refine ⟨mem_of_lookup, fun hmem => ?_⟩
  induction ms with
  | nil => cases hmem
  | cons head ms ih =>
      obtain ⟨k, w⟩ := head
      rw [List.map_cons, List.nodup_cons] at h
      rcases List.mem_cons.mp hmem with heq | hmem
      · cases heq
        exact if_pos rfl
      · rw [lookup_cons_of_ne]
        · exact ih h.2 hmem
        · rintro rfl
          exact h.1 (List.mem_map.mpr ⟨_, hmem, rfl⟩)

theorem lookup_perm {ms' : List (Text × α)} (h : ms.Perm ms') (hkeys : (ms.map Prod.fst).Nodup) :
    lookup key ms = lookup key ms' := by
  have hkeys' : (ms'.map Prod.fst).Nodup := (h.map Prod.fst).nodup_iff.mp hkeys
  refine Option.ext fun v => ?_
  rw [lookup_eq_some_iff hkeys, lookup_eq_some_iff hkeys', h.mem_iff]

end Json

/-! ## What is looked at -/

namespace Event

/-- The objects that are looked into. -/
inductive Place where
  | payload
  | message
  | usage
  | block
  | delta
  | stop
  | error

namespace Place

/-- What the keys beside the type mean for each type of payload, block and delta. -/
def byType : Place → List (Text × List (Text × Option Place))
  | .payload =>
    [("message_start", [("message", some .message)]),
      ("content_block_start", [("index", none), ("content_block", some .block)]),
      ("content_block_delta", [("index", none), ("delta", some .delta)]),
      ("content_block_stop", [("index", none)]),
      ("message_delta", [("delta", some .stop), ("usage", some .usage)]),
      ("error", [("error", some .error)])]
  | .block => [("text", [("text", none)]), ("tool_use", [("id", none), ("name", none)])]
  | .delta => [("text_delta", [("text", none)]), ("input_json_delta", [("partial_json", none)])]
  | _ => []

/-- The keys that mean something whatever the type is. -/
def always : Place → List (Text × Option Place)
  | .payload => [("type", none)]
  | .message => [("id", none), ("model", none), ("role", none), ("usage", some .usage)]
  | .usage => [("input_tokens", none), ("output_tokens", none)]
  | .block => [("type", none)]
  | .delta => [("type", none)]
  | .stop => [("stop_reason", none), ("stop_sequence", none)]
  | .error => [("type", none), ("message", none)]

/-- The keys that are looked at in an object, with the place of the object that a key may hold. -/
def known (place : Place) (ms : Json.Members) : List (Text × Option Place) :=
  place.always ++
    (((lookup "type" ms).bind Json.text?).bind fun type => lookup type place.byType).getD []

/-- What a key means. -/
def meaning (place : Place) (ms : Json.Members) (key : Text) : Option (Option Place) :=
  lookup key (place.known ms)

mutual

/-- Two objects at one place that hold the same under each key that is looked at. -/
inductive Same : Place → Json.Members → Json.Members → Prop
  | mk {place : Place} {ms ms' : Json.Members} :
      (∀ key below, place.meaning ms key = some below → Alike below (lookup key ms) (lookup key ms')) →
      Same place ms ms'

/-- Two members that are equal, or objects that are the same for those who look into them. -/
inductive Alike : Option Place → Option Json → Option Json → Prop
  | refl {below : Option Place} {v : Option Json} : Alike below v v
  | objects {place : Place} {ms ms' : Json.Members} : Same place ms ms' →
      Alike (some place) (some (.obj ms)) (some (.obj ms'))

end

/-- The ways to change an object without touching what is read of it: a member with another key is
added, the members are put into another order, or an object that is looked into is changed so. -/
inductive Edit : Place → Json.Members → Json.Members → Prop
  | add {place : Place} {before after : Json.Members} {key : Text} {v : Json} :
      place.meaning (before ++ after) key = none →
      Edit place (before ++ after) (before ++ (key, v) :: after)
  | reorder {place : Place} {ms ms' : Json.Members} : ms.Perm ms' → (ms.map Prod.fst).Nodup →
      Edit place ms ms'
  | inside {place below : Place} {before after inner inner' : Json.Members} {key : Text} :
      place.meaning (before ++ (key, .obj inner) :: after) key = some (some below) →
      Edit below inner inner' →
      Edit place (before ++ (key, .obj inner) :: after) (before ++ (key, .obj inner') :: after)

variable {place : Place} {ms ms' : Json.Members}

theorem Edit.same (h : Edit place ms ms') : Same place ms ms' := by
  induction h with
  | @add place before after key v hkey =>
      refine .mk fun k below hk => ?_
      have hne : key ≠ k := by
        rintro rfl
        rw [hkey] at hk
        cases hk
      rw [Json.lookup_append, Json.lookup_append, Json.lookup_cons_of_ne hne]
      exact .refl
  | reorder hperm hkeys =>
      refine .mk fun k below _ => ?_
      rw [Json.lookup_perm hperm hkeys]
      exact .refl
  | @inside place below before after inner inner' key hkey _ ih =>
      refine .mk fun k below' hk => ?_
      rw [Json.lookup_append, Json.lookup_append]
      by_cases hne : key = k
      · subst hne
        obtain rfl : some below = below' := Option.some.inj (hkey.symm.trans hk)
        cases lookup key before with
        | none =>
            rw [lookup, lookup, if_pos rfl, if_pos rfl]
            exact .objects ih
        | some v => exact .refl
      · rw [Json.lookup_cons_of_ne hne, Json.lookup_cons_of_ne hne]
        exact .refl

/-! ## The same reading -/

open Check Checked

theorem Same.lookup {key : Text} (h : Same place ms ms') (hkey : place.meaning ms key = some none) :
    lookup key ms = lookup key ms' := by
  cases h with
  | mk hall =>
      have hread := hall key none hkey
      generalize Json.lookup key ms = v, Json.lookup key ms' = v' at hread ⊢
      cases hread
      rfl

/-- A check of a member that may be an object agrees on two objects if it agrees on what is read of
the member. -/
theorem Same.field {α : Type} {check : Check α} {below : Place} {key : Text} (h : Same place ms ms')
    (hkey : place.meaning ms key = some (some below))
    (hcheck : ∀ inner inner', Same below inner inner' → ∀ path,
      check path (some (.obj inner)) = check path (some (.obj inner')))
    (path : List PathStep) : field check path ms key = field check path ms' key := by
  cases h with
  | mk hall =>
      have hread := hall key (some below) hkey
      rw [Check.field, Check.field]
      generalize Json.lookup key ms = v, Json.lookup key ms' = v' at hread ⊢
      cases hread with
      | refl => rfl
      | objects hsame => exact hcheck _ _ hsame _

theorem Same.usage (h : Same .usage ms ms') (path : List PathStep) :
    Usage.check path (some (.obj ms)) = Usage.check path (some (.obj ms')) := by
  rw [Usage.check, object_obj, object_obj, Check.field, Check.field, h.lookup rfl, h.lookup rfl]
  rfl

theorem Same.optionalUsage {key : Text} (h : Same place ms ms')
    (hkey : place.meaning ms key = some (some .usage)) (path : List PathStep) :
    Check.field (optional Usage.check) path ms key = Check.field (optional Usage.check) path ms' key :=
  h.field hkey (fun _ _ hsame path => congrArg (Checked.map some) (hsame.usage path)) path

theorem Same.header (h : Same .message ms ms') (path : List PathStep) :
    Header.check path (some (.obj ms)) = Header.check path (some (.obj ms')) := by
  have husage : Check.field (optional Usage.check) path ms "usage"
      = Check.field (optional Usage.check) path ms' "usage" := h.optionalUsage rfl path
  rw [Header.check, object_obj, object_obj, husage, Check.field, Check.field, Check.field,
    h.lookup rfl, h.lookup rfl, h.lookup rfl]
  rfl

theorem Same.stopInfo (h : Same .stop ms ms') (path : List PathStep) :
    StopInfo.check path (some (.obj ms)) = StopInfo.check path (some (.obj ms')) := by
  rw [StopInfo.check, object_obj, object_obj, Check.field, Check.field, h.lookup rfl, h.lookup rfl]
  rfl

theorem Same.blockStart {type : Text} (h : Same .block ms ms')
    (htype : Json.lookup "type" ms = some (.str type)) :
    BlockStart.ofMembers type ms = BlockStart.ofMembers type ms' := by
  unfold BlockStart.ofMembers
  split
  case isTrue htext =>
    subst htext
    have hread : Json.lookup "text" ms = Json.lookup "text" ms' :=
      h.lookup (by rw [meaning, known, htype]; rfl)
    rw [Check.field, Check.field, hread]
  split
  case isTrue htool =>
    subst htool
    have hid : Json.lookup "id" ms = Json.lookup "id" ms' :=
      h.lookup (by rw [meaning, known, htype]; rfl)
    have hname : Json.lookup "name" ms = Json.lookup "name" ms' :=
      h.lookup (by rw [meaning, known, htype]; rfl)
    rw [Check.field, Check.field, Check.field, Check.field, hid, hname]
  · rfl

theorem Same.blockDelta {type : Text} (h : Same .delta ms ms')
    (htype : Json.lookup "type" ms = some (.str type)) :
    BlockDelta.ofMembers type ms = BlockDelta.ofMembers type ms' := by
  unfold BlockDelta.ofMembers
  split
  case isTrue htext =>
    subst htext
    have hread : Json.lookup "text" ms = Json.lookup "text" ms' :=
      h.lookup (by rw [meaning, known, htype]; rfl)
    rw [Check.field, Check.field, hread]
  split
  case isTrue hinput =>
    subst hinput
    have hread : Json.lookup "partial_json" ms = Json.lookup "partial_json" ms' :=
      h.lookup (by rw [meaning, known, htype]; rfl)
    rw [Check.field, Check.field, hread]
  · rfl

theorem typed_obj (path : List PathStep) (ms : Json.Members) :
    typed path (some (.obj ms)) = (fun type => (type, ms)) <$> Check.field string path ms "type" := rfl

theorem string_cases (path : List PathStep) (v : Option Json) :
    (∃ t, v = some (.str t) ∧ string path v = .accept t) ∨
      (string path v).value = none := by
  cases v with
  | none => exact .inr rfl
  | some v =>
      cases v with
      | str t => exact .inl ⟨t, rfl, rfl⟩
      | _ => exact .inr rfl

/-- Reading what stands beside an index goes on alike in objects that are the same for it. -/
theorem Same.indexed {below : Place} {key : Text}
    {f : Number × Text × Json.Members → Except (List Issue) Event} (h : Same .payload ms ms')
    (hindex : meaning .payload ms "index" = some none)
    (hkey : meaning .payload ms key = some (some below))
    (htyped : ∀ ms, meaning below ms "type" = some none)
    (hf : ∀ index type inner inner', Same below inner inner' →
      Json.lookup "type" inner = some (.str type) → f (index, type, inner) = f (index, type, inner')) :
    ((indexed ms key).toExcept >>= f) = ((indexed ms' key).toExcept >>= f) := by
  have hcount : Check.field count [] ms "index" = Check.field count [] ms' "index" := by
    rw [Check.field, Check.field, h.lookup hindex]
  unfold Event.indexed
  rw [hcount]
  cases h with
  | mk hall =>
      have hread := hall key (some below) hkey
      unfold Check.field at *
      generalize Json.lookup key ms = v, Json.lookup key ms' = v' at hread ⊢
      generalize count ([] ++ [PathStep.key "index"]) (Json.lookup "index" ms') = index
      cases hread with
      | refl => rfl
      | @objects _ inner inner' hsame =>
          have htype : Json.lookup "type" inner = Json.lookup "type" inner' :=
            hsame.lookup (htyped inner)
          rw [typed_obj, typed_obj, Check.field, Check.field, ← htype]
          obtain ⟨value, issues⟩ := index
          rcases string_cases ([] ++ [.key key] ++ [.key "type"]) (Json.lookup "type" inner) with
            ⟨type, hlookup, haccept⟩ | hnone
          · rw [haccept]
            cases value with
            | none => rfl
            | some index =>
                cases issues with
                | nil => exact hf index type inner inner' hsame hlookup
                | cons issue issues => rfl
          · -- Without a type there is nothing to go on with, whatever else the objects hold.
            generalize string _ (Json.lookup "type" inner) = kind at hnone ⊢
            obtain ⟨_, found⟩ := kind
            cases hnone
            cases value <;> rfl

theorem Same.ofMembers {type : Text} (h : Same .payload ms ms')
    (htype : Json.lookup "type" ms = some (.str type)) :
    Event.ofMembers type ms = Event.ofMembers type ms' := by
  unfold Event.ofMembers
  split
  case isTrue hstart =>
    subst hstart
    have hmessage : Check.field Header.check [] ms "message" = Check.field Header.check [] ms' "message" :=
      h.field (by rw [meaning, known, htype]; rfl) (fun _ _ hsame path => hsame.header path) []
    rw [hmessage]
  split
  case isTrue hstart =>
    subst hstart
    refine h.indexed (by rw [meaning, known, htype]; rfl) (by rw [meaning, known, htype]; rfl)
      (fun _ => rfl) fun index type inner inner' hsame hinner => ?_
    dsimp only
    rw [hsame.blockStart hinner]
  split
  case isTrue hdelta =>
    subst hdelta
    refine h.indexed (by rw [meaning, known, htype]; rfl) (by rw [meaning, known, htype]; rfl)
      (fun _ => rfl) fun index type inner inner' hsame hinner => ?_
    dsimp only
    rw [hsame.blockDelta hinner]
  split
  case isTrue hstop =>
    subst hstop
    have hindex : Json.lookup "index" ms = Json.lookup "index" ms' :=
      h.lookup (by rw [meaning, known, htype]; rfl)
    rw [Check.field, Check.field, hindex]
  split
  case isTrue hdelta =>
    subst hdelta
    have hstop : Check.field StopInfo.check [] ms "delta" = Check.field StopInfo.check [] ms' "delta" :=
      h.field (by rw [meaning, known, htype]; rfl) (fun _ _ hsame path => hsame.stopInfo path) []
    have husage : Check.field (optionalOrNull Usage.check) [] ms "usage"
        = Check.field (optionalOrNull Usage.check) [] ms' "usage" :=
      h.field (by rw [meaning, known, htype]; rfl)
        (fun _ _ hsame path => congrArg (fun c => ((c.map some).map some).map Option.join)
          (hsame.usage path)) []
    rw [hstop, husage]
  split
  · rfl
  split
  · rfl
  split
  case isTrue herror =>
    subst herror
    congr 2
    refine h.field (by rw [meaning, known, htype]; rfl) (fun inner inner' hsame path => ?_) []
    have htext : Json.lookup "type" inner = Json.lookup "type" inner' := hsame.lookup rfl
    have hmessage : Json.lookup "message" inner = Json.lookup "message" inner' := hsame.lookup rfl
    rw [object_obj, object_obj, Check.field, Check.field, Check.field, Check.field, htext, hmessage]
  · rfl

/-- Payloads that are the same for the reading are read alike. -/
theorem Same.ofJson (h : Same .payload ms ms') :
    Event.ofJson (.obj ms) = Event.ofJson (.obj ms') := by
  have htype : Json.lookup "type" ms = Json.lookup "type" ms' := h.lookup rfl
  rcases string_cases ([] ++ [.key "type"]) (Json.lookup "type" ms) with ⟨type, hread, -⟩ | hnone
  · rw [ofJson_eq_ofMembers hread, ofJson_eq_ofMembers (htype ▸ hread), h.ofMembers hread]
  · rw [Event.ofJson, Event.ofJson, typed_obj, typed_obj, Check.field, Check.field, ← htype]
    generalize string _ (Json.lookup "type" ms) = kind at hnone ⊢
    obtain ⟨_, found⟩ := kind
    cases hnone
    rfl

end Place

/-- Edits that add unknown members or change the order of members, however many, leave the reading
as it is. -/
theorem ofJson_edit {ms ms' : Json.Members} (h : Relation.ReflTransGen (Place.Edit .payload) ms ms') :
    ofJson (.obj ms) = ofJson (.obj ms') := by
  induction h with
  | refl => rfl
  | tail _ hedit ih => exact ih.trans hedit.same.ofJson

end Event

end ChatRelay
