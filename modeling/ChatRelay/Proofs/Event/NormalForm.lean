import ChatRelay.Failure
import ChatRelay.Proofs.Event.Reading
import ChatRelay.Proofs.Event.Unread
import ChatRelay.Proofs.Json.RoundTrip

/-!
# Events as the normal form of payloads

A payload is read as one event, or refused because it is no JSON or no event (`Event.Refuses`). The
event of a payload, written as JSON again, is a payload of that event: the defaults that reading fills
in are read as themselves, and nothing that is told is lost. Of the JSON only the numbers matter,
since an event that is written is settled (`Event.settled_toJson`). And whatever a payload holds
besides, and in whatever order, it is read as the same event (`Event.ofJson_edit`).

`Event.parse_normal` is the three facts together.
-/

namespace ChatRelay

open Json (Settled)

/-! ## Written events -/

/-- An object with fields in order is settled, whichever of them are left out. -/
theorem Json.settled_object {fields : List (String × Option Json)} (keys : List Text)
    (hfields : fields.map (fun f => Text.ofString f.1) = keys)
    (hkeys : keys.Pairwise fun k k' => k ≠ k' ∧ precedes k' k = false)
    (hvalues : ∀ f ∈ fields, ∀ v ∈ f.2, Settled v) : Settled (.object fields) := by
  subst hfields
  refine .obj ?_ fun m hm => ?_
  · refine List.Pairwise.filterMap _ (fun f f' hbefore m hm m' hm' => ?_) (List.pairwise_map.mp hkeys)
    obtain ⟨v, -, rfl⟩ := Option.map_eq_some_iff.mp hm
    obtain ⟨v', -, rfl⟩ := Option.map_eq_some_iff.mp hm'
    exact hbefore
  · obtain ⟨f, hf, hv⟩ := List.mem_filterMap.mp hm
    obtain ⟨v, hvalue, rfl⟩ := Option.map_eq_some_iff.mp hv
    exact hvalues f hf v hvalue

theorem Field.settled_toJson? {α : Type} {make : α → Json} (hmake : ∀ a, Settled (make a))
    (x : Field α) : ∀ v ∈ x.toJson? make, Settled v := by
  cases x with
  | missing => nofun
  | null =>
      rintro _ ⟨⟩
      exact .null
  | value a =>
      rintro _ ⟨⟩
      exact hmake a

open Json (settled_object)

theorem Usage.settled_toJson (u : Usage) : Settled u.toJson := by
  refine settled_object ["input_tokens", "output_tokens"] rfl (by decide) ?_
  simp only [List.forall_mem_cons, List.not_mem_nil, false_imp_iff, implies_true, and_true]
  exact ⟨u.input.settled_toJson? fun _ => .num, u.output.settled_toJson? fun _ => .num⟩

theorem BlockStart.settled_toJson (b : BlockStart) : Settled b.toJson := by
  cases b with
  | text t => exact settled_object ["type", "text"] rfl (by decide) (by simp [Settled.str])
  | toolUse id name =>
      exact settled_object ["type", "id", "name"] rfl (by decide) (by simp [Settled.str])
  | unsupported type =>
      exact settled_object ["type", "declaredType"] rfl (by decide) (by simp [Settled.str])

theorem BlockDelta.settled_toJson (d : BlockDelta) : Settled d.toJson := by
  cases d with
  | text t => exact settled_object ["type", "text"] rfl (by decide) (by simp [Settled.str])
  | inputJson t =>
      exact settled_object ["type", "partial_json"] rfl (by decide) (by simp [Settled.str])
  | unsupported type =>
      exact settled_object ["type", "declaredType"] rfl (by decide) (by simp [Settled.str])

namespace Event

theorem settled_toJson (e : Event) : Settled e.toJson := by
  cases e with
  | messageStart h =>
      have hmessage : Settled (.object [("id", some (.str h.id)), ("model", some (.str h.model)),
          ("role", some (.str h.role)), ("usage", some h.usage.toJson)]) :=
        settled_object ["id", "model", "role", "usage"] rfl (by decide)
          (by simp [Settled.str, h.usage.settled_toJson])
      exact settled_object ["type", "message"] rfl (by decide) (by simp [fields, Settled.str, hmessage])
  | blockStart index block =>
      exact settled_object ["type", "index", "content_block"] rfl (by decide)
        (by simp [fields, Settled.str, Settled.num, block.settled_toJson])
  | blockDelta index delta =>
      exact settled_object ["type", "index", "delta"] rfl (by decide)
        (by simp [fields, Settled.str, Settled.num, delta.settled_toJson])
  | blockStop index =>
      exact settled_object ["type", "index"] rfl (by decide)
        (by simp [fields, Settled.str, Settled.num])
  | messageDelta stop usage =>
      have hdelta : Settled (.object [("stop_reason", stop.reason.toJson? .str),
          ("stop_sequence", stop.sequence.toJson? .str)]) := by
        refine settled_object ["stop_reason", "stop_sequence"] rfl (by decide) ?_
        simp only [List.forall_mem_cons, List.not_mem_nil, false_imp_iff, implies_true, and_true]
        exact ⟨stop.reason.settled_toJson? fun _ => .str, stop.sequence.settled_toJson? fun _ => .str⟩
      have husage : Settled ((usage.map Usage.toJson).getD .null) := by
        cases usage with
        | none => exact .null
        | some u => exact u.settled_toJson
      exact settled_object ["type", "delta", "usage"] rfl (by decide)
        (by simp [fields, Settled.str, hdelta, husage])
  | messageStop => exact settled_object ["type"] rfl (by decide) (by simp [fields, Settled.str])
  | ping => exact settled_object ["type"] rfl (by decide) (by simp [fields, Settled.str])
  | error type message =>
      have herror : Settled (.object [("type", some (.str type)), ("message", some (.str message))]) :=
        settled_object ["type", "message"] rfl (by decide) (by simp [Settled.str])
      exact settled_object ["type", "error"] rfl (by decide) (by simp [fields, Settled.str, herror])
  | unknown type =>
      exact settled_object ["type", "eventType"] rfl (by decide) (by simp [fields, Settled.str])

/-! ## Reading -/

/-- A payload is refused because it is no JSON, or none that describes an event. -/
inductive Refuses (p : Text) : Violation → Prop
  | malformed : Json.parse? p = none → Refuses p (.malformedPayload p)
  | unknownShape {payload : Json} {issues : List Issue} : Json.parse? p = some payload →
      (∀ ms e, payload = .obj ms → ¬ Describes ms e) → Refuses p (.unknownShape p issues)

theorem parse_cases (p : Text) :
    (∃ e, parse p = .ok e ∧ Writes p e) ∨ ∃ v, parse p = .error v ∧ Refuses p v := by
  cases hparse : parse p with
  | ok e => exact .inl ⟨e, rfl, parse_eq_ok_iff_writes.mp hparse⟩
  | error v =>
      refine .inr ⟨v, rfl, ?_⟩
      rw [parse] at hparse
      cases hjson : Json.parse? p with
      | none =>
          simp only [hjson, Except.error.injEq] at hparse
          exact hparse ▸ .malformed hjson
      | some payload =>
          simp only [hjson] at hparse
          cases hread : ofJson payload with
          | ok e =>
              rw [hread] at hparse
              cases hparse
          | error issues =>
              rw [hread] at hparse
              cases hparse
              refine .unknownShape hjson fun ms e hobject hdescribes => ?_
              rw [hobject, ofJson_of_describes hdescribes] at hread
              cases hread

theorem Refuses.name {p : Text} {v : Violation} (h : Refuses p v) :
    (Failure.violation v).name = "StreamProtocolError" := by
  cases h <;> rfl

/-- The event of a payload is the event of the payload that it is written as. -/
theorem parse_payload {p : Text} {e : Event} (h : parse p = .ok e) (hknown : e.isKnown = true)
    (hnumbers : Json.AllNumbers Json.ReadsBack e.toJson) : parse e.payload = .ok e := by
  obtain ⟨ms, -, hdescribes⟩ := parse_eq_ok_iff_writes.mp h
  have hparse := Json.parse?_render e.settled_toJson hnumbers
  exact parse_of_writes (writes_render (hdescribes.sendable hknown) hparse)

theorem parse_edit {p p' : Text} {ms ms' : Json.Members} (hp : Json.parse? p = some (.obj ms))
    (hp' : Json.parse? p' = some (.obj ms'))
    (hedit : Relation.ReflTransGen (Place.Edit .payload) ms ms') (e : Event) :
    parse p = .ok e ↔ parse p' = .ok e := by
  have hread := ofJson_edit hedit
  simp only [parse_eq_ok, hp, hp', Option.some.injEq, Json.obj.injEq, exists_eq_left', hread]

/-- Reading payloads is a normal form: it gives an event or refuses the payload, the event written
again is read as itself, and what a payload holds besides does not matter. -/
theorem parse_normal :
    (∀ p, (∃ e, parse p = .ok e ∧ Writes p e) ∨
      ∃ v, parse p = .error v ∧ Refuses p v ∧ (Failure.violation v).name = "StreamProtocolError") ∧
    (∀ p e, parse p = .ok e → e.isKnown = true → Json.AllNumbers Json.ReadsBack e.toJson →
      parse e.payload = .ok e) ∧
    (∀ p p' ms ms', Json.parse? p = some (.obj ms) → Json.parse? p' = some (.obj ms') →
      Relation.ReflTransGen (Place.Edit .payload) ms ms' → ∀ e, parse p = .ok e ↔ parse p' = .ok e) := by
  refine ⟨fun p => ?_, fun p e => parse_payload, fun p p' ms ms' => parse_edit⟩
  rcases parse_cases p with hread | ⟨v, hread, hrefuses⟩
  · exact .inl hread
  · exact .inr ⟨v, hread, hrefuses, hrefuses.name⟩

/-- A piece of text. -/
def greeting : Event := .blockDelta (Number.ofNat 1) (.text "Hi")

/-- The members of its payload. -/
def greetingMembers : Json.Members :=
  [("type", .str "content_block_delta"), ("index", Json.ofNat 1),
    ("delta", .obj [("type", .str "text_delta"), ("text", .str "Hi")])]

/-- The same members in another order, with unknown ones among them. -/
def paddedMembers : Json.Members :=
  [("7", .null),
    ("delta", .obj [("text", .str "Hi"), ("extra", .arr [.bool true]), ("type", .str "text_delta")]),
    ("index", Json.ofNat 1), ("type", .str "content_block_delta")]

theorem edits_paddedMembers :
    Relation.ReflTransGen (Place.Edit .payload) greetingMembers paddedMembers := by
  have hturn : Place.Edit .delta [("type", .str "text_delta"), ("text", .str "Hi")]
      [("text", .str "Hi"), ("type", .str "text_delta")] :=
    .reorder (List.reverse_perm _).symm (by decide)
  have hextra : Place.Edit .delta [("text", .str "Hi"), ("type", .str "text_delta")]
      [("text", .str "Hi"), ("extra", .arr [.bool true]), ("type", .str "text_delta")] :=
    @Place.Edit.add .delta [("text", .str "Hi")] _ _ _ rfl
  have hinside {inner inner' : Json.Members} (h : Place.Edit .delta inner inner') :=
    @Place.Edit.inside .payload .delta [("type", .str "content_block_delta"), ("index", Json.ofNat 1)]
      [] inner inner' "delta" rfl h
  have hseven := @Place.Edit.add .payload [] paddedMembers.tail "7" .null rfl
  exact (((Relation.ReflTransGen.single (hinside hturn)).tail (hinside hextra)).tail
    (.reorder (List.reverse_perm _).symm (by decide))).tail hseven

theorem readsBack_greeting : Json.AllNumbers Json.ReadsBack greeting.toJson := by
  have hindex : Json.ReadsBack (Number.ofNat 1) := by decide +kernel
  simp [greeting, toJson, fields, BlockDelta.toJson, Json.object, hindex]

theorem parse_normal_padded :
    parse greeting.payload = .ok greeting ∧
      parse (Json.obj paddedMembers).render = .ok greeting := by
  have hread : parse greeting.payload = .ok greeting :=
    parse_normal.2.1 greeting.payload greeting (by decide +kernel) rfl readsBack_greeting
  exact ⟨hread, (parse_normal.2.2 _ _ greetingMembers paddedMembers (by decide +kernel)
    (by decide +kernel) edits_paddedMembers greeting).mp hread⟩

end Event

end ChatRelay
