import ChatRelay.Event.Basic
import ChatRelay.Json.Reader

/-!
# Events as JSON

`Event.parse` reads the payload of a frame. Only the shape is checked, and members that the relay
does not know are skipped. The `type` member decides what else is read: a payload whose type is
unknown is an unknown event whatever else it holds, and the same goes for the kinds of blocks and
deltas. Issues inside of a block or delta are reported with paths that begin there.
`Event.toJson` writes an event.
-/

namespace ChatRelay

open Check

/-- Token counts, either of them optional. -/
def Usage.check : Check Usage := object fun path ms =>
  (fun input output => Usage.mk (.ofOption input) (.ofOption output))
    <$> field (optional count) path ms "input_tokens"
    <*> field (optional count) path ms "output_tokens"

/-- The message of a start event. -/
def Header.check : Check Header := object fun path ms =>
  Header.mk <$> field string path ms "id" <*> field string path ms "model"
    <*> field string path ms "role"
    <*> ((·.getD ⟨.missing, .missing⟩) <$> field (optional Usage.check) path ms "usage")

/-- Why a message ended. -/
def StopInfo.check : Check StopInfo := object fun path ms =>
  (fun reason sequence => StopInfo.mk (.orNull reason) (.orNull sequence))
    <$> field (optionalOrNull string) path ms "stop_reason"
    <*> field (optionalOrNull string) path ms "stop_sequence"

/-- An object with a type; gives the type and all members. -/
def typed : Check (Text × Json.Members) := object fun path ms =>
  (fun type => (type, ms)) <$> field string path ms "type"

/-- The start of a block of the given type, read from its members. -/
def BlockStart.ofMembers (type : Text) (ms : Json.Members) : Checked BlockStart :=
  if type = "text" then
    (fun text => .text (text.getD [])) <$> field (optional string) [] ms "text"
  else if type = "tool_use" then
    BlockStart.toolUse <$> field nonEmptyString [] ms "id" <*> field nonEmptyString [] ms "name"
  else .accept (.unsupported type)

/-- A delta of the given type, read from its members. -/
def BlockDelta.ofMembers (type : Text) (ms : Json.Members) : Checked BlockDelta :=
  if type = "text_delta" then BlockDelta.text <$> field string [] ms "text"
  else if type = "input_json_delta" then BlockDelta.inputJson <$> field string [] ms "partial_json"
  else .accept (.unsupported type)

namespace Event

/-- A block event: its index and the typed object that it carries under `key`. -/
def indexed (ms : Json.Members) (key : Text) : Checked (Number × Text × Json.Members) :=
  Prod.mk <$> field count [] ms "index" <*> field typed [] ms key

/-- The event of the given type, read from the members of the payload. -/
def ofMembers (type : Text) (ms : Json.Members) : Except (List Issue) Event :=
  if type = "message_start" then
    (Event.messageStart <$> field Header.check [] ms "message").toExcept
  else if type = "content_block_start" then do
    let (index, kind, block) ← (indexed ms "content_block").toExcept
    let block ← (BlockStart.ofMembers kind block).toExcept
    return .blockStart index block
  else if type = "content_block_delta" then do
    let (index, kind, delta) ← (indexed ms "delta").toExcept
    let delta ← (BlockDelta.ofMembers kind delta).toExcept
    return .blockDelta index delta
  else if type = "content_block_stop" then
    (Event.blockStop <$> field count [] ms "index").toExcept
  else if type = "message_delta" then
    (Event.messageDelta <$> field StopInfo.check [] ms "delta"
      <*> field (optionalOrNull Usage.check) [] ms "usage").toExcept
  else if type = "message_stop" then .ok .messageStop
  else if type = "ping" then .ok .ping
  else if type = "error" then
    ((fun (type, message) => Event.error type message) <$>
      field (object fun path ms =>
        Prod.mk <$> field string path ms "type" <*> field string path ms "message") [] ms "error").toExcept
  else .ok (.unknown type)

/-- The event that a JSON value describes. -/
def ofJson (payload : Json) : Except (List Issue) Event := do
  let (type, ms) ← (typed [] (some payload)).toExcept
  ofMembers type ms

/-- The event of a payload. -/
def parse (data : Text) : Except Violation Event :=
  match Json.parse? data with
  | none => .error (.malformedPayload data)
  | some payload =>
    match ofJson payload with
    | .ok event => .ok event
    | .error issues => .error (.unknownShape data issues)

end Event

/-! ## Writing -/

/-- Token counts as JSON. -/
def Usage.toJson (u : Usage) : Json :=
  .object [("input_tokens", u.input.toJson? .num), ("output_tokens", u.output.toJson? .num)]

/-- The start of a block as JSON. -/
def BlockStart.toJson : BlockStart → Json
  | .text t => .object [("type", some (.str "text")), ("text", some (.str t))]
  | .toolUse id name =>
    .object [("type", some (.str "tool_use")), ("id", some (.str id)), ("name", some (.str name))]
  | .unsupported type =>
    .object [("type", some (.str "unsupported")), ("declaredType", some (.str type))]

/-- A delta as JSON. -/
def BlockDelta.toJson : BlockDelta → Json
  | .text t => .object [("type", some (.str "text_delta")), ("text", some (.str t))]
  | .inputJson fragment =>
    .object [("type", some (.str "input_json_delta")), ("partial_json", some (.str fragment))]
  | .unsupported type =>
    .object [("type", some (.str "unsupported")), ("declaredType", some (.str type))]

/-- The members of an event apart from its type. -/
def Event.fields : Event → List (String × Option Json)
  | .messageStart h =>
    [("message", some (.object [("id", some (.str h.id)), ("model", some (.str h.model)),
      ("role", some (.str h.role)), ("usage", some h.usage.toJson)]))]
  | .blockStart index block =>
    [("index", some (.num index)), ("content_block", some block.toJson)]
  | .blockDelta index delta => [("index", some (.num index)), ("delta", some delta.toJson)]
  | .blockStop index => [("index", some (.num index))]
  | .messageDelta stop usage =>
    [("delta", some (.object [("stop_reason", stop.reason.toJson? .str),
      ("stop_sequence", stop.sequence.toJson? .str)])),
      ("usage", some ((usage.map Usage.toJson).getD .null))]
  | .messageStop => []
  | .ping => []
  | .error type message =>
    [("error", some (.object [("type", some (.str type)), ("message", some (.str message))]))]
  | .unknown type => [("eventType", some (.str type))]

/-- An event as JSON. -/
def Event.toJson (e : Event) : Json := .object (("type", some (.str e.type)) :: e.fields)

end ChatRelay
