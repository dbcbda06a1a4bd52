import ChatRelay.Event.Format
import ChatRelay.Reply

/-!
# Responses as JSON

The written form of a response has its members in a fixed order; what is not known yet is `null`.
`Response.check` reads the whole answer of a call that does not stream: members that the relay does
not know are dropped, and a missing stop sequence counts as `null`.
-/

namespace ChatRelay

/-- A tool call as JSON. -/
def ToolUse.toJson (tool : ToolUse) : Json :=
  .object [("type", some (.str "tool_use")), ("id", some (.str tool.id)),
    ("name", some (.str tool.name)), ("input", some (.obj tool.input))]

/-- A block as JSON. -/
def Block.toJson : Block → Json
  | .text t => .object [("type", some (.str "text")), ("text", some (.str t))]
  | .toolUse tool => tool.toJson
  | .other given => given

/-- A response as JSON. -/
def Response.toJson (r : Response) : Json :=
  .object [("id", some (.str r.id)), ("type", r.type.toJson? .str), ("role", some (.str r.role)),
    ("model", some (.str r.model)), ("content", some (.arr (r.content.map Block.toJson))),
    ("stop_reason", r.stopReason.toJson? .str),
    ("stop_sequence", r.stopSequence.toJson? .str), ("usage", some r.usage.toJson)]

/-! ## Reading -/

open Check

/-- The types of blocks that an answer may hold. -/
def Block.types : List Text := ["text", "tool_use"]

/-- A block; its type decides what else is read. -/
def Block.check : Check Block := object fun path ms =>
  match Json.lookup "type" ms with
  | some (.str type) =>
    if type = "text" then Block.text <$> field string path ms "text"
    else if type = "tool_use" then
      (fun id name input => .toolUse ⟨id, name, input⟩) <$> field string path ms "id"
        <*> field string path ms "name" <*> field record path ms "input"
    else .reject ⟨path ++ [.key "type"], .unknownVariant Block.types⟩
  | _ => .reject ⟨path ++ [.key "type"], .unknownVariant Block.types⟩

/-- Token counts, both of them present. -/
def Usage.checkWhole : Check Usage := object fun path ms =>
  (fun input output => Usage.mk (.value input) (.value output))
    <$> field count path ms "input_tokens" <*> field count path ms "output_tokens"

/-- A whole answer. -/
def Response.check : Check Response := object fun path ms =>
  Response.mk <$> field string path ms "id" <*> (Field.value <$> field string path ms "type")
    <*> field string path ms "role" <*> field string path ms "model"
    <*> field (array Block.check) path ms "content"
    <*> (Field.orNull <$> field (nullable string) path ms "stop_reason")
    <*> (Field.orNull <$> field (optionalOrNull string) path ms "stop_sequence")
    <*> field Usage.checkWhole path ms "usage"

end ChatRelay
