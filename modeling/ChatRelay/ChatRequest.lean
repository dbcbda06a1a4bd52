import ChatRelay.Failure
import ChatRelay.Request

/-!
# Requests of a client

What a client asks for in one turn: text, results of tools that the model called, or both, on a
thread of its own choice or a new one. `ChatRequest.check` accepts a body only if it says
something: an input that is not blank or at least one tool result.
-/

namespace ChatRelay

/-- What a tool call that the model made has led to. -/
structure ToolResult where
  toolUseId : Text
  content : Text
  isError : Option Bool
  deriving DecidableEq

/-- A request of a client. -/
structure ChatRequest where
  input : Option Text := none
  toolResults : Option (List ToolResult) := none
  threadId : Option Text := none
  system : Option Text := none
  model : Option Text := none
  metadata : Option Json.Members := none
  deriving DecidableEq

namespace ToolResult

open Check

/-- A tool result. -/
def check : Check ToolResult := object fun path ms =>
  ToolResult.mk <$> field nonEmptyString path ms "toolUseId" <*> field string path ms "content"
    <*> field (optional boolean) path ms "isError"

/-- A tool result as JSON. -/
def toJson (r : ToolResult) : Json :=
  .object [("toolUseId", some (.str r.toolUseId)), ("content", some (.str r.content)),
    ("isError", r.isError.map .bool)]

/-- The block that tells the model. -/
def toBlock (r : ToolResult) : RequestBlock :=
  .toolResult (some (.str r.toolUseId)) r.content (r.isError = some true)

end ToolResult

namespace ChatRequest

open Check

/-- Whether a request says anything. -/
def saysSomething (r : ChatRequest) : Bool :=
  (r.input.bind Text.trimmed?).isSome || !(r.toolResults.getD []).isEmpty

/-- The complaint about a request that says nothing. -/
def inputRequired : Text := "Either input or toolResults is required"

/-- A request of a client. -/
def check : Check ChatRequest := fun path found =>
  let fields : Check ChatRequest := object fun path ms =>
    ChatRequest.mk <$> field (optional string) path ms "input"
      <*> field (optional (array ToolResult.check)) path ms "toolResults"
      <*> field (optional string) path ms "threadId"
      <*> field (optional string) path ms "system"
      <*> field (optional nonEmptyString) path ms "model"
      <*> field (optional record) path ms "metadata"
  (fields path found).require saysSomething ⟨path ++ [.key "input"], .unmet inputRequired⟩

/-- The body of a request; there may be none at all. -/
def read (body : Option Json) : Except (List Issue) ChatRequest := (check [] body).toExcept

/-- A request as JSON. -/
def toJson (r : ChatRequest) : Json :=
  .object [("input", r.input.map .str),
    ("toolResults", r.toolResults.map fun xs => .arr (xs.map ToolResult.toJson)),
    ("threadId", r.threadId.map .str), ("system", r.system.map .str), ("model", r.model.map .str),
    ("metadata", r.metadata.map .obj)]

/-- The thread that a request names, without white space around the name; a blank name is none. -/
def thread? (r : ChatRequest) : Option Text := r.threadId.bind Text.trimmed?

/-- The message of the user: the tool results and behind them the text. Text alone stays a text. -/
def userMessage (r : ChatRequest) : Except Failure Message :=
  let text := r.input.bind Text.trimmed?
  match (r.toolResults.getD []).map ToolResult.toBlock, text with
  | [], none => .error .missingInput
  | [], some t => .ok ⟨.user, .text t⟩
  | b :: bs, text => .ok ⟨.user, .blocks (b :: bs ++ (text.map RequestBlock.text).toList)⟩

end ChatRequest

end ChatRelay
