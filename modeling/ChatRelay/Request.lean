import ChatRelay.Options

/-!
# Requests to the model

A request carries a conversation, in which user and assistant take turns, and the options. Empty
values that mean the same as nothing are left out of it: an empty system prompt, an empty list of
stop sequences, an empty list of tools.
-/

namespace ChatRelay

/-- A call of a tool as a conversation tells it. -/
structure ToolCall where
  id : Option Json
  name : Option Json
  arguments : Option Json
  deriving DecidableEq

/-- A block of a message that is sent. -/
inductive RequestBlock where
  | text (t : Text)
  | image (mediaType data : Text)
  | toolUse (call : ToolCall)
  | toolResult (toolUseId : Option Json) (content : Text) (isError : Bool)
  deriving DecidableEq

/-- The content of a message: a text or a list of blocks. -/
inductive Content where
  | text (t : Text)
  | blocks (bs : List RequestBlock)
  deriving DecidableEq

/-- Who speaks. -/
inductive Role where
  | user
  | assistant
  deriving DecidableEq

/-- A message of a conversation. -/
structure Message where
  role : Role
  content : Content
  deriving DecidableEq

/-- A request: the members that are written, each as it was given. -/
structure Request where
  version : Option Json
  messages : Option Json
  maxTokens : Option Json
  stream : Option Json
  system : Option Json
  temperature : Option Json
  topK : Option Json
  topP : Option Json
  stopSequences : Option Json
  tools : Option Json
  deriving DecidableEq

namespace Content

/-- The content as blocks; an empty text is no block at all. -/
def toBlocks : Content → List RequestBlock
  | .text [] => []
  | .text (u :: r) => [.text (u :: r)]
  | .blocks bs => bs

end Content

/-! ## Writing -/

/-- A call of a tool as a block. -/
def ToolCall.toJson (call : ToolCall) : Json :=
  .object [("type", some (.str "tool_use")), ("id", call.id), ("name", call.name),
    ("input", call.arguments)]

/-- A block as JSON. -/
def RequestBlock.toJson : RequestBlock → Json
  | .text t => .object [("type", some (.str "text")), ("text", some (.str t))]
  | .image mediaType data =>
    .object [("type", some (.str "image")), ("source", some (.object [("type", some (.str "base64")),
      ("media_type", some (.str mediaType)), ("data", some (.str data))]))]
  | .toolUse call => call.toJson
  | .toolResult toolUseId content isError =>
    .object [("type", some (.str "tool_result")), ("tool_use_id", toolUseId),
      ("content", some (.str content)), ("is_error", if isError then some (.bool true) else none)]

/-- The content of a message as JSON. -/
def Content.toJson : Content → Json
  | .text t => .str t
  | .blocks bs => .arr (bs.map RequestBlock.toJson)

/-- The name of a role. -/
def Role.name : Role → Text
  | .user => "user"
  | .assistant => "assistant"

/-- A message as JSON. -/
def Message.toJson (m : Message) : Json :=
  .object [("role", some (.str m.role.name)), ("content", some m.content.toJson)]

/-- A conversation as JSON. -/
def Message.listToJson (messages : List Message) : Json := .arr (messages.map Message.toJson)

/-- A list that is written only if it is not empty. -/
def listToJson? {α : Type} (toJson : α → Json) : List α → Option Json
  | [] => none
  | x :: xs => some (.arr ((x :: xs).map toJson))

namespace Request

/-- The request for a conversation with given options. A system prompt that says nothing is left
out. -/
def build (messages : Option Json) (options : Options) (system stream : Option Json) : Request where
  version := options.version.json?
  messages := messages
  maxTokens := options.maxTokens.json?
  stream := stream
  system := system.filter Json.isSaid
  temperature := options.temperature.json?
  topK := options.topK.json?
  topP := options.topP.json?
  stopSequences := options.stopSequences.bind (listToJson? id)
  tools := options.tools.bind (listToJson? Tool.definition)

/-- A request as JSON. -/
def toJson (r : Request) : Json :=
  .object [("anthropic_version", r.version), ("messages", r.messages), ("max_tokens", r.maxTokens),
    ("stream", r.stream), ("system", r.system), ("temperature", r.temperature), ("top_k", r.topK),
    ("top_p", r.topP), ("stop_sequences", r.stopSequences), ("tools", r.tools)]

end Request

end ChatRelay
