import ChatRelay.Failure
import ChatRelay.Json.Plain
import ChatRelay.Prompt.Assembly
import ChatRelay.Request

/-!
# Prompts

A prompt is a list of messages whose content is any JSON value: a text, a list of parts, or
something else that counts as no text. It becomes a conversation: the one system message is split
off, every other message becomes a message of the user or of the assistant, and neighbours with the
same role are folded into one. Images must be base64 data URLs; any other part without a text is an
error.
-/

namespace ChatRelay

/-- A message of a prompt. -/
inductive PromptMessage where
  | system (content : Json)
  | human (content : Json)
  | assistant (content : Json) (calls : List ToolCall)
  | tool (callId : Option Json) (content : Json) (isError : Bool)
  | other (type : Text)

namespace PromptMessage

/-- Whether this is a system message. -/
def isSystem : PromptMessage → Bool
  | .system _ => true
  | _ => false

end PromptMessage

/-! ## Texts -/

namespace Prompt

/-- The text of a part: of a string, the string; of an object, its `text` if that is a string. -/
def partText? : Json → Option Text
  | .str s => some s
  | part => (part.get? "text").bind Json.text?

/-- The text of a content: all texts of its parts in a row. -/
def extractText : Json → Text
  | .str s => s
  | .arr parts => (parts.filterMap partText?).flatten
  | _ => []

/-! ## Images -/

/-- The media type and the data of a base64 data URL. -/
def dataUrl? (url : Text) : Option (Text × Text) :=
  match Text.after? "data:" url with
  | none => none
  | some rest =>
    let mediaType := rest.takeWhile fun u => u ≠ Text.unit ';' && u ≠ Text.unit ','
    match Text.after? ";base64," (rest.drop mediaType.length) with
    | some data => if mediaType.isEmpty || data.isEmpty then none else some (mediaType, data)
    | none => none

/-- The URL of an image part, given directly or in an object; anything else is no URL. -/
def imageUrl (part : Json) : Text :=
  match part.get? "image_url" with
  | some (.str url) => url
  | some image => ((image.get? "url").bind Json.text?).getD []
  | none => []

/-- How much of a URL an error shows. -/
def shownUrlLength : Nat := 32

/-- The block of an image part. -/
def imageBlock (part : Json) : Except Failure RequestBlock :=
  let url := imageUrl part
  match dataUrl? url with
  | some (mediaType, data) => .ok (.image mediaType data)
  | none => .error (.unsupported (.image (url.take shownUrlLength)))

/-! ## Content of the user -/

/-- The name of the type of a part that is not supported, if it has a text. -/
def partType? : Json → Option Text
  | .null => some "object"
  | .bool _ => some "boolean"
  | .num _ => some "number"
  | .str _ => some "string"
  | .arr _ => some Json.missingWord
  | .obj ms => Json.plainOrMissing? (Json.lookup "type" ms)

/-- The failure of a part that is not supported. -/
def unsupportedPart (part : Json) : Failure :=
  match partType? part with
  | some type => .unsupported (.part type)
  | none => .noPlainText

/-- The block of a part. -/
def partBlock (part : Json) : Except Failure RequestBlock :=
  match part with
  | .str s => .ok (.text s)
  | part =>
    if part.get? "type" = some (.str "image_url") then imageBlock part
    else
      match partText? part with
      | some t => .ok (.text t)
      | none => .error (unsupportedPart part)

/-- Whether a block is an image. -/
def isImage : RequestBlock → Bool
  | .image _ _ => true
  | _ => false

/-- The content of a user message: text alone is one text, images keep their place. -/
def userContent : Json → Except Failure Content
  | .arr parts => do
    let blocks ← parts.mapM partBlock
    return if blocks.any isImage then .blocks (blocks.filter (· ≠ .text []))
      else .text (extractText (.arr parts))
  | content => .ok (.text (extractText content))

/-! ## Messages -/

/-- The block of a tool call. -/
def callBlock (call : ToolCall) : Except Failure RequestBlock :=
  if (call.id.map Json.isSaid).getD false then .ok (.toolUse call)
  else
    match Json.plainOrMissing? call.name with
    | some name => .error (.toolCallWithoutId name)
    | none => .error .noPlainText

/-- The content of an assistant message. -/
def assistantContent (content : Json) (calls : List ToolCall) : Except Failure Content :=
  let text := extractText content
  match calls with
  | [] => .ok (.text text)
  | calls => do
    let blocks ← calls.mapM callBlock
    return .blocks ((Content.text text).toBlocks ++ blocks)

/-- The conversation message of a prompt message; a system message has none. -/
def convert? : PromptMessage → Except Failure (Option Message)
  | .system _ => .ok none
  | .human content => do return some ⟨.user, ← userContent content⟩
  | .assistant content calls => do return some ⟨.assistant, ← assistantContent content calls⟩
  | .tool callId content isError =>
    .ok (some ⟨.user, .blocks [.toolResult callId (extractText content) isError]⟩)
  | .other type => .error (.unsupported (.message type))

/-- Adds a message to a conversation; a message with the role of the last one is folded into it. -/
def addMessage (conversation : List Message) (next : Message) : List Message :=
  match conversation.getLast? with
  | some last =>
    if last.role = next.role then
      conversation.dropLast ++
        [⟨last.role, .blocks (last.content.toBlocks ++ next.content.toBlocks)⟩]
    else conversation ++ [next]
  | none => [next]

/-- The conversation of a prompt without its system message. -/
def conversation (prompt : List PromptMessage) : Except Failure (List Message) :=
  prompt.foldlM (fun messages m => do
    match ← convert? m with
    | some next => return addMessage messages next
    | none => return messages) []

/-- The content of a system message. -/
def systemContent? : PromptMessage → Option Json
  | .system content => some content
  | _ => none

/-- The text of the system message, if it has any. -/
def systemText (prompt : List PromptMessage) : Option Text :=
  (prompt.findSome? systemContent?).bind fun content => nonEmpty? (extractText content)

/-- The system prompt and the conversation. -/
def toConversation (prompt : List PromptMessage) : Except Failure (Option Text × List Message) :=
  if 1 < (prompt.filter PromptMessage.isSystem).length then .error .severalSystemMessages
  else (conversation prompt).map fun messages => (systemText prompt, messages)

end Prompt

end ChatRelay
