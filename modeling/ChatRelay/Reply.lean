import ChatRelay.Stream.ToolUse

/-!
# The model's reply

A `Response` is a message of the model, or the part of one that an event adds. A `Draft` is the
message while it is being written: its header, its content so far, and for each open text block
the index under which its deltas arrive and its place in the content. Applying an event gives
the new draft and the response that shows what the event added; an event that does not fit fails
and leaves no trace.
-/

namespace ChatRelay

/-- A block of the content of a message. A block that is not just a text or a tool call is kept as it
was given. -/
inductive Block where
  | text (t : Text)
  | toolUse (tool : ToolUse)
  | other (given : Json)
  deriving DecidableEq

/-- A message of the model or an increment of one. The type of an increment names the event that
produced it; an increment without a type only updates what is known about the message. -/
structure Response where
  id : Text
  type : Field Text
  role : Text
  model : Text
  content : List Block
  stopReason : Field Text
  stopSequence : Field Text
  usage : Usage
  deriving DecidableEq

/-- A text block whose deltas may still arrive: its index and its place in the content. -/
structure OpenText where
  index : Number
  place : Nat
  deriving DecidableEq

/-- A message that is being written. -/
structure Draft where
  started : Bool
  id : Text
  model : Text
  role : Text
  stopReason : Field Text
  stopSequence : Field Text
  usage : Usage
  content : List Block
  openTexts : List OpenText
  deriving DecidableEq

/-- Whether a response ends its message. -/
def Response.isFinal (r : Response) : Bool := r.type = .value "message_stop"

namespace Block

/-- A block with text added at its end; other blocks than text blocks stay as they are. -/
def append (more : Text) : Block → Block
  | .text t => .text (t ++ more)
  | b => b

/-- The text of a text block, else nothing. -/
def textPart : Block → Text
  | .text t => t
  | .toolUse _ => []
  | .other given =>
    if given.get? "type" = some (.str "text") then ((given.get? "text").bind Json.text?).getD [] else []

/-- The tool call of a block. -/
def tool? : Block → Option ToolUse
  | .text _ => none
  | .toolUse tool => some tool
  | .other given =>
    match given.get? "type", given.get? "id", given.get? "name", given.get? "input" with
    | some (.str type), some (.str id), some (.str name), some (.obj input) =>
      if type = "tool_use" then some ⟨id, name, input⟩ else none
    | _, _, _, _ => none

end Block

namespace Block

/-- The block that a value describes, kept as it is if it says more or less than such a block does. -/
def ofJson (given : Json) : Block :=
  match given with
  | .obj [_, _] =>
    match given.get? "type", given.get? "text" with
    | some (.str type), some (.str t) => if type = "text" then .text t else .other given
    | _, _ => .other given
  | .obj [_, _, _, _] => ((other given).tool?.map toolUse).getD (.other given)
  | given => .other given

/-- The members of a list of values, each under its position. -/
def positions (values : List Json) : Json.Members := values.mapIdx fun i v => (Text.ofNat i, v)

/-- The copy of a value as a block, which has the members of the value. There is no copy of `null`. -/
def copy : Json → Except Failure Block
  | .null => .error (.kindFailure "A block must not be null")
  | .bool _ => .ok (.other (.obj []))
  | .num _ => .ok (.other (.obj []))
  | .str s => .ok (.other (.obj (positions (s.map fun u => .str [u]))))
  | .arr items => .ok (.other (.obj (positions items)))
  | .obj ms => .ok (ofJson (.obj ms))

end Block

namespace Draft

/-- The draft before the start of the message. -/
def blank : Draft := 
  ⟨false, [], [], "assistant", .null, .null, ⟨.value (.zero false), .value (.zero false)⟩, [], []⟩

/-- The start of a message, which forgets everything before it. -/
def start (header : Header) : Draft where
  started := true
  id := header.id
  model := header.model
  role := header.role
  stopReason := .null
  stopSequence := .null
  usage := ⟨header.usage.input.above (.value (.zero false)), header.usage.output.above (.value (.zero false))⟩
  content := []
  openTexts := []

/-- The open text block at an index. -/
def openAt? (d : Draft) (index : Number) : Option OpenText := d.openTexts.find? (·.index = index)

/-- Opens a text block. -/
def openText (d : Draft) (index : Number) (text : Text) : Except Violation Draft :=
  if (d.openAt? index).isSome then .error (.blockAlreadyOpen index)
  else .ok { d with
    content := d.content ++ [.text text]
    openTexts := d.openTexts ++ [⟨index, d.content.length⟩] }

/-- Adds text to the open block at an index. -/
def appendText (d : Draft) (index : Number) (text : Text) : Except Violation Draft :=
  match d.openAt? index with
  | none => .error (.textOfClosedBlock index)
  | some block => .ok { d with content := d.content.modify block.place (Block.append text) }

/-- Closes the text block at an index. -/
def closeText (d : Draft) (index : Number) : Except Violation Draft :=
  if (d.openAt? index).isSome then
    .ok { d with openTexts := d.openTexts.filter (·.index ≠ index) }
  else .error (.stopOfClosedBlock index)

/-- Adds finished blocks at the end of the content. -/
def appendBlocks (d : Draft) (blocks : List Block) : Draft :=
  { d with content := d.content ++ blocks }

/-- Takes over what a delta reports about the whole message. A stop reason or sequence that is `null`
leaves the last one as it is, and so does a count that is missing. -/
def applyDelta (d : Draft) (stop : StopInfo) (usage : Option Usage) : Draft :=
  let report := usage.getD ⟨.missing, .missing⟩
  { d with
    stopReason := stop.reason.unlessNull d.stopReason
    stopSequence := stop.sequence.unlessNull d.stopSequence
    usage := ⟨report.input.orElse d.usage.input, report.output.orElse d.usage.output⟩ }

/-- The response that shows the draft with some content. -/
def respond (d : Draft) (type : Field Text) (content : List Block) : Response where
  id := d.id
  type := type
  role := d.role
  model := d.model
  content := content
  stopReason := d.stopReason
  stopSequence := d.stopSequence
  usage := d.usage

/-- The response that shows the whole draft. -/
def build (d : Draft) (type : Field Text) : Response := d.respond type d.content

/-- The draft, if its message has started. -/
def requireStarted (d : Draft) (type : Text) : Except Failure Draft :=
  if d.started then .ok d else .error (.violation (.beforeStart type))

/-- The result of a step on blocks as the result of an event. -/
def lift {α : Type} : Except Violation α → Except Failure α
  | .ok a => .ok a
  | .error v => .error (.violation v)

/-- Applies an event that is not part of a tool block. -/
def applyEvent (d : Draft) (e : Event) : Except Failure (Draft × Response) := do
  match e with
  | .messageStart header =>
    let d := start header
    return (d, d.respond .null [])
  | .blockStart index block =>
    let d ← d.requireStarted e.type
    match block with
    | .text t =>
      let d ← lift (d.openText index t)
      return (d, if t.isEmpty then d.respond .null [] else d.respond (.value e.type) [.text t])
    | block => .error (.unsupported (.block block.type index))
  | .blockDelta index delta =>
    let d ← d.requireStarted e.type
    match delta with
    | .text t =>
      let d ← lift (d.appendText index t)
      return (d, d.respond (.value e.type) [.text t])
    | delta => .error (.unsupported (.delta delta.type index))
  | .blockStop index =>
    let d ← d.requireStarted e.type
    let d ← lift (d.closeText index)
    return (d, d.respond .null [])
  | .messageDelta stop usage =>
    let d ← d.requireStarted e.type
    let d := d.applyDelta stop usage
    return (d, d.respond .null [])
  | .messageStop =>
    let d ← d.requireStarted e.type
    return (d, d.build (.value e.type))
  | .error type message => .error (.vendor type message)
  | .ping => return (d, d.respond .null [])
  | .unknown _ => return (d, d.respond .null [])

/-- Applies what a window amounts to. -/
def apply (d : Draft) : Merged → Except Failure (Draft × Response)
  | .event e => d.applyEvent e
  | .tools a => do
    let d ← d.requireStarted (Merged.tools a).type
    let blocks := a.finished.map Block.toolUse
    let d := d.appendBlocks blocks
    return (d, d.respond (if blocks.isEmpty then .null else .value "tool_use") blocks)

end Draft

end ChatRelay
