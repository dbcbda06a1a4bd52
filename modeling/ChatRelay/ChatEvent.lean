import ChatRelay.Json.Plain
import ChatRelay.Reply.Format
import ChatRelay.Stream.Sse

/-!
# Events for the client

A chat turn is shown to the client as a sequence of events: the texts and tool calls as they arrive
and, once, how the turn ended. Events travel as frames of server-sent events, the type as the name
and everything else as the payload.
-/

namespace ChatRelay

/-- What travels of an event: its type, which names the frame, and its payload. -/
structure Frame where
  type : Option Json
  payload : Json
  deriving DecidableEq

/-- The frame of an event that is given as a value. Nothing is read from `null`. -/
def Frame.ofEvent : Json → Except Failure Frame
  | .null => .error (.kindFailure "Cannot read properties of null (reading 'type')")
  | .obj ms => .ok ⟨Json.lookup "type" ms, .obj (Json.without "type" ms)⟩
  | .str s => .ok ⟨none, .obj (Block.positions (s.map fun u => .str [u]))⟩
  | .arr items => .ok ⟨none, .obj (Block.positions items)⟩
  | _ => .ok ⟨none, .obj []⟩

/-- The text of a frame, unless the type has none. -/
def Frame.text? (f : Frame) : Option Text :=
  (Json.plainOrMissing? f.type).map fun name => Sse.frame name f.payload

/-- Whether a frame is for debugging only. -/
def Frame.isDebug (f : Frame) : Bool := f.type = some (.str "debug")

/-- How a turn ended. -/
inductive FinishReason where
  | stop
  | error
  | aborted
  | incomplete
  deriving DecidableEq

/-- An event for the client. -/
inductive ChatEvent where
  | session (threadId : Text)
  | token (text : Text)
  | toolUse (tool : ToolUse)
  | usage (u : Usage)
  | debug (message : Text) (data : Option Json)
  | error (message : Text) (code : Option Text)
  | done (reason : FinishReason) (stopReason : Option Text)
  deriving DecidableEq

/-- The name of a finish reason. -/
def FinishReason.name : FinishReason → Text
  | .stop => "stop"
  | .error => "error"
  | .aborted => "aborted"
  | .incomplete => "incomplete"

namespace ChatEvent

/-- The name of the kind of an event. -/
def type : ChatEvent → Text
  | .session _ => "session"
  | .token _ => "token"
  | .toolUse _ => "tool_use"
  | .usage _ => "usage"
  | .debug _ _ => "debug"
  | .error _ _ => "error"
  | .done _ _ => "done"

/-- The members of an event apart from its type. -/
def fields : ChatEvent → List (String × Option Json)
  | .session threadId => [("threadId", some (.str threadId))]
  | .token t => [("text", some (.str t))]
  | .toolUse tool =>
    [("id", some (.str tool.id)), ("name", some (.str tool.name)), ("input", some (.obj tool.input))]
  | .usage u =>
    [("inputTokens", u.input.toJson? .num), ("outputTokens", u.output.toJson? .num)]
  | .debug message data => [("message", some (.str message)), ("data", data)]
  | .error message code => [("message", some (.str message)), ("code", code.map .str)]
  | .done reason stopReason =>
    [("finishReason", some (.str reason.name)), ("stopReason", stopReason.map .str)]

/-- What a frame carries of an event. -/
def payload (e : ChatEvent) : Json := .object e.fields

/-- An event as JSON. -/
def toJson (e : ChatEvent) : Json := .object (("type", some (.str e.type)) :: e.fields)

/-- An event as it travels. -/
def toFrame (e : ChatEvent) : Frame := ⟨some (.str e.type), e.payload⟩

/-- The event of a block. -/
def ofBlock (b : Block) : ChatEvent :=
  match b.tool? with
  | some tool => .toolUse tool
  | none => .token b.textPart

/-- The events of a response that does not end the message. -/
def ofIncrement (debugging : Bool) (r : Response) : List ChatEvent :=
  r.content.map ofBlock ++
    if debugging then [.debug "Stream chunk" (some (.object [("type", r.type.toJson? .str)]))]
    else []

end ChatEvent

end ChatRelay
