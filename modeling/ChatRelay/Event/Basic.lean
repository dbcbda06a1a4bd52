import ChatRelay.Failure
import ChatRelay.Json.Field

/-!
# Events of a model's stream

The events that the endpoint sends while it writes one message. A block of the message has an index
and lives from its start to its stop; deltas between them carry its content. Blocks and deltas of a
kind that the relay does not know keep the name of their kind, and so do unknown events.
-/

namespace ChatRelay

/-- Token counts. An event may leave out either of them; those of a message are both known once it
has started. -/
structure Usage where
  input : Field Number
  output : Field Number
  deriving DecidableEq

/-- What the start of a message says about it. -/
structure Header where
  id : Text
  model : Text
  role : Text
  usage : Usage
  deriving DecidableEq

/-- What the start of a block says about it. -/
inductive BlockStart where
  | text (text : Text)
  | toolUse (id name : Text)
  | unsupported (type : Text)
  deriving DecidableEq

/-- A piece of the content of a block. -/
inductive BlockDelta where
  | text (text : Text)
  | inputJson (fragment : Text)
  | unsupported (type : Text)
  deriving DecidableEq

/-- Why a message ended, as far as it is known. -/
structure StopInfo where
  reason : Field Text
  sequence : Field Text
  deriving DecidableEq

/-- An event of the stream. -/
inductive Event where
  | messageStart (header : Header)
  | blockStart (index : Number) (block : BlockStart)
  | blockDelta (index : Number) (delta : BlockDelta)
  | blockStop (index : Number)
  | messageDelta (stop : StopInfo) (usage : Option Usage)
  | messageStop
  | ping
  | error (type message : Text)
  | unknown (type : Text)
  deriving DecidableEq

/-- The name of the kind of a block. -/
def BlockStart.type : BlockStart → Text
  | .text _ => "text"
  | .toolUse _ _ => "tool_use"
  | .unsupported type => type

/-- The name of the kind of a delta. -/
def BlockDelta.type : BlockDelta → Text
  | .text _ => "text_delta"
  | .inputJson _ => "input_json_delta"
  | .unsupported type => type

namespace Event

/-- The name of the kind of an event. -/
def type : Event → Text
  | .messageStart _ => "message_start"
  | .blockStart _ _ => "content_block_start"
  | .blockDelta _ _ => "content_block_delta"
  | .blockStop _ => "content_block_stop"
  | .messageDelta _ _ => "message_delta"
  | .messageStop => "message_stop"
  | .ping => "ping"
  | .error _ _ => "error"
  | .unknown _ => "unknown"

/-- The index of the block that an event is about. -/
def index? : Event → Option Number
  | .blockStart index _ => some index
  | .blockDelta index _ => some index
  | .blockStop index => some index
  | _ => none

/-- Whether an event has no bearing on the message. -/
def isControl : Event → Bool
  | .ping => true
  | .unknown _ => true
  | _ => false

/-- Whether an event starts a tool block. -/
def startsTool : Event → Bool
  | .blockStart _ (.toolUse _ _) => true
  | _ => false

/-- Whether an event stops a block. -/
def stopsBlock : Event → Bool
  | .blockStop _ => true
  | _ => false

end Event

end ChatRelay
