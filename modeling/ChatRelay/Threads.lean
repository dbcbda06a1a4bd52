import ChatRelay.Reply
import ChatRelay.Request

/-!
# Threads of conversation

A thread is a conversation that later turns carry on. The store keeps the history of every thread
under its id. A turn reads the history when it begins and, if it completes, puts the history that
it has read, with its own two messages, in the place of whatever is there by then.
-/

namespace ChatRelay

/-- The histories of all threads. -/
structure Threads where
  entries : List (Text × List Message)
  deriving DecidableEq

namespace Threads

/-- The store without any thread. -/
def empty : Threads := ⟨[]⟩

/-- The history of a thread, if it has one. -/
def history? (ts : Threads) (id : Text) : Option (List Message) := ts.entries.lookup id

/-- The messages of a thread; a thread that is not stored has none. -/
def messages (ts : Threads) (id : Text) : List Message := (ts.history? id).getD []

/-- Stores the history of a thread in the place of the old one. -/
def put (ts : Threads) (id : Text) (history : List Message) : Threads :=
  ⟨(id, history) :: ts.entries.filter (·.1 ≠ id)⟩

end Threads

/-- A tool call of the model as a later request tells it. -/
def ToolUse.toCall (tool : ToolUse) : ToolCall :=
  ⟨some (.str tool.id), some (.str tool.name), some (.obj tool.input)⟩

/-- A block of a reply as a block of a later request. -/
def Block.toRequest (b : Block) : RequestBlock :=
  match b.tool? with
  | some tool => .toolUse tool.toCall
  | none => .text b.textPart

/-- A reply as a message of the conversation. -/
def Response.toMessage (r : Response) : Message :=
  ⟨.assistant, .blocks (r.content.map Block.toRequest)⟩

end ChatRelay
