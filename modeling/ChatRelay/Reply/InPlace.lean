import ChatRelay.Attempts
import ChatRelay.Reply

/-!
# A message written in place

`Draft.apply` gives the next draft or a failure, so it cannot leave a draft half changed. Here a draft
is kept in one place, and every step checks and changes it in the order in which that takes effect:
what has been changed before a failure stays changed. Closing a text block even removes it first and
then fails if there was nothing to remove.

`applyAll` applies merged events one after another to one such draft. A failure is recorded, and the
next event meets the draft as the failed one has left it.
-/

namespace ChatRelay

/-- What is done to a draft in its place. -/
abbrev InPlace (α : Type) := Attempt Draft Failure α

namespace InPlace

open Attempt (on violate)

/-- Fails unless the message has started. -/
def requireStarted (type : Text) : InPlace Unit := do
  if !(← get).started then violate (.beforeStart type)

/-- Starts a message. -/
def start (header : Header) : InPlace Unit := set (Draft.start header)

/-- Opens a text block at the end of the content. -/
def openText (index : Number) (text : Text) : InPlace Unit := do
  if ((← get).openAt? index).isSome then violate (.blockAlreadyOpen index)
  let place := (← get).content.length
  modify fun d => { d with content := d.content ++ [.text text] }
  modify fun d => { d with openTexts := d.openTexts ++ [⟨index, place⟩] }

/-- Adds text to the open block at an index. -/
def appendText (index : Number) (text : Text) : InPlace Unit := do
  match (← get).openAt? index with
  | none => violate (.textOfClosedBlock index)
  | some block =>
    modify fun d => { d with content := d.content.modify block.place (Block.append text) }

/-- Closes the text block at an index. -/
def closeText (index : Number) : InPlace Unit := do
  let present := ((← get).openAt? index).isSome
  modify fun d => { d with openTexts := d.openTexts.filter (·.index ≠ index) }
  if !present then violate (.stopOfClosedBlock index)

/-- Adds finished blocks at the end of the content. -/
def appendBlocks (blocks : List Block) : InPlace Unit := modify (·.appendBlocks blocks)

/-- Takes over what a delta reports about the whole message. -/
def applyDelta (stop : StopInfo) (usage : Option Usage) : InPlace Unit :=
  modify (·.applyDelta stop usage)

/-- The response that shows the draft with some content. -/
def respond (type : Field Text) (content : List Block) : InPlace Response := do
  return (← get).respond type content

/-- Applies an event that is not part of a tool block. -/
def applyEvent (e : Event) : InPlace Response := do
  match e with
  | .messageStart header =>
    start header
    respond .null []
  | .blockStart index block =>
    requireStarted e.type
    match block with
    | .text t =>
      openText index t
      if t.isEmpty then respond .null [] else respond (.value e.type) [.text t]
    | block => throw (.unsupported (.block block.type index))
  | .blockDelta index delta =>
    requireStarted e.type
    match delta with
    | .text t =>
      appendText index t
      respond (.value e.type) [.text t]
    | delta => throw (.unsupported (.delta delta.type index))
  | .blockStop index =>
    requireStarted e.type
    closeText index
    respond .null []
  | .messageDelta stop usage =>
    requireStarted e.type
    applyDelta stop usage
    respond .null []
  | .messageStop =>
    requireStarted e.type
    return (← get).build (.value e.type)
  | .error type message => throw (.vendor type message)
  | .ping => respond .null []
  | .unknown _ => respond .null []

/-- Applies what a window amounts to. -/
def apply : Merged → InPlace Response
  | .event e => applyEvent e
  | .tools a => do
    requireStarted (Merged.tools a).type
    let blocks := a.finished.map Block.toolUse
    appendBlocks blocks
    respond (if blocks.isEmpty then .null else .value "tool_use") blocks

/-- The results of merged events that are applied one after another, and the draft at the end. -/
def applyAll (d : Draft) : List Merged → List (Except Failure Response) × Draft
  | [] => ([], d)
  | m :: ms =>
    let (result, d) := on d (apply m)
    let (results, d) := applyAll d ms
    (result :: results, d)

end InPlace

end ChatRelay
