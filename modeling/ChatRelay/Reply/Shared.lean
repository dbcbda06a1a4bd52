import ChatRelay.Attempts
import ChatRelay.Reply

/-!
# A message whose blocks are shared

A `Draft` finds an open text by its place in the content. Here each block is kept once, in a store, and
the content and the table of open texts both refer to it there: text that is added to a block by way of
the table shows in the content because it is the very same block. Nothing in the data says that a
reference leads anywhere, that the content has a block only once, or that what is open is a text of the
content at all. The start of a message empties the content and the table, and leaves the store alone.

A step may name any number as the index of a block. The table goes by its key, the number without
the sign of a zero, so that even what is not a number has one place there.

The steps check and change a draft in its place, in the order in which that takes effect, and what has
been changed before a failure stays changed. `makeAll` makes them one after another and records
failures.
-/

namespace ChatRelay

/-- What is known about a message besides its blocks. -/
structure Head where
  started : Bool
  id : Text
  model : Text
  role : Text
  stopReason : Field Text
  stopSequence : Field Text
  usage : Usage
  deriving DecidableEq

/-- What is known about a message that is being written, besides its blocks. -/
def Draft.head (d : Draft) : Head :=
  ⟨d.started, d.id, d.model, d.role, d.stopReason, d.stopSequence, d.usage⟩

/-- The draft with blocks of which some are open. -/
def Head.draft (h : Head) (content : List Block) (openTexts : List OpenText) : Draft :=
  ⟨h.started, h.id, h.model, h.role, h.stopReason, h.stopSequence, h.usage, content, openTexts⟩

/-- A step of writing a message. Blocks that are given from outside are copied. -/
inductive DraftStep where
  | start (header : Header)
  | openText (index : Number) (text : Text)
  | appendText (index : Number) (text : Text)
  | closeText (index : Number)
  | appendBlocks (given : List Json)
  | applyDelta (stop : StopInfo) (usage : Option Usage)

/-- An entry of the table of open texts: the key of an index, and where the block is kept. -/
structure Handle where
  key : Number
  ref : Nat
  deriving DecidableEq

/-- A message that is being written, whose blocks are referred to by their places in the store. -/
structure SharedDraft where
  head : Head
  store : List Block
  content : List Nat
  handles : List Handle

namespace SharedDraft

/-- The draft before the start of the message. -/
def blank : SharedDraft := ⟨Draft.blank.head, [], [], []⟩

/-- The block that a reference leads to. -/
def block (d : SharedDraft) (ref : Nat) : Block := d.store.getD ref (.text [])

/-- The blocks of the content. -/
def view (d : SharedDraft) : List Block := d.content.map d.block

/-- The reference that the table holds under a key. -/
def refAt? (d : SharedDraft) (key : Number) : Option Nat :=
  (d.handles.find? (·.key = key)).map Handle.ref

/-- Keeps new blocks in the store, at the end of the content. -/
def push (d : SharedDraft) (blocks : List Block) : SharedDraft :=
  { d with
    store := d.store ++ blocks
    content := d.content ++ List.range' d.store.length blocks.length }

/-- The draft as it is shown, in which an open text is found by its place in the content. -/
def draft (d : SharedDraft) : Draft :=
  d.head.draft d.view (d.handles.map fun h => ⟨h.key, d.content.idxOf h.ref⟩)

end SharedDraft

/-- What is done to a shared draft in its place. -/
abbrev Sharing (α : Type) := Attempt SharedDraft Failure α

namespace Sharing

open Attempt (on violate)

/-- Starts a message. -/
def start (header : Header) : Sharing Unit :=
  modify fun d => { d with head := (Draft.start header).head, content := [], handles := [] }

/-- Opens a text block at the end of the content. -/
def openText (index : Number) (text : Text) : Sharing Unit := do
  if ((← get).refAt? index.plainZero).isSome then violate (.blockAlreadyOpen index)
  let ref := (← get).store.length
  modify (·.push [.text text])
  modify fun d => { d with handles := d.handles ++ [⟨index.plainZero, ref⟩] }

/-- Adds text to the open block at an index. -/
def appendText (index : Number) (text : Text) : Sharing Unit := do
  match (← get).refAt? index.plainZero with
  | none => violate (.textOfClosedBlock index)
  | some ref => modify fun d => { d with store := d.store.modify ref (Block.append text) }

/-- Closes the text block at an index. -/
def closeText (index : Number) : Sharing Unit := do
  let present := ((← get).refAt? index.plainZero).isSome
  modify fun d => { d with handles := d.handles.filter (·.key ≠ index.plainZero) }
  if !present then violate (.stopOfClosedBlock index)

/-- Adds copies of blocks at the end of the content. -/
def appendBlocks (given : List Json) : Sharing Unit :=
  match given.mapM Block.copy with
  | .ok blocks => modify (·.push blocks)
  | .error f => throw f

/-- Takes over what a delta reports about the whole message. -/
def applyDelta (stop : StopInfo) (usage : Option Usage) : Sharing Unit :=
  modify fun d => { d with head := ((d.head.draft [] []).applyDelta stop usage).head }

/-- Makes a step. -/
def make : DraftStep → Sharing Unit
  | .start header => start header
  | .openText index text => openText index text
  | .appendText index text => appendText index text
  | .closeText index => closeText index
  | .appendBlocks given => appendBlocks given
  | .applyDelta stop usage => applyDelta stop usage

/-- The results of steps that are made one after another, and the draft at the end. -/
def makeAll (d : SharedDraft) (steps : List DraftStep) :
    List (Except Failure Unit) × SharedDraft :=
  Attempts.run (fun d step => on d (make step)) d steps

end Sharing

end ChatRelay
