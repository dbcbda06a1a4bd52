import ChatRelay.Attempts
import ChatRelay.Stream.ToolUse

/-!
# Tool calls collected in place

`Aggregate.start`, `Aggregate.append` and `Aggregate.close` give the next aggregate or a violation, so
none of them can leave an aggregate half changed. Here an aggregate is kept in one place, together
with what is logged, and every step checks and changes it in the order in which that takes effect:
what has been changed before a failure stays changed.

A step may name any number as the index of its block. Two indexes are the same if they are the same
value, so that zero has no sign and what is not a number is the index of no block.

`makeAll` makes steps one after another. A failure is recorded, and the next step meets the aggregate as
the failed one has left it.
-/

namespace ChatRelay

/-- A step of collecting tool calls: a call begins, a fragment of its input arrives, its block
stops. -/
inductive ToolStep where
  | start (index : Number) (id name : Text)
  | append (index : Number) (fragment : Text)
  | close (index : Number)
  deriving DecidableEq

/-- An aggregate and what was logged while it came about. -/
structure Collection where
  tools : Aggregate
  log : List Log.Entry

/-- What is done to a collection in its place. -/
abbrev Collecting (α : Type) := Attempt Collection Violation α

/-- The collection without any tool calls. -/
def Collection.empty : Collection := ⟨.empty, []⟩

namespace Collecting

open Attempt (on)

/-- Puts a call under way, or none. -/
def setPending (pending : Option OpenTool) : Collecting Unit :=
  modify fun c => { c with tools := { c.tools with pending } }

/-- Begins a call. -/
def start (index : Number) (id name : Text) : Collecting Unit := do
  match (← get).tools.pending with
  | some tool => throw (.toolAlreadyOpen tool.id index id)
  | none => setPending (some ⟨index, id, name, []⟩)

/-- Adds a fragment to the input of the call under way. -/
def append (index : Number) (fragment : Text) : Collecting Unit := do
  match (← get).tools.pending with
  | none => throw (.fragmentOutsideTool index)
  | some tool =>
    if !tool.index.sameValue index then throw (.fragmentOfOtherBlock index tool.index)
    setPending (some { tool with partialJson := tool.partialJson ++ fragment })

/-- Finishes the call under way, if there is one. The call is no longer under way while its input is
read. -/
def close (index : Number) : Collecting Unit := do
  match (← get).tools.pending with
  | none => return
  | some tool =>
    if !tool.index.sameValue index then throw (.stopOfOtherBlock index tool.index)
    setPending none
    let (input, entries) := tool.input
    modify fun c => { c with log := c.log ++ entries }
    modify fun c => { c with
      tools := { c.tools with finished := c.tools.finished ++ [⟨tool.id, tool.name, input⟩] } }

/-- Makes a step. -/
def make : ToolStep → Collecting Unit
  | .start index id name => start index id name
  | .append index fragment => append index fragment
  | .close index => close index

/-- The results of steps that are made one after another, and the collection at the end. -/
def makeAll (c : Collection) : List ToolStep → List (Except Violation Unit) × Collection
  | [] => ([], c)
  | step :: steps =>
    let (result, c) := on c (make step)
    let (results, c) := makeAll c steps
    (result :: results, c)

end Collecting

end ChatRelay
