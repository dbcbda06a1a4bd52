import ChatRelay.Event.Basic
import ChatRelay.Json.Reader
import ChatRelay.Log

/-!
# Tool calls

The input of a tool call arrives as fragments of a JSON text. An `Aggregate` collects them: at most
one call is open at a time, and its fragments are read when its block stops, never before. A call
whose text is blank has no arguments; a text that is not a JSON object is reported in the log and
counts as no arguments.

`Merged.merge` folds the events of a window: the events of a tool block go into an aggregate, any
other event takes the place of what came before. A failed step leaves what came before as it was.
-/

namespace ChatRelay

/-- A tool call of the model. -/
structure ToolUse where
  id : Text
  name : Text
  input : Json.Members
  deriving DecidableEq

/-- A tool call whose input is still arriving. -/
structure OpenTool where
  index : Number
  id : Text
  name : Text
  partialJson : Text
  deriving DecidableEq

/-- The tool calls of a window: the one under way and the finished ones, in order. -/
structure Aggregate where
  pending : Option OpenTool
  finished : List ToolUse
  deriving DecidableEq

/-- The warning about arguments that are no JSON text. -/
def OpenTool.malformedWarning (tool : OpenTool) : Log.Entry :=
  .warn "Malformed tool_use input, continuing with empty arguments"
    [("id", some (.str tool.id)), ("name", some (.str tool.name)), ("error", some (.str jsonErrorText))]

/-- The warning about arguments that are no JSON object. -/
def OpenTool.shapeWarning (tool : OpenTool) : Log.Entry :=
  .warn "tool_use input is not a JSON object, continuing with empty arguments"
    [("id", some (.str tool.id)), ("name", some (.str tool.name))]

/-- The input that the collected text denotes, and what is logged about it. -/
def OpenTool.input (tool : OpenTool) : Json.Members × List Log.Entry :=
  if tool.partialJson.trim = [] then ([], [])
  else
    match Json.parse? tool.partialJson with
    | none => ([], [tool.malformedWarning])
    | some (.obj ms) => (Json.without Check.reservedKey ms, [])
    | some _ => ([], [tool.shapeWarning])

namespace Aggregate

/-- No tool calls. -/
def empty : Aggregate := ⟨none, []⟩

/-- Whether a call is under way. -/
def isOpen (a : Aggregate) : Bool := a.pending.isSome

/-- Begins a call. -/
def start (a : Aggregate) (index : Number) (id name : Text) : Except Violation Aggregate :=
  match a.pending with
  | some tool => .error (.toolAlreadyOpen tool.id index id)
  | none => .ok { a with pending := some ⟨index, id, name, []⟩ }

/-- Adds a fragment to the input of the call under way. -/
def append (a : Aggregate) (index : Number) (fragment : Text) : Except Violation Aggregate :=
  match a.pending with
  | none => .error (.fragmentOutsideTool index)
  | some tool =>
    if tool.index = index then
      .ok { a with pending := some { tool with partialJson := tool.partialJson ++ fragment } }
    else .error (.fragmentOfOtherBlock index tool.index)

/-- Finishes the call under way, if there is one. -/
def close (a : Aggregate) (index : Number) : Except Violation (Aggregate × List Log.Entry) :=
  match a.pending with
  | none => .ok (a, [])
  | some tool =>
    if tool.index = index then
      let (input, entries) := tool.input
      .ok (⟨none, a.finished ++ [⟨tool.id, tool.name, input⟩]⟩, entries)
    else .error (.stopOfOtherBlock index tool.index)

end Aggregate

/-- What a window amounts to so far: its tool calls, or its last event. -/
inductive Merged where
  | event (e : Event)
  | tools (a : Aggregate)
  deriving DecidableEq

namespace Merged

/-- The name of the kind of a merged event. -/
def type : Merged → Text
  | .event e => e.type
  | .tools _ => "tool_use_aggregate"

/-- The aggregate, if this is one. -/
def aggregate? : Merged → Option Aggregate
  | .tools a => some a
  | .event _ => none

/-- An event that meets a call under way or nothing of the kind, and is no part of a call's input. -/
def absorb (tools : Option Aggregate) (e : Event) : Except Failure (Merged × List Log.Entry) :=
  match tools.filter Aggregate.isOpen with
  | none => .ok (.event e, [])
  | some a =>
    match e with
    | .blockStop index =>
      match a.close index with
      | .ok (a, entries) => .ok (.tools a, entries)
      | .error v => .error (.violation v)
    | .error type message => .error (.vendor type message)
    | e => .error (.violation (.insideTool e.type e.index?))

/-- One step of the fold over a window, and what it logs. -/
def merge (previous : Merged) (e : Event) : Except Failure (Merged × List Log.Entry) :=
  match e with
  | .blockStart index (.toolUse id name) =>
    match (previous.aggregate?.getD .empty).start index id name with
    | .ok a => .ok (.tools a, [])
    | .error v => .error (.violation v)
  | .blockDelta index (.inputJson fragment) =>
    match (previous.aggregate?.getD .empty).append index fragment with
    | .ok a => .ok (.tools a, [])
    | .error v => .error (.violation v)
  | e => absorb previous.aggregate? e

/-- The fold over a window from some state on. -/
def mergeAll (previous : Merged) : List Event → List Log.Entry × Except Failure Merged
  | [] => ([], .ok previous)
  | e :: es =>
    match previous.merge e with
    | .error f => ([], .error f)
    | .ok (next, entries) =>
      let (more, result) := mergeAll next es
      (entries ++ more, result)

/-- What a window amounts to, and what is logged on the way. -/
def ofWindow (window : List Event) : List Log.Entry × Except Failure Merged :=
  mergeAll (.tools .empty) window

end Merged

end ChatRelay
