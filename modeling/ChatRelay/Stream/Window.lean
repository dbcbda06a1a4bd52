import ChatRelay.Event.Basic
import ChatRelay.Stream.Flow

/-!
# Windows

A stream of events is cut into windows, and a window is handled as a whole. Outside of a tool block
every event is a window of its own; a tool block is one window, from its start to the first block
stop or error event. A window that is still open when the stream ends is dropped.
-/

namespace ChatRelay

/-- Decides whether an item closes the window under way, and remembers what it has to. -/
structure Splitter (σ α : Type) where
  start : σ
  split : σ → α → σ × Bool

/-- The windows of a source: each ends with the item that closes it. -/
def Splitter.windows {σ α : Type} (splitter : Splitter σ α) :
    Stage Effect (σ × List α) α (List α) where
  start := (splitter.start, [])
  react state item :=
    let (s, closes) := splitter.split state.1 item
    let window := state.2 ++ [item]
    if closes then .next (s, []) [.yield window] else .next (s, window) []
  finish _ := .done

/-- One event outside or inside of a tool block: whether the next event is inside of one, and
whether this event closes its window. -/
def Event.splitStep (insideTool : Bool) (e : Event) : Bool × Bool :=
  match e with
  | .error _ _ => (false, true)
  | e =>
    let inside := insideTool || e.startsTool
    if inside && e.stopsBlock then (false, true) else (inside, !inside)

/-- The splitter that keeps tool blocks together. -/
def toolSplitter : Splitter Bool Event := ⟨false, Event.splitStep⟩

/-- The splitter that closes a window at every item with some property. -/
def Splitter.at {α : Type} (closes : α → Bool) : Splitter Unit α :=
  ⟨(), fun _ item => ((), closes item)⟩

/-- The verdicts of a splitter on the items of a list. -/
def Splitter.verdicts {σ α : Type} (splitter : Splitter σ α) (items : List α) : List Bool :=
  go splitter.start items
where
  /-- The verdicts from a state on. -/
  go (s : σ) : List α → List Bool
    | [] => []
    | item :: items => let (s, closes) := splitter.split s item; closes :: go s items

/-- The windows of a list of events. -/
def windows (events : List Event) : List (List Event) :=
  ((Flow.ofList events none).through toolSplitter.windows).items

end ChatRelay
