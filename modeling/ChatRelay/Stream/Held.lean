import ChatRelay.Stream.Flow

/-!
# Leaving a source early

A consumer that wants no more of a source leaves it, and that may raise a failure of its own. What it
raises depends on where the source is left, so a `Held` item says with itself what leaving the source
right behind it raises.

A stage over such a source reads the items as before (`Stage.held`). To leave the stage is to leave its
source, so what it puts out for an item is held as the item is. A stage that stops by itself leaves its
source too: its failure is its own, or if it has none, what leaving raises. Behind the end of the source
there is nothing to leave any more.
-/

namespace ChatRelay

/-- An item, and what leaving its source right behind it raises. -/
structure Held (α : Type) where
  item : α
  left : Option Failure
  deriving DecidableEq

variable {ε σ α β : Type}

/-- Renames the item. -/
def Held.map (f : α → β) (h : Held α) : Held β := ⟨f h.item, h.left⟩

/-- Renames the item, if this is one. -/
def Act.map (f : α → β) : Act ε α → Act ε β
  | .effect e => .effect e
  | .yield a => .yield (f a)

namespace Flow

/-- Renames the items. -/
def mapItems (f : α → β) (flow : Flow ε α) : Flow ε β := ⟨flow.acts.map (Act.map f), flow.failure⟩

/-- The source with the same said of leaving it everywhere. -/
def hold (left : Option Failure) (flow : Flow ε α) : Flow ε (Held α) := flow.mapItems (⟨·, left⟩)

/-- The source as it is to a consumer that never leaves it. -/
def bare (flow : Flow ε (Held α)) : Flow ε α := flow.mapItems Held.item

end Flow

/-- A reaction to an item behind which leaving the source raises something. -/
def Reaction.hold (left : Option Failure) : Reaction ε σ β → Reaction ε σ (Held β)
  | .next state acts => .next state (acts.map (Act.map (⟨·, left⟩)))
  | .stop acts failure => .stop (acts.map (Act.map (⟨·, left⟩))) (failure.or left)

/-- The stage over a source that may be left early. -/
def Stage.held (stage : Stage ε σ α β) : Stage ε σ (Held α) (Held β) where
  start := stage.start
  react state h := (stage.react state h.item).hold h.left
  finish state := (stage.finish state).hold none

end ChatRelay
