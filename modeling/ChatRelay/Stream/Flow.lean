import ChatRelay.Log

/-!
# Lazy sources

A source of items is read lazily: what happens inside it happens when its next item is asked for. A
`Flow` is the whole of such a reading, written down: the items in order, between them the effects
that producing them has, and at the end either nothing more or a failure. A consumer that stops
early sees a beginning of the flow and causes only the effects before its end (`take`).

A `Stage` turns a flow into another one item by item. `through` is its law: effects pass in their
place, a failure of the source ends the result without the stage's last word, and a stage that
stops leaves the rest of the source unread.
-/

namespace ChatRelay

/-- A request to the model endpoint, as it goes out. -/
structure Call where
  url : Text
  accept : Bool
  token : Text
  body : Json

/-- What reading a source does besides giving items. `poll` is a place where the network is asked
for more; there, and nowhere else, a signal to stop makes the source fail. -/
inductive Effect where
  | log (entry : Log.Entry)
  | call (c : Call)
  | poll

/-- One thing that happens while a source is read. -/
inductive Act (ε α : Type) where
  | effect (e : ε)
  | yield (item : α)

/-- A source read to its end: what happens in order, and how it ends. -/
structure Flow (ε α : Type) where
  acts : List (Act ε α)
  failure : Option Failure

/-- What a stage does with one item: it goes on in a new state, or it ends the result. -/
inductive Reaction (ε σ β : Type) where
  | next (state : σ) (acts : List (Act ε β))
  | stop (acts : List (Act ε β)) (failure : Option Failure)

/-- A transformation of flows that handles one item at a time. -/
structure Stage (ε σ α β : Type) where
  start : σ
  react : σ → α → Reaction ε σ β
  finish : σ → Flow ε β

namespace Act

variable {ε ε' α β : Type}

/-- The item, if this is one. -/
def item? : Act ε α → Option α
  | .yield a => some a
  | .effect _ => none

/-- The effect, if this is one. -/
def effect? : Act ε α → Option ε
  | .effect e => some e
  | .yield _ => none

/-- Renames the effect. -/
def mapEffect (f : ε → ε') : Act ε α → Act ε' α
  | .effect e => .effect (f e)
  | .yield a => .yield a

end Act

namespace Flow

variable {ε ε' σ α β : Type}

/-- A source that gives the items of a list and then ends or fails. -/
def ofList (items : List α) (failure : Option Failure) : Flow ε α := ⟨items.map .yield, failure⟩

/-- A source that fails at once. -/
def fail (f : Failure) : Flow ε α := ⟨[], some f⟩

/-- A source that does nothing. -/
def done : Flow ε α := ⟨[], none⟩

/-- The items in order. -/
def items (flow : Flow ε α) : List α := flow.acts.filterMap Act.item?

/-- The effects in order. -/
def effects (flow : Flow ε α) : List ε := flow.acts.filterMap Act.effect?

/-- A flow with something before it. -/
def after (acts : List (Act ε α)) (flow : Flow ε α) : Flow ε α := ⟨acts ++ flow.acts, flow.failure⟩

/-- One flow and then, unless it failed, another one. -/
def andThen (first second : Flow ε α) : Flow ε α :=
  match first.failure with
  | some _ => first
  | none => second.after first.acts

/-- A source that gives one item. -/
def one (item : α) : Flow ε α := ⟨[.yield item], none⟩

/-- A source that has an effect and then gives a unit. -/
def perform (e : ε) : Flow ε Unit := ⟨[.effect e, .yield ()], none⟩

/-- A source that gives a result or fails with its error. -/
def ofExcept : Except Failure α → Flow ε α
  | .ok a => one a
  | .error f => fail f

/-- Puts a whole source in the place of every item, as long as none fails. -/
def bindFrom (failure : Option Failure) (f : α → Flow ε β) : List (Act ε α) → Flow ε β
  | [] => ⟨[], failure⟩
  | .effect e :: acts => (bindFrom failure f acts).after [.effect e]
  | .yield a :: acts => (f a).andThen (bindFrom failure f acts)

/-- Puts a whole source in the place of every item. -/
def bind (flow : Flow ε α) (f : α → Flow ε β) : Flow ε β := bindFrom flow.failure f flow.acts

instance : Monad (Flow ε) where
  pure := one
  bind := bind

/-- The source that gives all items of another one as a single item at its end. -/
def gather (flow : Flow ε α) : Flow ε (List α) :=
  let effects := flow.acts.filterMap fun
    | .effect e => some (.effect e)
    | .yield _ => none
  match flow.failure with
  | none => ⟨effects ++ [.yield flow.items], none⟩
  | some f => ⟨effects, some f⟩

/-- Goes on in another way where a source fails. -/
def rescue (flow : Flow ε α) (other : Failure → Flow ε α) : Flow ε α :=
  match flow.failure with
  | none => flow
  | some f => (other f).after flow.acts

/-- Renames the effects. -/
def mapEffects (f : ε → ε') (flow : Flow ε α) : Flow ε' α :=
  ⟨flow.acts.map (Act.mapEffect f), flow.failure⟩

/-- The acts up to the `n`-th item; `none` if there are fewer items. -/
def upTo? : Nat → List (Act ε α) → Option (List (Act ε α))
  | 0, _ => some []
  | _, [] => none
  | n, .effect e :: acts => (upTo? n acts).map (.effect e :: ·)
  | n + 1, .yield a :: acts => (upTo? n acts).map (.yield a :: ·)

/-- What a consumer sees and causes that asks for at most `n` items. -/
def take (n : Nat) (flow : Flow ε α) : Flow ε α :=
  match upTo? n flow.acts with
  | some acts => ⟨acts, none⟩
  | none => flow

/-- What a consumer sees that may have a limit. -/
def takeUpTo : Option Nat → Flow ε α → Flow ε α
  | none, flow => flow
  | some n, flow => flow.take n

/-- The reading of a source by a stage in a given state. -/
def throughFrom (react : σ → α → Reaction ε σ β) (finish : σ → Flow ε β) (failure : Option Failure) :
    σ → List (Act ε α) → Flow ε β
  | s, [] =>
    match failure with
    | none => finish s
    | some f => fail f
  | s, .effect e :: acts => (throughFrom react finish failure s acts).after [.effect e]
  | s, .yield a :: acts =>
    match react s a with
    | .next s out => (throughFrom react finish failure s acts).after out
    | .stop out failure => ⟨out, failure⟩

/-- The flow that a stage makes of a source. -/
def through (flow : Flow ε α) (stage : Stage ε σ α β) : Flow ε β :=
  throughFrom stage.react stage.finish flow.failure stage.start flow.acts

/-- Turns every item into what happens in its place. -/
def expand (f : α → List (Act ε β)) (flow : Flow ε α) : Flow ε β :=
  ⟨flow.acts.flatMap fun
    | .effect e => [.effect e]
    | .yield a => f a, flow.failure⟩

end Flow

/-- The entries that a list of effects logs. -/
def Effect.logged (effects : List Effect) : List Log.Entry :=
  effects.filterMap fun
    | .log entry => some entry
    | _ => none

/-- The calls that a list of effects makes. -/
def Effect.calls (effects : List Effect) : List Call :=
  effects.filterMap fun
    | .call c => some c
    | _ => none

/-- Puts a part's name before everything that it logs. -/
def Effect.within (scope : Text) : Effect → Effect
  | .log entry => .log (entry.within scope)
  | e => e

/-- Acts that log entries. -/
def Act.logs {α : Type} (entries : List Log.Entry) : List (Act Effect α) :=
  entries.map fun entry => .effect (.log entry)

end ChatRelay
