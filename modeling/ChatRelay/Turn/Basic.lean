import ChatRelay.Stream.Flow
import ChatRelay.Threads

/-!
# Turns and the signal to stop

A turn takes one message of the user to the model and shows what comes back. While it runs, the
client may signal that it wants no more. Time, for the signal, is counted in what can be told
apart: how many events the client has received and how many steps of the answer were waited for.
A signal may fire at any such moment and stays fired.
-/

namespace ChatRelay

/-- What a turn does besides sending events: log, call the endpoint, hand over the response that
completes it, and store the history of its thread. -/
inductive TurnEffect where
  | log (entry : Log.Entry)
  | call (c : Call)
  | completed (r : Response)
  | store (threadId : Text) (history : List Message)

/-- A point in the course of a turn: the events that the client has received and the steps of the
answer that were waited for. -/
structure Moment where
  received : Nat
  steps : Nat
  deriving DecidableEq

namespace Moment

/-- The moment before anything has happened. -/
def start : Moment := ⟨0, 0⟩

/-- One step of the answer later. -/
def step (m : Moment) : Moment := { m with steps := m.steps + 1 }

/-- Some events later. -/
def receive (m : Moment) (events : Nat) : Moment := { m with received := m.received + events }

end Moment

/-- A signal to stop: whether it has fired at a given moment. Once fired it stays fired. -/
structure Signal where
  fired : Moment → Bool
  stays : ∀ m n : Moment, m.received ≤ n.received → m.steps ≤ n.steps →
    fired m = true → fired n = true

namespace Signal

/-- The signal that never fires. -/
def never : Signal := ⟨fun _ => false, fun _ _ _ _ h => h⟩

/-- The signal that fires when the client has received so many events. -/
def afterEvents (count : Nat) : Signal where
  fired m := decide (count ≤ m.received)
  stays m n h _ fired := by
    simp only [decide_eq_true_eq] at *
    exact Nat.le_trans fired h

end Signal

/-- How one turn is shown: whether debug events are wanted, the thread that log lines name, and the
signal that may stop it. -/
structure View where
  debugging : Bool
  threadId : Text
  signal : Signal

namespace TurnEffect

/-- The entries that a list of effects logs. -/
def logged (effects : List TurnEffect) : List Log.Entry :=
  effects.filterMap fun
    | .log entry => some entry
    | _ => none

/-- The calls that a list of effects makes. -/
def calls (effects : List TurnEffect) : List Call :=
  effects.filterMap fun
    | .call c => some c
    | _ => none

/-- The responses that a list of effects hands over. -/
def handedOver (effects : List TurnEffect) : List Response :=
  effects.filterMap fun
    | .completed r => some r
    | _ => none

/-- The threads after a list of effects. -/
def stored (effects : List TurnEffect) (threads : Threads) : Threads :=
  effects.foldl (fun ts e =>
    match e with
    | .store id history => ts.put id history
    | _ => ts) threads

end TurnEffect

end ChatRelay
