import ChatRelay.Transport
import ChatRelay.Turn.Events
import ChatRelay.Turn.Plan

/-!
# Running a turn

A turn runs in one of two ways. `run` streams: it tells the client the thread first, then the
events of the answer, and whatever fails becomes an event too. That goes for leaving the answer as well:
if it fails, the client is told of another end behind the first one. `complete` waits for the whole
answer and fails if anything fails.
-/

namespace ChatRelay

/-- What stays the same from turn to turn. -/
structure Relay where
  defaults : Options
  debugging : Bool

namespace Turn

/-- How a failed turn ends: stopped if the client wanted it to stop, else with an error. -/
def close (view : View) : Rescue := fun m f =>
  if view.signal.fired m then
    ⟨[.effect (.log (.info "Chat stream aborted by client"
        [("threadId", some (.str view.threadId))])),
      .yield (.done .aborted none)], none⟩
  else
    ⟨[.effect (.log (.failure "Chat stream failed" f)),
      .yield (.error f.message (some (f.code?.getD "CHAT_STREAM_FAILED"))),
      .yield (.done .error none)], none⟩

/-- What follows when the client knows the thread: the turn is planned and its answer shown. -/
def respond (relay : Relay) (transport : Transport) (threads : Threads) (threadId : Text)
    (input : ChatRequest) (signal : Signal) : Flow TurnEffect ChatEvent :=
  let view : View := ⟨relay.debugging, threadId, signal⟩
  let begun := Moment.start.receive 1
  match plan relay.defaults threads threadId input true with
  | .error f => close view begun f
  | .ok p =>
    heldEvents view p.commit (close view) begun (transport.responses p.model p.request.toJson)

/-- A turn whose answer is streamed to the client. -/
def run (relay : Relay) (transport : Transport) (threads : Threads) (threadId : Text)
    (input : ChatRequest) (signal : Signal) : Flow TurnEffect ChatEvent :=
  (respond relay transport threads threadId input signal).after [.yield (.session threadId)]

/-- The rest of a source read under a signal to stop, with nothing shown to the client. -/
def attendFrom {α : Type} (signal : Signal) (failure : Option Failure) :
    Moment → List (Act Effect α) → Flow TurnEffect α
  | _, [] => ⟨[], failure⟩
  | m, .effect (.log entry) :: acts =>
    (attendFrom signal failure m.step acts).after [.effect (.log entry)]
  | m, .effect (.call c) :: acts =>
    (attendFrom signal failure m.step acts).after [.effect (.call c)]
  | m, .effect .poll :: acts =>
    if signal.fired m then .fail .aborted else attendFrom signal failure m.step acts
  | m, .yield a :: acts => (attendFrom signal failure m.step acts).after [.yield a]

/-- A source read under a signal to stop. -/
def attend {α : Type} (signal : Signal) (source : Flow Effect α) : Flow TurnEffect α :=
  attendFrom signal source.failure .start source.acts

/-- A turn whose answer is awaited as a whole. -/
def complete (relay : Relay) (transport : Transport) (threads : Threads) (threadId : Text)
    (input : ChatRequest) (signal : Signal) : Flow TurnEffect Response := do
  let p ← .ofExcept (plan relay.defaults threads threadId input false)
  let r ← attend signal (transport.complete p.model p.request.toJson)
  ⟨(p.commit r).map .effect ++ [.yield r], none⟩

end Turn

end ChatRelay
