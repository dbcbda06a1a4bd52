import ChatRelay.ChatEvent
import ChatRelay.Stream.Held
import ChatRelay.Turn.Basic

/-!
# The events of a turn

The responses of the model become events for the client one by one. The response that ends the
message is handed over before the client hears of the end, and nothing is read behind it. The
signal to stop is looked at with every response and where the network is asked for more: a
response that meets it ends the turn as stopped, a request to the network fails.

A turn that ends at a response leaves the responses behind it, once the client has heard of the end and
asks for more. What that raises is a failure of the turn like any other one.
-/

namespace ChatRelay.Turn

/-- What happens when a turn fails at a moment. -/
abbrev Rescue := Moment → Failure → Flow TurnEffect ChatEvent

/-- A failure that is passed on. -/
def passOn : Rescue := fun _ f => .fail f

/-- What happens when the model has finished its message. The last log entry is written only when
the client asks for more. -/
def finished (view : View) (r : Response) (completion : List TurnEffect) :
    List (Act TurnEffect ChatEvent) :=
  completion.map .effect ++
    [.yield (.usage r.usage), .yield (.done .stop (r.stopReason.value?.filter (· ≠ []))),
      .effect (.log (.debug "Chat stream completed" [("threadId", some (.str view.threadId)),
        ("messageId", some (.str r.id)), ("stopReason", r.stopReason.toJson? .str)]))]

/-- What happens when the responses end before the model has finished its message. -/
def unfinished (view : View) : List (Act TurnEffect ChatEvent) :=
  [.effect (.log (.warn "Chat stream ended before message_stop"
      [("threadId", some (.str view.threadId))])),
    .yield (.done .incomplete none)]

/-- What happens when the responses are left at a moment, by what that raises. -/
def leave (rescue : Rescue) (m : Moment) : Option Failure → Flow TurnEffect ChatEvent
  | none => .done
  | some f => rescue m f

/-- The events for the rest of a sequence of responses from a moment on. The response that ends the
message is handed over by `complete`. -/
def eventsFrom (view : View) (complete : Response → List TurnEffect) (rescue : Rescue)
    (failure : Option Failure) :
    Moment → List (Act Effect (Held Response)) → Flow TurnEffect ChatEvent
  | m, [] =>
    match failure with
    | some f => rescue m f
    | none => ⟨unfinished view, none⟩
  | m, .effect (.log entry) :: acts =>
    (eventsFrom view complete rescue failure m.step acts).after [.effect (.log entry)]
  | m, .effect (.call c) :: acts =>
    (eventsFrom view complete rescue failure m.step acts).after [.effect (.call c)]
  | m, .effect .poll :: acts =>
    if view.signal.fired m then rescue m .aborted
    else eventsFrom view complete rescue failure m.step acts
  | m, .yield r :: acts =>
    if view.signal.fired m then
      (leave rescue (m.step.receive 1) r.left).after [.yield (.done .aborted none)]
    else if r.item.isFinal then
      (leave rescue (m.step.receive 2) r.left).after (finished view r.item (complete r.item))
    else
      let events := ChatEvent.ofIncrement view.debugging r.item
      (eventsFrom view complete rescue failure (m.step.receive events.length) acts).after
        (events.map .yield)

/-- The events for a stream of responses that starts at a moment. -/
def heldEvents (view : View) (complete : Response → List TurnEffect) (rescue : Rescue) (m : Moment)
    (responses : Flow Effect (Held Response)) : Flow TurnEffect ChatEvent :=
  eventsFrom view complete rescue responses.failure m responses.acts

/-- The events for a stream of responses that raises nothing when it is left. -/
def events (view : View) (complete : Response → List TurnEffect) (rescue : Rescue) (m : Moment)
    (responses : Flow Effect Response) : Flow TurnEffect ChatEvent :=
  heldEvents view complete rescue m (responses.hold none)

end ChatRelay.Turn
