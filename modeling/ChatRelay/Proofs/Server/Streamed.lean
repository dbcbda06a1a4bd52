import ChatRelay.Proofs.Stream.Wire
import ChatRelay.Proofs.Turn.Transcript
import ChatRelay.Server

/-!
# What a client of the stream reads

An event travels as a frame of its type with everything else as the payload, and a client that
decodes the frames gets these payloads back. The reply to a streamed turn is such a text
(`Server.streamed_events`): the frames of the events of the turn, without those for debugging if debugging
is off, and nothing else, because the turn itself never fails (`Turn.run_failure`).
-/

namespace ChatRelay

namespace ChatEvent

theorem printed_type (e : ChatEvent) : e.type.Printed := by
  refine .of_inner ?_
  cases e <;> rw [type] <;> decide

/-- The text of an event on the wire. -/
def frame (e : ChatEvent) : Text := Sse.frame e.type e.payload

theorem text?_toFrame (e : ChatEvent) : e.toFrame.text? = some e.frame := rfl

theorem type_not_field (e : ChatEvent) :
    ∀ field ∈ e.fields, Text.ofString field.1 ≠ Text.ofString "type" := by
  cases e <;> simp only [fields, List.forall_mem_cons] <;> decide

/-- The payload of an event is the event without its type. -/
theorem payload_eq_without (e : ChatEvent) :
    ∃ ms, e.toJson = .obj ms ∧ Json.lookup "type" ms = some (.str e.type) ∧
      e.payload = .obj (Json.without "type" ms) := by
  refine ⟨_, rfl, rfl, congrArg Json.obj ?_⟩
  refine (List.filter_eq_self.mpr ?_).symm
  intro m hm
  obtain ⟨field, hfield, hmember⟩ := List.mem_filterMap.mp hm
  obtain ⟨v, -, rfl⟩ := Option.map_eq_some_iff.mp hmember
  exact decide_eq_true (e.type_not_field field hfield)

theorem payloads_frames (events : List ChatEvent) {chunks : List (List UInt8)}
    (hchunks : chunks.flatten = Utf8.encode (events.flatMap frame)) :
    (Flow.ofList (chunks.map .bytes) none).through Sse.payloads
      = .ofList (events.map fun e => e.payload.render) none := by
  have hwritten : events.flatMap frame = Sse.written (events.map fun e => (e.type, e.payload)) := by
    rw [Sse.written, List.flatMap_map]
    rfl
  have hnames : ∀ w ∈ events.map fun e => (e.type, e.payload), w.1.Printed := by
    intro w hw
    obtain ⟨e, -, rfl⟩ := List.mem_map.mp hw
    exact e.printed_type
  rw [hwritten] at hchunks
  rw [Sse.payloads_frames hnames hchunks, List.map_map]
  rfl

end ChatEvent

namespace Server

variable (settings : Settings)

/-- Whether the client of a stream is shown an event. -/
def shows (e : ChatEvent) : Bool := !e.toFrame.isDebug || settings.debugging

theorem react_writeFrames (e : ChatEvent) : (writeFrames settings).react () e.toFrame
    = .next () (if shows settings e then [.yield e.frame] else []) := by
  by_cases hdebug : e.toFrame.isDebug = true
  · by_cases hdebugging : settings.debugging = true
    · simp [writeFrames, shows, hdebug, hdebugging, ChatEvent.text?_toFrame]
    · simp [writeFrames, shows, hdebug, hdebugging]
  · simp [writeFrames, shows, hdebug, ChatEvent.text?_toFrame]

theorem run_writeFrames (acts : List (Act TurnEffect ChatEvent)) :
    ((writeFrames settings).run () (travelling ⟨acts, none⟩).acts).1.filterMap Act.item?
        = ((acts.filterMap Act.item?).filter (shows settings)).map ChatEvent.frame ∧
      ((writeFrames settings).run () (travelling ⟨acts, none⟩).acts).2 = .running () := by
  induction acts with
  | nil => exact ⟨rfl, rfl⟩
  | cons act acts ih =>
      obtain ⟨hitems, hend⟩ := ih
      cases act with
      | effect e => exact ⟨hitems, hend⟩
      | yield e =>
          have hacts : (travelling ⟨.yield e :: acts, none⟩).acts
              = .yield e.toFrame :: (travelling ⟨acts, none⟩).acts := rfl
          have hevents : (Act.yield e :: acts).filterMap Act.item?
              = e :: acts.filterMap Act.item? := rfl
          rw [hacts, hevents, Stage.run_yield_next (react_writeFrames settings e),
            List.filterMap_append, List.filter_cons, hitems]
          refine ⟨?_, hend⟩
          cases shows settings e <;> rfl

theorem effects_writeFrames (acts : List (Act TurnEffect ChatEvent)) :
    ((writeFrames settings).run () (travelling ⟨acts, none⟩).acts).1.filterMap Act.effect?
      = acts.filterMap Act.effect? := by
  induction acts with
  | nil => rfl
  | cons act acts ih =>
      cases act with
      | effect e => exact congrArg (e :: ·) ih
      | yield e =>
          have hacts : (travelling ⟨.yield e :: acts, none⟩).acts
              = .yield e.toFrame :: (travelling ⟨acts, none⟩).acts := rfl
          rw [hacts, Stage.run_yield_next (react_writeFrames settings e), List.filterMap_append, ih]
          cases shows settings e <;> rfl

/-- The frames of a turn that does not fail are written without a failure. -/
theorem through_writeFrames (acts : List (Act TurnEffect ChatEvent)) :
    (travelling ⟨acts, none⟩).through (writeFrames settings)
      = ⟨((writeFrames settings).run () (travelling ⟨acts, none⟩).acts).1, none⟩ := by
  rw [Stage.through_eq_read]
  show (writeFrames settings).close none
    ((writeFrames settings).run () (travelling ⟨acts, none⟩).acts) = _
  rw [Stage.close_of_done (fun _ => rfl), (run_writeFrames settings acts).2]
  rfl

/-- The reply to a streamed turn that does not fail holds the frames of its events, as far as they
are shown, and nothing else. -/
theorem streamed_events (id : Text) {flow : Flow TurnEffect ChatEvent} (h : flow.failure = none) :
    (streamed settings id (travelling flow)).1
      = .events id ((flow.items.filter (shows settings)).flatMap ChatEvent.frame) := by
  obtain ⟨acts, failure⟩ := flow
  obtain rfl : failure = none := h
  rw [streamed, through_writeFrames]
  simp only [Flow.items, (run_writeFrames settings acts).1, Option.map_none, Option.getD_none,
    List.append_nil, List.flatMap_def]

/-- Nothing happens besides the turn. -/
theorem streamed_effects (id : Text) {flow : Flow TurnEffect ChatEvent} (h : flow.failure = none) :
    (streamed settings id (travelling flow)).2 = flow.effects := by
  obtain ⟨acts, failure⟩ := flow
  obtain rfl : failure = none := h
  rw [streamed, through_writeFrames]
  simp only [Flow.effects, effects_writeFrames, Option.map_none, Option.toList_none,
    List.append_nil]

/-! ## Which requests are streamed -/

/-- No request is answered with events before a turn is run. -/
theorem route_answered {r : HttpRequest} {reply : HttpReply}
    (h : route settings r = .answered reply) (id text : Text) : reply ≠ .events id text := by
  rintro rfl
  unfold route turnRoute at h
  repeat' split at h
  all_goals cases h

theorem completed_ne_events (id : Text) (flow : Flow TurnEffect Response) (id' text : Text) :
    (completed id flow).1 ≠ .events id' text := by
  intro h
  rw [completed] at h
  split at h
  · dsimp only [failureReply] at h
    split at h <;> cases h
  · split at h <;> cases h

variable {settings} {service : Service} {memory : Memory} {timestamp : Text} {r : HttpRequest}
  {answer : Answer} {signal : Signal}

/-- The events of the streamed turn that answers a request. -/
theorem handle_events {id text : Text}
    (h : (handle settings service memory timestamp r answer signal).1 = .events id text) :
    ∃ input, route settings r = .stream input ∧ id = (service.threadFor memory input).1 ∧
      text = (((service.run (service.threadFor memory input).2
        { input with threadId := some id } answer signal none).1.items.filter
          (shows settings)).flatMap ChatEvent.frame) := by
  rw [handle] at h
  cases hroute : route settings r with
  | health => rw [hroute] at h; cases h
  | healthHead => rw [hroute] at h; cases h
  | answered reply =>
      rw [hroute] at h
      exact absurd h (route_answered settings hroute id text)
  | complete input =>
      rw [hroute] at h
      exact absurd h (completed_ne_events _ _ id text)
  | stream input =>
      simp only [hroute] at h
      split at h
      case isFalse => cases h
      have hfailure : (service.run (service.threadFor memory input).2
          { input with threadId := some (service.threadFor memory input).1 } answer signal none).1.failure
          = none := Turn.run_failure ..
      have hreply := streamed_events settings (service.threadFor memory input).1 hfailure
      obtain ⟨rfl, htext⟩ := HttpReply.events.inj (hreply.symm.trans h)
      exact ⟨input, rfl, rfl, htext.symm⟩

/-- A client that decodes the frames of events, in whatever chunks their bytes arrive, gets the
events without their types, in order; so does the client of a streamed turn, for the events of the
turn without those for debugging, unless debugging is on. -/
theorem events_survive_wire :
    (∀ e : ChatEvent, ∃ ms, e.toJson = .obj ms ∧ e.payload = .obj (Json.without "type" ms) ∧
      Frame.ofEvent (.obj ms) = .ok e.toFrame ∧ e.toFrame.text? = some e.frame) ∧
    (∀ (events : List ChatEvent) (chunks : List (List UInt8)),
      chunks.flatten = Utf8.encode (events.flatMap ChatEvent.frame) →
      (Flow.ofList (chunks.map .bytes) none).through Sse.payloads
        = .ofList (events.map fun e => e.payload.render) none) ∧
    (∀ (settings : Settings) (service : Service) (memory : Memory) (timestamp : Text)
      (r : HttpRequest) (answer : Answer) (signal : Signal) (id text : Text)
      (chunks : List (List UInt8)),
      (handle settings service memory timestamp r answer signal).1 = .events id text →
      chunks.flatten = Utf8.encode text →
      ∃ input, route settings r = .stream input ∧ id = (service.threadFor memory input).1 ∧
        (Flow.ofList (chunks.map .bytes) none).through Sse.payloads
          = .ofList (((service.run (service.threadFor memory input).2
              { input with threadId := some id } answer signal none).1.items.filter
                (shows settings)).map fun e => e.payload.render) none) := by
  refine ⟨?_, ?_, ?_⟩
  · intro e
    obtain ⟨ms, hms, htype, hpayload⟩ := e.payload_eq_without
    refine ⟨ms, hms, hpayload, ?_, e.text?_toFrame⟩
    rw [Frame.ofEvent, htype, ← hpayload]
    rfl
  · intro events chunks hchunks
    exact ChatEvent.payloads_frames events hchunks
  · intro settings service memory timestamp r answer signal id text chunks hreply hchunks
    obtain ⟨input, hroute, hid, rfl⟩ := handle_events hreply
    exact ⟨input, hroute, hid, ChatEvent.payloads_frames _ hchunks⟩

/-- A line feed and half of a surrogate pair. -/
def brokenToken : Text := [10, 0xD800]

/-- A service that shows debugging events, and its endpoint. -/
def openService : Service :=
  ⟨⟨⟨Options.resolve {}, true⟩, fun _ => "id"⟩, ⟨"p", "l", none, .fixed "token"⟩⟩

/-- A request for a streamed turn. -/
def tokenRequest : HttpRequest :=
  .ofParts "POST" "/api/chat/stream" [] (some (Utf8.encode "\x7b\"input\":\"hi\"\x7d"))

/-- An answer of the model that says the broken token. -/
def tokenAnswer : Answer :=
  let message : List Event :=
    [.messageStart ⟨"m1", "claude", "assistant", ⟨.value (.ofNat 10), .value (.ofNat 1)⟩⟩,
      .blockStart (.ofNat 0) (.text brokenToken), .messageStop]
  .responded 200 (some (.hold none (.one
    (Utf8.encode (Sse.written (message.map fun e => ("message", e.toJson)))))))

/-- What the client is shown of the turn. -/
def tokenEvents : List ChatEvent :=
  [.session "id", .token brokenToken, .usage ⟨.value (.ofNat 10), .value (.ofNat 1)⟩,
    .done .stop none]

theorem events_survive_wire_brokenToken :
    (Flow.ofList (((Utf8.encode (tokenEvents.flatMap ChatEvent.frame)).map ([·])).map .bytes)
        none).through Sse.payloads = .ofList (tokenEvents.map fun e => e.payload.render) none ∧
    (handle ⟨false, .null, "l", none⟩ openService .fresh "now" tokenRequest tokenAnswer .never).1
      = .events "id" (tokenEvents.flatMap ChatEvent.frame) ∧
    ∃ input, route ⟨false, .null, "l", none⟩ tokenRequest = .stream input ∧
      "id" = (openService.threadFor .fresh input).1 := by
  have hchunks : ((Utf8.encode (tokenEvents.flatMap ChatEvent.frame)).map ([·])).flatten
      = Utf8.encode (tokenEvents.flatMap ChatEvent.frame) := by
    rw [← List.flatMap_def, List.flatMap_singleton']
  have hreply :
      (handle ⟨false, .null, "l", none⟩ openService .fresh "now" tokenRequest tokenAnswer .never).1
        = .events "id" (tokenEvents.flatMap ChatEvent.frame) := by
    decide +kernel
  obtain ⟨-, hevents, hturn⟩ := events_survive_wire
  obtain ⟨input, hroute, hid, -⟩ := hturn _ _ _ _ _ _ _ _ _ _ hreply hchunks
  exact ⟨hevents tokenEvents _ hchunks, hreply, input, hroute, hid⟩

end Server

end ChatRelay
