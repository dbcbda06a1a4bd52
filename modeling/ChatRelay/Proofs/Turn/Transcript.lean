import ChatRelay.Proofs.Endpoint.Leaving
import ChatRelay.Proofs.Stream.Pace
import ChatRelay.Proofs.Turn.Course
import ChatRelay.Service

/-!
# What the client of a streamed turn sees

A client that reads a turn to its end sees a `Transcript`: first the session, then increments of the
message, then one of four closings (`Closes`), which say how the turn ended. Whatever fails becomes
part of the closing, so that reading the turn never fails itself.

Which closing it is depends on the ending of the course and, for a failed turn, on whether the
client had wanted it to stop by the moment of the failure (`Ending.reason`).

A turn that ends at a response leaves the rest of the answer when its client has received the transcript
and asks for more. A body whose source waits to be asked raises nothing there (`Body.paced_lazy`). But if
the source has run ahead and failed, leaving the body raises its failure (`Answer.Raises`), and the client
is told of another end behind the transcript (`Service.run_transcript`).
-/

namespace ChatRelay

/-- The last but one of the events is of a kind that no other event is of. -/
def ChatEvent.OnlyBeforeLast (kind : Text) (events : List ChatEvent) : Prop :=
  ∃ front e last, events = front ++ [e, last] ∧ e.type = kind ∧ last.type ≠ kind ∧
    ∀ x ∈ front, x.type ≠ kind

/-- What a client sees of a turn that ends for a reason. -/
structure Transcript (events : List ChatEvent) (reason : FinishReason) : Prop where
  session : ∃ threadId rest, events = .session threadId :: rest ∧
    ∀ e ∈ rest, e.type ≠ Text.ofString "session"
  done : ∃ front stopReason, events = front ++ [.done reason stopReason] ∧
    ∀ e ∈ front, e.type ≠ Text.ofString "done"
  error_of : reason = .error → ChatEvent.OnlyBeforeLast "error" events
  error_only : reason ≠ .error → ∀ e ∈ events, e.type ≠ Text.ofString "error"
  usage_of : reason = .stop → ChatEvent.OnlyBeforeLast "usage" events
  usage_only : reason ≠ .stop → ∀ e ∈ events, e.type ≠ Text.ofString "usage"

/-- The events with which a turn closes. -/
inductive Closes : FinishReason → List ChatEvent → Prop where
  | stop (u : Usage) (stopReason : Option Text) : Closes .stop [.usage u, .done .stop stopReason]
  | error (message : Text) (code : Option Text) :
      Closes .error [.error message code, .done .error none]
  | aborted : Closes .aborted [.done .aborted none]
  | incomplete : Closes .incomplete [.done .incomplete none]

/-- The kinds of the events with which a turn closes. -/
def FinishReason.closing : FinishReason → List Text
  | .stop => ["usage", "done"]
  | .error => ["error", "done"]
  | .aborted => ["done"]
  | .incomplete => ["done"]

theorem Closes.types {reason : FinishReason} {tail : List ChatEvent} (h : Closes reason tail) :
    tail.map ChatEvent.type = reason.closing := by
  cases h <;> rfl

namespace Turn

/-- The kinds of the events that tell a message. -/
def increments : List Text := ["token", "tool_use", "debug"]

theorem Increment.type_mem {e : ChatEvent} (h : Increment (.yield e)) : e.type ∈ increments := by
  cases h with
  | token t => exact List.mem_cons_self
  | toolUse tool => exact List.mem_cons_of_mem _ List.mem_cons_self
  | debug message data => exact List.mem_cons_of_mem _ (List.mem_cons_of_mem _ List.mem_cons_self)

end Turn

namespace Transcript

variable {middle tail : List ChatEvent} {reason : FinishReason}

theorem type_ne_of_middle (hmiddle : ∀ e ∈ middle, Turn.Increment (.yield e)) {kind : Text}
    (hkind : kind ∉ Turn.increments) : ∀ e ∈ middle, e.type ≠ kind := by
  rintro e he rfl
  exact hkind (hmiddle e he).type_mem

theorem type_ne_of_tail (h : Closes reason tail) {kind : Text} (hkind : kind ∉ reason.closing) :
    ∀ e ∈ tail, e.type ≠ kind := by
  rintro e he rfl
  exact hkind (h.types ▸ List.mem_map_of_mem he)

/-- A session, increments and a closing are a transcript. -/
theorem of_closes (threadId : Text) (hmiddle : ∀ e ∈ middle, Turn.Increment (.yield e))
    (h : Closes reason tail) :
    Transcript (.session threadId :: (middle ++ tail)) reason := by
  have hrest {kind : Text} (hclosing : kind ∉ reason.closing) (hkind : kind ∉ Turn.increments) :
      ∀ e ∈ middle ++ tail, e.type ≠ kind :=
    List.forall_mem_append.mpr ⟨type_ne_of_middle hmiddle hkind, type_ne_of_tail h hclosing⟩
  have hfront {kind : Text} (hsession : Text.ofString "session" ≠ kind)
      (hkind : kind ∉ Turn.increments) :
      ∀ e ∈ ChatEvent.session threadId :: middle, e.type ≠ kind :=
    List.forall_mem_cons.mpr ⟨hsession, type_ne_of_middle hmiddle hkind⟩
  have herror : Text.ofString "error" ≠ "done" := by decide
  have husage : Text.ofString "usage" ≠ "done" := by decide
  refine ⟨⟨threadId, _, rfl, ?session⟩, ?done, ?error, ?noError, ?usage, ?noUsage⟩
  case session => exact hrest (by cases reason <;> decide) (by decide)
  case done =>
    obtain ⟨before, stopReason, rfl, hbefore⟩ : ∃ before stopReason,
        tail = before ++ [.done reason stopReason] ∧
          ∀ e ∈ before, e.type ≠ Text.ofString "done" := by
      cases h with
      | stop u stopReason =>
          exact ⟨[.usage u], stopReason, rfl, List.forall_mem_singleton.mpr husage⟩
      | error message code =>
          exact ⟨[.error message code], none, rfl, List.forall_mem_singleton.mpr herror⟩
      | aborted | incomplete => exact ⟨[], none, rfl, by simp⟩
    refine ⟨.session threadId :: (middle ++ before), stopReason, by simp, ?_⟩
    rw [← List.cons_append]
    exact List.forall_mem_append.mpr ⟨hfront (by decide) (by decide), hbefore⟩
  case error =>
    rintro rfl
    cases h with
    | error message code =>
        exact ⟨.session threadId :: middle, _, _, rfl, rfl, herror.symm,
          hfront (by decide) (by decide)⟩
  case noError =>
    intro hreason
    have hclosing : Text.ofString "error" ∉ reason.closing := by
      cases reason <;> first | decide | exact absurd rfl hreason
    exact List.forall_mem_cons.mpr ⟨show Text.ofString "session" ≠ "error" by decide,
      hrest hclosing (by decide)⟩
  case usage =>
    rintro rfl
    cases h with
    | stop u stopReason =>
        exact ⟨.session threadId :: middle, _, _, rfl, rfl, husage.symm,
          hfront (by decide) (by decide)⟩
  case noUsage =>
    intro hreason
    have hclosing : Text.ofString "usage" ∉ reason.closing := by
      cases reason <;> first | decide | exact absurd rfl hreason
    exact List.forall_mem_cons.mpr ⟨show Text.ofString "session" ≠ "usage" by decide,
      hrest hclosing (by decide)⟩

theorem reason_of_mem {events : List ChatEvent} (h : Transcript events reason)
    {reason' : FinishReason} {stopReason : Option Text} (hmem : .done reason' stopReason ∈ events) :
    reason = reason' := by
  obtain ⟨front, stopReason', rfl, hfront⟩ := h.done
  rcases List.mem_append.mp hmem with hmem | hmem
  · exact absurd rfl (hfront _ hmem)
  · cases List.mem_singleton.mp hmem
    rfl

end Transcript

/-! ## The transcript of a turn -/

namespace Turn

/-- How the client is told that a turn has ended. -/
def Ending.reason (signal : Signal) : Ending → FinishReason
  | .finished _ => .stop
  | .stopped => .aborted
  | .unfinished => .incomplete
  | .failed moment _ => if signal.fired moment then .aborted else .error

theorem Ending.items_finished (view : View) (complete : Response → List TurnEffect)
    (rescue : Rescue) (r : Response) :
    ((Ending.finished r).flow view complete rescue).items
      = [.usage r.usage, .done .stop (r.stopReason.value?.filter (· ≠ []))] := by
  rw [Ending.flow, Turn.finished, Flow.items, List.filterMap_append, Act.items_effects]
  rfl

theorem closes_failure (signal : Signal) (m : Moment) (f : Failure) :
    Closes (if signal.fired m then .aborted else .error) (failureEvents signal m f) := by
  rw [failureEvents]
  split
  · exact .aborted
  · exact .error _ _

theorem Ending.closes (view : View) (complete : Response → List TurnEffect) (ending : Ending) :
    Closes (ending.reason view.signal) (ending.flow view complete (close view)).items := by
  cases ending with
  | finished r =>
      rw [items_finished]
      exact .stop _ _
  | stopped => exact .aborted
  | unfinished => exact .incomplete
  | failed moment f =>
      rw [Ending.flow, close_items]
      exact closes_failure view.signal moment f

/-- A turn that meets a failure when it leaves the responses has ended at one of them, and its client has
received everything up to the end by then. -/
theorem courseFrom_parting {view : View} {failure : Option Failure} {m moment : Moment}
    {acts : List (Act Effect (Held Response))} {f : Failure} (complete : Response → List TurnEffect)
    (h : (courseFrom view failure m acts).parting = some (moment, f)) :
    (∃ r, .yield r ∈ acts ∧ r.left = some f) ∧
      ((courseFrom view failure m acts).ending.reason view.signal = .stop ∨
        (courseFrom view failure m acts).ending.reason view.signal = .aborted) ∧
      moment.received
        = m.received + ((courseFrom view failure m acts).seen view complete).length := by
  induction acts generalizing m with
  | nil => cases h
  | cons act acts ih =>
      have hlater {m : Moment} (h : (courseFrom view failure m acts).parting = some (moment, f)) :
          ∃ r, .yield r ∈ act :: acts ∧ r.left = some f := by
        obtain ⟨r, hr, hleft⟩ := (ih h).1
        exact ⟨r, List.mem_cons_of_mem act hr, hleft⟩
      cases act with
      | effect e =>
          cases e with
          | log entry | call c => exact ⟨hlater h, (ih h).2⟩
          | poll =>
              rw [courseFrom] at h ⊢
              split at h
              case isTrue => cases h
              case isFalse hfired =>
                rw [if_neg hfired]
                exact ⟨hlater h, (ih h).2⟩
      | yield r =>
          rw [courseFrom] at h ⊢
          split at h
          case isTrue hfired =>
            rw [if_pos hfired]
            obtain ⟨g, hleft, hmoment⟩ := Option.map_eq_some_iff.mp h
            cases hmoment
            exact ⟨⟨r, List.mem_cons_self, hleft⟩, .inr rfl, rfl⟩
          case isFalse hfired =>
            rw [if_neg hfired]
            split at h
            case isTrue hfinal =>
              rw [if_pos hfinal]
              obtain ⟨g, hleft, hmoment⟩ := Option.map_eq_some_iff.mp h
              cases hmoment
              refine ⟨⟨r, List.mem_cons_self, hleft⟩, .inl rfl, ?_⟩
              rw [Course.seen, Ending.items_finished]
              rfl
            case isFalse hfinal =>
              rw [if_neg hfinal]
              obtain ⟨-, hreason, hreceived⟩ := ih h
              refine ⟨hlater h, hreason, hreceived.trans ?_⟩
              rw [Course.seen_after, List.length_append, ← Nat.add_assoc]
              rfl

section

variable (relay : Relay) (transport : Transport) (threads : Threads) (threadId : Text)
  (input : ChatRequest) (signal : Signal)

theorem run_failure : (run relay transport threads threadId input signal).failure = none := by
  rw [run, respond_eq_course]
  exact Course.told_failure ..

/-- What the client of a turn sees up to the ending of its course. -/
def seenOf : List ChatEvent :=
  .session threadId :: (course relay transport threads threadId input signal).seen
    ⟨relay.debugging, threadId, signal⟩ (completion relay threads threadId input)

theorem transcript_seenOf :
    Transcript (seenOf relay transport threads threadId input signal)
      ((course relay transport threads threadId input signal).ending.reason signal) := by
  have hshown := course_shown relay transport threads threadId input signal
  have hitems (e : ChatEvent)
      (he : e ∈ (course relay transport threads threadId input signal).shown.filterMap Act.item?) :
      Increment (.yield e) := by
    obtain ⟨act, hact, hitem⟩ := List.mem_filterMap.mp he
    cases act with
    | effect _ => cases hitem
    | yield e' =>
        cases hitem
        exact hshown _ hact
  have hcloses := Ending.closes ⟨relay.debugging, threadId, signal⟩
    (completion relay threads threadId input)
    (course relay transport threads threadId input signal).ending
  exact Transcript.of_closes threadId hitems hcloses

/-- What is told at a parting. -/
def Parting.events (signal : Signal) : Parting → List ChatEvent
  | none => []
  | some (moment, f) => failureEvents signal moment f

theorem items_run :
    (run relay transport threads threadId input signal).items
      = seenOf relay transport threads threadId input signal
        ++ (course relay transport threads threadId input signal).parting.events signal := by
  have hparting (view : View) (parting : Parting) :
      (parting.flow (close view)).items = parting.events view.signal := by
    cases parting with
    | none => rfl
    | some p => exact close_items view p.1 p.2
  rw [run, respond_eq_course, Flow.items_after, Course.items_told, hparting]
  rfl

theorem type_of_failureEvents {m : Moment} {f : Failure} {e : ChatEvent}
    (h : e ∈ failureEvents signal m f) : e.type = Text.ofString "error" ∨ e.type = Text.ofString "done" := by
  rw [failureEvents] at h
  split at h
  · cases List.mem_singleton.mp h
    exact .inr rfl
  · rcases List.mem_cons.mp h with rfl | h
    · exact .inl rfl
    · cases List.mem_singleton.mp h
      exact .inr rfl

theorem course_parting {moment : Moment} {f : Failure}
    (h : (course relay transport threads threadId input signal).parting = some (moment, f)) :
    (∃ model request r, .yield r ∈ (transport.responses model request).acts ∧ r.left = some f) ∧
      ((course relay transport threads threadId input signal).ending.reason signal = .stop ∨
        (course relay transport threads threadId input signal).ending.reason signal = .aborted) ∧
      moment.received = (seenOf relay transport threads threadId input signal).length := by
  rw [seenOf]
  unfold course at h ⊢
  cases hplan : plan relay.defaults threads threadId input true with
  | error f => rw [hplan] at h; cases h
  | ok p =>
      rw [hplan] at h
      obtain ⟨⟨r, hr, hleft⟩, hreason, hreceived⟩ :=
        courseFrom_parting (completion relay threads threadId input) h
      refine ⟨⟨_, _, r, hr, hleft⟩, hreason, hreceived.trans ?_⟩
      rw [List.length_cons, Nat.add_comm]
      rfl

/-- The client is told the thread first, and nothing behind is about a thread. -/
theorem run_session :
    ∃ rest, (run relay transport threads threadId input signal).items = .session threadId :: rest ∧
      ∀ e ∈ rest, e.type ≠ Text.ofString "session" := by
  obtain ⟨threadId', rest, hseen, hrest⟩ :=
    (transcript_seenOf relay transport threads threadId input signal).session
  obtain ⟨hthread, hsame⟩ := List.cons.inj hseen
  cases hthread
  refine ⟨_, items_run .., List.forall_mem_append.mpr ⟨hsame ▸ hrest, fun e he => ?_⟩⟩
  cases hparting : (course relay transport threads threadId input signal).parting with
  | none =>
      rw [hparting] at he
      cases he
  | some p =>
      rw [hparting] at he
      obtain htype | htype := type_of_failureEvents signal he <;> rw [htype] <;> decide

end

end Turn

/-! ## The turn of a service -/

/-- The course of the turn of a service. -/
def Service.course (s : Service) (m : Memory) (input : ChatRequest) (answer : Answer)
    (signal : Signal) : Turn.Course :=
  let (id, m) := s.threadFor m input
  Turn.course s.relay (s.endpoint.transport answer) m.threads id input signal

/-- Leaving the body of an answer raises a failure behind one of its chunks. -/
def Answer.Raises (answer : Answer) (f : Failure) : Prop :=
  ∃ status body chunk, answer = .responded status (some body) ∧ .yield chunk ∈ body.acts ∧
    chunk.left = some f

theorem Answer.leftBy_raises (answer : Answer) :
    answer.LeftBy fun left => ∀ f, left = some f → answer.Raises f :=
  fun status body hanswer chunk hchunk _ hleft => ⟨status, body, chunk, hanswer, hchunk, hleft⟩

/-- A turn that is read to its end never fails: it shows a transcript. If it has failed after the
client wanted it to stop, then that is what the transcript says.

A turn that has ended at a response leaves the rest of the answer when its client has received the
transcript and asks for more. Where that raises a failure of the body, the client is told of it behind the
transcript, as of any other failure. -/
theorem Service.run_transcript (s : Service) (m : Memory) (input : ChatRequest) (answer : Answer)
    (signal : Signal) :
    (s.run m input answer signal none).1.failure = none ∧
      ∃ events reason, Transcript events reason ∧
        (∀ moment f, (s.course m input answer signal).ending = .failed moment f →
          signal.fired moment = true → reason = .aborted) ∧
        ((s.course m input answer signal).parting = none →
          (s.run m input answer signal none).1.items = events) ∧
        ∀ moment f, (s.course m input answer signal).parting = some (moment, f) →
          (reason = .stop ∨ reason = .aborted) ∧ answer.Raises f ∧
            moment.received = events.length ∧
            (s.run m input answer signal none).1.items
              = events ++ if signal.fired moment then [.done .aborted none]
                else [.error f.message (some (f.code?.getD "CHAT_STREAM_FAILED")), .done .error none] := by
  have hitems := Turn.items_run s.relay (s.endpoint.transport answer) (s.threadFor m input).2.threads
    (s.threadFor m input).1 input signal
  refine ⟨Turn.run_failure .., _, (s.course m input answer signal).ending.reason signal,
    Turn.transcript_seenOf .., ?failed, ?kept, ?told⟩
  case failed =>
    intro moment f hending hfired
    rw [hending, Turn.Ending.reason, hfired]
    rfl
  case kept =>
    intro hparting
    have hparting : (Turn.course s.relay (s.endpoint.transport answer)
      (s.threadFor m input).2.threads (s.threadFor m input).1 input signal).parting = none := hparting
    rw [hparting] at hitems
    exact hitems.trans (List.append_nil _)
  case told =>
    intro moment f hparting
    have hparting : (Turn.course s.relay (s.endpoint.transport answer)
      (s.threadFor m input).2.threads (s.threadFor m input).1 input signal).parting
        = some (moment, f) := hparting
    obtain ⟨⟨model, request, r, hr, hleft⟩, hreason, hreceived⟩ := Turn.course_parting _ _ _ _ _ _ hparting
    rw [hparting] at hitems
    refine ⟨hreason, ?_, hreceived, hitems⟩
    exact Endpoint.left_responses answer.leftBy_raises (fun f hf => by cases hf) r hr f hleft

/-- A service with a token of its own. -/
def plainService : Service :=
  ⟨⟨⟨Options.resolve {}, false⟩, fun _ => "id"⟩, ⟨"p", "l", none, .fixed "token"⟩⟩

/-- A request that says hello. -/
def helloRequest : ChatRequest := { input := some "hello" }

/-- A body that brings a whole message of two pieces in one chunk and fails behind it. -/
def brokenBody : Body (List UInt8) :=
  let message : List Event :=
    [.messageStart ⟨"m1", "claude", "assistant", ⟨.value (.ofNat 1), .value (.ofNat 1)⟩⟩,
      .blockStart (.ofNat 0) (.text "Hi"), .blockDelta (.ofNat 0) (.text "!"), .blockStop (.ofNat 0),
      .messageStop]
  ⟨[Utf8.encode (message.flatMap fun e => Sse.frame "message" e.toJson)], some (.error "boom")⟩

/-- The answer with this body, at a pace of its source. -/
def brokenAnswer (pace : Nat → Nat) : Answer := .responded 200 (some (brokenBody.paced pace))

/-- What the client is told of the message. -/
def toldMessage : List ChatEvent :=
  [.session "id", .token "Hi", .token "!", .usage ⟨.value (.ofNat 1), .value (.ofNat 1)⟩, .done .stop none]

theorem items_brokenAnswer :
    (plainService.run .fresh helloRequest (brokenAnswer fun _ => 1) .never none).1.items
      = toldMessage ++ [.error "boom" (some "CHAT_STREAM_FAILED"), .done .error none] := by
  decide +kernel

theorem Service.run_transcript_brokenBody :
    ((plainService.course .fresh helloRequest (brokenAnswer fun _ => 1) .never).parting
        = some (⟨5, 7⟩, .error "boom") ∧
      ∃ events reason, Transcript events reason ∧
        (plainService.run .fresh helloRequest (brokenAnswer fun _ => 1) .never none).1.items
          = events ++ [.error "boom" (some "CHAT_STREAM_FAILED"), .done .error none]) ∧
    ((plainService.course .fresh helloRequest (brokenAnswer fun _ => 1) (.afterEvents 2)).parting
        = some (⟨3, 6⟩, .error "boom") ∧
      ∃ events reason, Transcript events reason ∧
        (plainService.run .fresh helloRequest (brokenAnswer fun _ => 1) (.afterEvents 2) none).1.items
          = events ++ [.done .aborted none]) ∧
    ((plainService.course .fresh helloRequest (brokenAnswer fun _ => 0) .never).parting = none ∧
      ∃ reason, Transcript
        (plainService.run .fresh helloRequest (brokenAnswer fun _ => 0) .never none).1.items reason) ∧
    (plainService.course .fresh helloRequest (.failed (.error "reset")) (.afterEvents 1)).ending
        = .failed ⟨1, 2⟩ .aborted ∧
      Transcript (plainService.run .fresh helloRequest (.failed (.error "reset")) (.afterEvents 1)
        none).1.items .aborted := by
  refine ⟨?ahead, ?stopped, ?waiting, ?refused⟩
  case ahead =>
    have hparting : (plainService.course .fresh helloRequest (brokenAnswer fun _ => 1) .never).parting
        = some (⟨5, 7⟩, .error "boom") := by decide +kernel
    obtain ⟨-, events, reason, htranscript, -, -, htold⟩ :=
      run_transcript plainService .fresh helloRequest (brokenAnswer fun _ => 1) .never
    exact ⟨hparting, events, reason, htranscript, (htold _ _ hparting).2.2.2⟩
  case stopped =>
    have hparting : (plainService.course .fresh helloRequest (brokenAnswer fun _ => 1)
        (.afterEvents 2)).parting = some (⟨3, 6⟩, .error "boom") := by decide +kernel
    obtain ⟨-, events, reason, htranscript, -, -, htold⟩ :=
      run_transcript plainService .fresh helloRequest (brokenAnswer fun _ => 1) (.afterEvents 2)
    exact ⟨hparting, events, reason, htranscript, (htold _ _ hparting).2.2.2⟩
  case waiting =>
    have hparting : (plainService.course .fresh helloRequest (brokenAnswer fun _ => 0) .never).parting
        = none := by decide +kernel
    obtain ⟨-, events, reason, htranscript, -, hkept, -⟩ :=
      run_transcript plainService .fresh helloRequest (brokenAnswer fun _ => 0) .never
    exact ⟨hparting, reason, hkept hparting ▸ htranscript⟩
  case refused =>
    have hending : (plainService.course .fresh helloRequest (.failed (.error "reset"))
        (.afterEvents 1)).ending = .failed ⟨1, 2⟩ .aborted := rfl
    obtain ⟨-, events, reason, htranscript, hfailed, hkept, -⟩ :=
      run_transcript plainService .fresh helloRequest (.failed (.error "reset")) (.afterEvents 1)
    rw [hkept rfl]
    exact ⟨hending, hfailed _ _ hending rfl ▸ htranscript⟩

/-- So a client may be told of two ends: that the model has finished, and behind it that the turn has
failed. -/
theorem Service.end_told_twice :
    ¬ ∀ (s : Service) (m : Memory) (input : ChatRequest) (status : Nat) (body : Body (List UInt8))
        (pace : Nat → Nat) (signal : Signal),
        ∃ reason, Transcript
          (s.run m input (.responded status (some (body.paced pace))) signal none).1.items reason := by
  intro h
  obtain ⟨reason, htranscript⟩ := h plainService .fresh helloRequest 200 brokenBody (fun _ => 1) .never
  have hitems := items_brokenAnswer
  rw [brokenAnswer] at hitems
  rw [hitems] at htranscript
  obtain ⟨front, stopReason, hevents, hfront⟩ := htranscript.done
  have hbefore := congrArg List.dropLast hevents
  rw [List.dropLast_concat] at hbefore
  have htold : ChatEvent.done .stop none ∈ front := by
    rw [← hbefore]
    decide +kernel
  exact hfront _ htold rfl

end ChatRelay
