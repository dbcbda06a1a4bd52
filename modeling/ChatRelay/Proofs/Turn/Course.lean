import ChatRelay.Proofs.Stream.Stage
import ChatRelay.Turn.Run

/-!
# The course of a turn

Whatever the transport does and whenever the client wants to stop, a streamed turn shows increments
of the message for a while and then ends in one of four ways (`Ending`). An ending at a response leaves
the responses behind it, and that may fail (`Parting`). `courseFrom` says what is shown, which ending it
comes to and what the parting was like; how the turn is completed and what is done about a failure has
no part in it. `eventsFrom_eq_course` is the law that ties it to the events of a turn: they are what
is shown, behind it what happens at the ending and at last what happens at the parting.

The lemmas about the shown part and about the endings are inductions on the course. What is known of
whole turns follows from the law and a case split on the ending.
-/

namespace ChatRelay

namespace Turn

/-- How a streamed turn ends: the model has finished its message, the client has stopped the turn
when a response arrived, the responses have ended too early, or something has failed. -/
inductive Ending where
  | finished (r : Response)
  | stopped
  | unfinished
  | failed (moment : Moment) (f : Failure)

/-- What happens at an ending. -/
def Ending.flow (view : View) (complete : Response → List TurnEffect) (rescue : Rescue) :
    Ending → Flow TurnEffect ChatEvent
  | .finished r => ⟨Turn.finished view r (complete r), none⟩
  | .stopped => ⟨[.yield (.done .aborted none)], none⟩
  | .unfinished => ⟨Turn.unfinished view, none⟩
  | .failed moment f => rescue moment f

/-- What leaving the responses has raised, if it has raised anything, and when. -/
abbrev Parting := Option (Moment × Failure)

/-- What happens at a parting. -/
def Parting.flow (rescue : Rescue) : Parting → Flow TurnEffect ChatEvent
  | none => .done
  | some (moment, f) => rescue moment f

/-- What is shown of a message, the ending, and the parting from the responses. -/
structure Course where
  shown : List (Act TurnEffect ChatEvent)
  ending : Ending
  parting : Parting

/-- A course with something before it. -/
def Course.after (acts : List (Act TurnEffect ChatEvent)) (c : Course) : Course :=
  ⟨acts ++ c.shown, c.ending, c.parting⟩

/-- The course from a moment on, over the rest of a sequence of responses. -/
def courseFrom (view : View) (failure : Option Failure) :
    Moment → List (Act Effect (Held Response)) → Course
  | m, [] => ⟨[], failure.elim .unfinished (.failed m), none⟩
  | m, .effect (.log entry) :: acts =>
    (courseFrom view failure m.step acts).after [.effect (.log entry)]
  | m, .effect (.call c) :: acts => (courseFrom view failure m.step acts).after [.effect (.call c)]
  | m, .effect .poll :: acts =>
    if view.signal.fired m then ⟨[], .failed m .aborted, none⟩
    else courseFrom view failure m.step acts
  | m, .yield r :: acts =>
    if view.signal.fired m then ⟨[], .stopped, r.left.map (m.step.receive 1, ·)⟩
    else if r.item.isFinal then ⟨[], .finished r.item, r.left.map (m.step.receive 2, ·)⟩
    else
      let events := ChatEvent.ofIncrement view.debugging r.item
      (courseFrom view failure (m.step.receive events.length) acts).after (events.map .yield)

/-- What happens in a course. -/
def Course.told (view : View) (complete : Response → List TurnEffect) (rescue : Rescue)
    (c : Course) : Flow TurnEffect ChatEvent :=
  ((c.ending.flow view complete rescue).andThen (c.parting.flow rescue)).after c.shown

theorem leave_eq_parting (rescue : Rescue) (m : Moment) (left : Option Failure) :
    leave rescue m left = Parting.flow rescue (left.map (m, ·)) := by
  cases left <;> rfl

/-- A turn that leaves no responses behind goes no further than its ending. -/
theorem told_ending (view : View) (complete : Response → List TurnEffect) (rescue : Rescue)
    (ending : Ending) :
    Course.told view complete rescue ⟨[], ending, none⟩ = ending.flow view complete rescue := by
  rw [Course.told, Parting.flow, Flow.andThen_done]
  rfl

/-- The events of a turn are what happens in its course. -/
theorem eventsFrom_eq_course (view : View) (complete : Response → List TurnEffect)
    (rescue : Rescue) (failure : Option Failure) (m : Moment)
    (acts : List (Act Effect (Held Response))) :
    eventsFrom view complete rescue failure m acts
      = (courseFrom view failure m acts).told view complete rescue := by
  induction acts generalizing m with
  | nil =>
      cases failure with
      | none => exact (told_ending view complete rescue .unfinished).symm
      | some f => exact (told_ending view complete rescue (.failed m f)).symm
  | cons act acts ih =>
      cases act with
      | effect e =>
          cases e with
          | log entry | call c =>
              rw [eventsFrom, courseFrom, ih, Course.told, Flow.after_after]
              rfl
          | poll =>
              rw [eventsFrom, courseFrom]
              split
              · exact (told_ending view complete rescue (.failed m .aborted)).symm
              · exact ih m.step
      | yield r =>
          rw [eventsFrom, courseFrom]
          split
          · rw [leave_eq_parting]
            rfl
          · split
            · rw [leave_eq_parting]
              rfl
            · dsimp only
              rw [ih, Course.told, Flow.after_after]
              rfl

/-! ## What is shown -/

/-- A log entry, a call, or an event that tells a part of the message. -/
inductive Increment : Act TurnEffect ChatEvent → Prop where
  | log (entry : Log.Entry) : Increment (.effect (.log entry))
  | call (c : Call) : Increment (.effect (.call c))
  | token (t : Text) : Increment (.yield (.token t))
  | toolUse (tool : ToolUse) : Increment (.yield (.toolUse tool))
  | debug (message : Text) (data : Option Json) : Increment (.yield (.debug message data))

theorem increment_ofBlock (b : Block) : Increment (.yield (.ofBlock b)) := by
  rw [ChatEvent.ofBlock]
  split
  · exact .toolUse _
  · exact .token _

theorem increment_ofIncrement {debugging : Bool} {r : Response} {e : ChatEvent}
    (h : e ∈ ChatEvent.ofIncrement debugging r) : Increment (.yield e) := by
  rw [ChatEvent.ofIncrement] at h
  rcases List.mem_append.mp h with hblock | hdebug
  · obtain ⟨b, -, rfl⟩ := List.mem_map.mp hblock
    exact increment_ofBlock b
  · split at hdebug
    · rw [List.mem_singleton.mp hdebug]
      exact .debug _ _
    · cases hdebug

theorem courseFrom_shown (view : View) (failure : Option Failure) (m : Moment)
    (acts : List (Act Effect (Held Response))) :
    ∀ act ∈ (courseFrom view failure m acts).shown, Increment act := by
  induction acts generalizing m with
  | nil => simp [courseFrom]
  | cons act acts ih =>
      cases act with
      | effect e =>
          cases e with
          | log entry =>
              rw [courseFrom]
              exact List.forall_mem_cons.mpr ⟨.log entry, ih m.step⟩
          | call c =>
              rw [courseFrom]
              exact List.forall_mem_cons.mpr ⟨.call c, ih m.step⟩
          | poll =>
              rw [courseFrom]
              split
              · simp
              · exact ih m.step
      | yield r =>
          rw [courseFrom]
          split
          · simp
          · split
            · simp
            · intro act hact
              rcases List.mem_append.mp hact with hevent | hlater
              · obtain ⟨e, he, rfl⟩ := List.mem_map.mp hevent
                exact increment_ofIncrement he
              · exact ih _ act hlater

/-! ## The endings -/

/-- The response that finishes a turn is the first final one. -/
theorem courseFrom_finished {view : View} {failure : Option Failure} {m : Moment}
    {acts : List (Act Effect (Held Response))} {r : Response}
    (h : (courseFrom view failure m acts).ending = .finished r) :
    ((acts.filterMap Act.item?).map Held.item).find? Response.isFinal = some r := by
  induction acts generalizing m with
  | nil => cases failure <;> cases h
  | cons act acts ih =>
      cases act with
      | effect e =>
          cases e with
          | log entry | call c => exact ih h
          | poll =>
              rw [courseFrom] at h
              split at h
              · cases h
              · exact ih h
      | yield r' =>
          rw [courseFrom] at h
          show (r'.item :: (acts.filterMap Act.item?).map Held.item).find? Response.isFinal = some r
          rw [List.find?_cons]
          split at h
          · cases h
          · split at h
            case isTrue hfinal =>
              cases h
              rw [hfinal]
            case isFalse hfinal =>
              rw [Bool.eq_false_iff.mpr hfinal]
              exact ih h

/-! ## Turns whose failures are told

A failure that becomes an event ends nothing, so a turn in which this is done about every failure does not
fail itself: the ending and the parting are told one behind the other.
-/

section

variable (view : View) (complete : Response → List TurnEffect)

theorem close_failure (m : Moment) (f : Failure) : (close view m f).failure = none := by
  rw [close]
  split <;> rfl

/-- The events with which a client is told of a failure at a moment. -/
def failureEvents (signal : Signal) (m : Moment) (f : Failure) : List ChatEvent :=
  if signal.fired m then [.done .aborted none]
  else [.error f.message (some (f.code?.getD "CHAT_STREAM_FAILED")), .done .error none]

theorem close_items (m : Moment) (f : Failure) :
    (close view m f).items = failureEvents view.signal m f := by
  rw [close, failureEvents]
  split <;> rfl

/-- A failure that is told is logged. -/
theorem close_effects (m : Moment) (f : Failure) :
    ∃ entry, (close view m f).effects = [.log entry] := by
  rw [close]
  split <;> exact ⟨_, rfl⟩

theorem Ending.flow_failure (ending : Ending) :
    (ending.flow view complete (close view)).failure = none := by
  cases ending with
  | finished r | stopped | unfinished => rfl
  | failed moment f => exact close_failure view moment f

theorem Parting.flow_failure (parting : Parting) :
    (parting.flow (close view)).failure = none := by
  cases parting with
  | none => rfl
  | some p => exact close_failure view p.1 p.2

/-- A parting leaves nothing but log entries. -/
theorem Parting.effects_log (parting : Parting) :
    ∀ e ∈ (parting.flow (close view)).effects, ∃ entry, e = .log entry := by
  cases parting with
  | none => exact fun e he => by cases he
  | some p =>
      obtain ⟨entry, heffects⟩ := close_effects view p.1 p.2
      intro e he
      rw [flow, heffects] at he
      exact ⟨entry, List.mem_singleton.mp he⟩

/-- So what is looked for besides log entries is not found among its effects. -/
theorem Parting.filterMap_effects {β : Type} {kind : TurnEffect → Option β}
    (hkind : ∀ entry, kind (.log entry) = none) (parting : Parting) :
    (parting.flow (close view)).effects.filterMap kind = [] := by
  refine List.filterMap_eq_nil_iff.mpr fun e he => ?_
  obtain ⟨entry, rfl⟩ := parting.effects_log view e he
  exact hkind entry

theorem Course.told_eq (c : Course) :
    c.told view complete (close view)
      = ((c.parting.flow (close view)).after
          (c.ending.flow view complete (close view)).acts).after c.shown := by
  rw [told, Flow.andThen, c.ending.flow_failure view complete]

theorem Course.told_failure (c : Course) : (c.told view complete (close view)).failure = none := by
  rw [told_eq]
  exact c.parting.flow_failure view

/-- What the client of a course sees up to the ending. -/
def Course.seen (c : Course) : List ChatEvent :=
  c.shown.filterMap Act.item? ++ (c.ending.flow view complete (close view)).items

theorem Course.seen_after (events : List ChatEvent) (c : Course) :
    (c.after (events.map .yield)).seen view complete = events ++ c.seen view complete := by
  dsimp only [seen, after]
  rw [List.filterMap_append, Act.items_yields, List.append_assoc]

theorem Course.items_told (c : Course) :
    (c.told view complete (close view)).items
      = c.seen view complete ++ (c.parting.flow (close view)).items := by
  rw [told_eq, Flow.items_after, Flow.items_after, seen, List.append_assoc]
  rfl

theorem Course.effects_told (c : Course) :
    (c.told view complete (close view)).effects
      = c.shown.filterMap Act.effect? ++ ((c.ending.flow view complete (close view)).effects
          ++ (c.parting.flow (close view)).effects) := by
  rw [told_eq, Flow.effects_after, Flow.effects_after]
  rfl

end

/-! ## The course of a whole turn -/

section

variable (relay : Relay) (transport : Transport) (threads : Threads) (threadId : Text)
  (input : ChatRequest) (signal : Signal)

/-- The course of a turn once the client knows the thread. A turn that cannot be planned has failed
by then. -/
def course : Course :=
  let begun := Moment.start.receive 1
  match plan relay.defaults threads threadId input true with
  | .error f => ⟨[], .failed begun f, none⟩
  | .ok p =>
    let responses := transport.responses p.model p.request.toJson
    courseFrom ⟨relay.debugging, threadId, signal⟩ responses.failure begun responses.acts

/-- What completes the turn when the model has answered. -/
def completion (r : Response) : List TurnEffect :=
  match plan relay.defaults threads threadId input true with
  | .error _ => []
  | .ok p => p.commit r

theorem respond_eq_course :
    respond relay transport threads threadId input signal
      = (course relay transport threads threadId input signal).told
          ⟨relay.debugging, threadId, signal⟩ (completion relay threads threadId input)
          (close ⟨relay.debugging, threadId, signal⟩) := by
  unfold respond course completion
  cases plan relay.defaults threads threadId input true with
  | error f =>
      have hfailed := told_ending ⟨relay.debugging, threadId, signal⟩ (fun _ => [])
        (close ⟨relay.debugging, threadId, signal⟩) (.failed (Moment.start.receive 1) f)
      exact hfailed.symm
  | ok p => exact eventsFrom_eq_course ..

theorem course_shown :
    ∀ act ∈ (course relay transport threads threadId input signal).shown, Increment act := by
  unfold course
  cases plan relay.defaults threads threadId input true with
  | error f => simp
  | ok p => exact courseFrom_shown _ _ _ _

end

end Turn

end ChatRelay
