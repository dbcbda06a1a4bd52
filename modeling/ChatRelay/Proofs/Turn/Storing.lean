import ChatRelay.Proofs.Turn.Transcript

/-!
# What a turn stores

A turn changes the threads by the writes among its effects. A streamed turn has the one write of
`record`, for the response that finished the message, or none at all (`run_writes`); a turn that is
answered as a whole has it for the response that came back (`complete_cases`). What this means for
the histories is `Keeps`: the thread of the turn grows by the message of the user and the reply, and
nothing else changes.
-/

namespace ChatRelay

/-! ## Histories -/

namespace Threads

variable (ts : Threads) (id other : Text) (history : List Message)

theorem history?_put_self : (ts.put id history).history? id = some history := by
  rw [history?, put, List.lookup_cons, beq_self_eq_true]

theorem history?_put_other (h : other ≠ id) :
    (ts.put id history).history? other = ts.history? other := by
  have hfilter : ∀ entries : List (Text × List Message),
      (entries.filter (·.1 ≠ id)).lookup other = entries.lookup other := by
    intro entries
    induction entries with
    | nil => rfl
    | cons entry entries ih =>
        obtain ⟨key, value⟩ := entry
        by_cases hkey : key = id
        · rw [List.filter_cons_of_neg (by simpa using hkey), List.lookup_cons, ih,
            beq_false_of_ne (hkey ▸ h)]
        · rw [List.filter_cons_of_pos (by simpa using hkey), List.lookup_cons, List.lookup_cons, ih]
  rw [history?, put, List.lookup_cons, beq_false_of_ne h]
  exact hfilter ts.entries

theorem messages_put_self : (ts.put id history).messages id = history := by
  rw [messages, history?_put_self]
  rfl

theorem messages_put_other (h : other ≠ id) :
    (ts.put id history).messages other = ts.messages other := by
  rw [messages, history?_put_other _ _ _ _ h]
  rfl

end Threads

/-! ## Writes -/

namespace TurnEffect

/-- The histories that a list of effects stores, with their threads. -/
def writes (effects : List TurnEffect) : List (Text × List Message) :=
  effects.filterMap fun
    | .store id history => some (id, history)
    | _ => none

theorem writes_append (first second : List TurnEffect) :
    writes (first ++ second) = writes first ++ writes second := List.filterMap_append

theorem writes_cons {e : TurnEffect} (h : writes [e] = []) (effects : List TurnEffect) :
    writes (e :: effects) = writes effects := by
  have happend := writes_append [e] effects
  rwa [h] at happend

theorem stored_eq_writes (effects : List TurnEffect) (threads : Threads) :
    stored effects threads = (writes effects).foldl (fun ts w => ts.put w.1 w.2) threads := by
  induction effects generalizing threads with
  | nil => rfl
  | cons e effects ih => cases e <;> exact ih _

end TurnEffect

namespace Turn

open TurnEffect

/-- The write of a turn to which the model has replied. An empty reply is not stored. -/
def record (threads : Threads) (threadId : Text) (input : ChatRequest) (reply : Response) :
    List (Text × List Message) :=
  match input.userMessage with
  | .error _ => []
  | .ok message =>
    if reply.content.isEmpty then []
    else [(threadId, threads.messages threadId ++ [message, reply.toMessage])]

theorem writes_commit {defaults : Options} {threads : Threads} {threadId : Text}
    {input : ChatRequest} {stream : Bool} {p : Plan}
    (h : plan defaults threads threadId input stream = .ok p) (r : Response) :
    writes (p.commit r) = record threads threadId input r := by
  rw [plan] at h
  rw [record]
  cases hmessage : input.userMessage with
  | error f => rw [hmessage] at h; cases h
  | ok message =>
      rw [hmessage] at h
      cases h
      rw [Plan.commit]
      split
      · rfl
      · exact congrArg (fun history => [(threadId, history)]) (List.append_assoc _ [message] _)

theorem writes_increments {shown : List (Act TurnEffect ChatEvent)}
    (h : ∀ act ∈ shown, Increment act) : writes (shown.filterMap Act.effect?) = [] := by
  induction shown with
  | nil => rfl
  | cons act shown ih =>
      obtain ⟨hact, hshown⟩ := List.forall_mem_cons.mp h
      cases hact <;> exact ih hshown

/-- A turn that has finished logs so behind what its completion does. -/
theorem Ending.effects_finished (view : View) (complete : Response → List TurnEffect)
    (rescue : Rescue) (r : Response) :
    ∃ entry, ((Ending.finished r).flow view complete rescue).effects = complete r ++ [.log entry] := by
  rw [Ending.flow, Turn.finished, Flow.effects, List.filterMap_append, Act.effects_effects]
  exact ⟨_, rfl⟩

theorem Ending.writes_flow (view : View) (complete : Response → List TurnEffect)
    (ending : Ending) :
    writes (ending.flow view complete (close view)).effects
      = match ending with
        | .finished r => writes (complete r)
        | _ => [] := by
  cases ending with
  | finished r =>
      obtain ⟨entry, heffects⟩ := Ending.effects_finished view complete (close view) r
      rw [heffects, writes_append]
      exact List.append_nil _
  | stopped | unfinished => rfl
  | failed moment f =>
      obtain ⟨entry, heffects⟩ := close_effects view moment f
      exact congrArg writes heffects

/-! ## Streamed turns -/

section

variable {relay : Relay} {transport : Transport} {threads : Threads} {threadId : Text}
  {input : ChatRequest} {signal : Signal} {r : Response}

variable (relay transport threads threadId input) in
/-- The responses that the transport streams for a turn. -/
def streamed : List Response :=
  match plan relay.defaults threads threadId input true with
  | .error _ => []
  | .ok p => (transport.stream p.model p.request.toJson).items

theorem plan_message {defaults : Options} {stream : Bool} {p : Plan}
    (h : plan defaults threads threadId input stream = .ok p) :
    ∃ message, input.userMessage = .ok message := by
  rw [plan] at h
  cases hmessage : input.userMessage with
  | error f => rw [hmessage] at h; cases h
  | ok message => exact ⟨message, rfl⟩

theorem course_finished
    (h : (course relay transport threads threadId input signal).ending = .finished r) :
    (∃ message, input.userMessage = .ok message) ∧
      (streamed relay transport threads threadId input).find? Response.isFinal = some r ∧
      writes (completion relay threads threadId input r) = record threads threadId input r := by
  unfold course at h
  unfold streamed completion
  cases hplan : plan relay.defaults threads threadId input true with
  | error f => rw [hplan] at h; cases h
  | ok p =>
      rw [hplan] at h
      dsimp only
      rw [Transport.stream, Flow.items_bare]
      exact ⟨plan_message hplan, courseFrom_finished h, writes_commit hplan r⟩

/-- The response that has finished a turn. -/
def Ending.reply? : Ending → Option Response
  | .finished r => some r
  | _ => none

/-- Behind a parting no client is told that the model has finished. -/
theorem Parting.stop_notMem_events (parting : Parting) (stopReason : Option Text) :
    .done .stop stopReason ∉ parting.events signal := by
  cases parting with
  | none => exact List.not_mem_nil
  | some p =>
      rw [events, failureEvents]
      split <;> simp

/-- The client of a streamed turn is told that the model has finished exactly if it has. -/
theorem told_stop_iff :
    (∃ stopReason, .done .stop stopReason ∈ (run relay transport threads threadId input signal).items)
      ↔ (course relay transport threads threadId input signal).ending.reply?.isSome := by
  have htranscript := transcript_seenOf relay transport threads threadId input signal
  rw [items_run]
  constructor
  · rintro ⟨stopReason, hstop⟩
    have hreason := htranscript.reason_of_mem
      ((List.mem_append.mp hstop).resolve_right (Parting.stop_notMem_events _ stopReason))
    cases hending : (course relay transport threads threadId input signal).ending with
    | finished r => rfl
    | stopped | unfinished => rw [hending] at hreason; cases hreason
    | failed moment f =>
        rw [hending, Ending.reason] at hreason
        split at hreason <;> cases hreason
  · intro hreply
    obtain ⟨front, stopReason, hevents, -⟩ := htranscript.done
    cases hending : (course relay transport threads threadId input signal).ending with
    | finished r =>
        rw [hending] at hevents
        refine ⟨stopReason, List.mem_append_left _ ?_⟩
        rw [hevents]
        exact List.mem_append_right _ List.mem_cons_self
    | stopped | unfinished | failed => rw [hending] at hreply; cases hreply

/-- The client was told that the model had finished, with a given response. -/
def Replied (events : List ChatEvent) (responses : List Response) (r : Response) : Prop :=
  (∃ stopReason, .done .stop stopReason ∈ events) ∧ responses.find? Response.isFinal = some r

theorem replied_iff :
    Replied (run relay transport threads threadId input signal).items
        (streamed relay transport threads threadId input) r
      ↔ (course relay transport threads threadId input signal).ending = .finished r := by
  constructor
  · rintro ⟨hstop, hfind⟩
    have hreply := told_stop_iff.mp hstop
    cases hending : (course relay transport threads threadId input signal).ending with
    | finished r' =>
        have hfind' := (course_finished hending).2.1
        rw [hfind] at hfind'
        cases hfind'
        rfl
    | stopped | unfinished | failed => rw [hending] at hreply; cases hreply
  · intro hending
    exact ⟨told_stop_iff.mpr (by rw [hending]; rfl), (course_finished hending).2.1⟩

/-- The writes of a streamed turn are those of its ending. -/
theorem run_writes :
    writes (run relay transport threads threadId input signal).effects
      = match (course relay transport threads threadId input signal).ending with
        | .finished r => record threads threadId input r
        | _ => [] := by
  have hshown := writes_increments (course_shown relay transport threads threadId input signal)
  have hparting : writes ((course relay transport threads threadId input signal).parting.flow
      (close ⟨relay.debugging, threadId, signal⟩)).effects = [] :=
    Parting.filterMap_effects _ (fun _ => rfl) _
  rw [run, respond_eq_course, Flow.effects_after, Course.effects_told, writes_append, writes_append,
    writes_append, hshown, hparting, Ending.writes_flow, List.append_nil]
  cases hending : (course relay transport threads threadId input signal).ending with
  | finished r => exact (course_finished hending).2.2
  | stopped | unfinished | failed => rfl

/-! ## Turns that are answered as a whole -/

/-- What is awaited under a signal: effects that write nothing, and an item or a failure. -/
inductive Awaited {α : Type} : Flow TurnEffect α → Prop where
  | gives (effects : List TurnEffect) (a : α) (quiet : writes effects = []) :
      Awaited ⟨effects.map .effect ++ [.yield a], none⟩
  | fails (effects : List TurnEffect) (f : Failure) (quiet : writes effects = []) :
      Awaited ⟨effects.map .effect, some f⟩

theorem Awaited.after {α : Type} {flow : Flow TurnEffect α} (h : Awaited flow) {e : TurnEffect}
    (he : writes [e] = []) : Awaited (flow.after [.effect e]) := by
  cases h with
  | gives effects a quiet => exact .gives (e :: effects) a ((writes_cons he effects).trans quiet)
  | fails effects f quiet => exact .fails (e :: effects) f ((writes_cons he effects).trans quiet)

theorem attendFrom_awaited {α : Type} {failure : Option Failure} {rest : List (Act Effect α)}
    (hrest : ∀ m, Awaited (attendFrom signal failure m rest)) (effects : List Effect) (m : Moment) :
    Awaited (attendFrom signal failure m (effects.map .effect ++ rest)) := by
  induction effects generalizing m with
  | nil => exact hrest m
  | cons e effects ih =>
      cases e with
      | log entry | call c => exact (ih m.step).after rfl
      | poll =>
          rw [List.map_cons, List.cons_append, attendFrom]
          split
          · exact .fails [] _ rfl
          · exact ih m.step

variable (signal) in
theorem attend_awaited {α : Type} {source : Flow Effect α} (h : source.Once) :
    Awaited (attend signal source) := by
  cases h with
  | gives effects a => exact attendFrom_awaited (fun m => .gives [] a rfl) effects _
  | fails effects f =>
      have hrest (m : Moment) : Awaited (attendFrom signal (some f) m ([] : List (Act Effect α))) :=
        .fails [] f rfl
      have := attendFrom_awaited hrest effects .start
      rw [List.append_nil] at this
      exact this

variable (relay transport threads threadId input signal) in
/-- The transport has returned a response. -/
def Returned (r : Response) : Prop :=
  ∃ p, plan relay.defaults threads threadId input false = .ok p ∧
    r ∈ (attend signal (transport.complete p.model p.request.toJson)).items

theorem returned_iff {p : Plan} (h : plan relay.defaults threads threadId input false = .ok p) :
    Returned relay transport threads threadId input signal r
      ↔ r ∈ (attend signal (transport.complete p.model p.request.toJson)).items := by
  constructor
  · rintro ⟨p', hp', hr⟩
    cases h.symm.trans hp'
    exact hr
  · exact fun hr => ⟨p, h, hr⟩

/-- A turn that is answered as a whole either has a response that came back and the write for it, or
neither. -/
theorem complete_cases (relay : Relay) (transport : Transport) (threads : Threads)
    (threadId : Text) (input : ChatRequest) (signal : Signal) :
    (∃ r, (∀ r', Returned relay transport threads threadId input signal r' ↔ r' = r) ∧
      (∃ message, input.userMessage = .ok message) ∧
      writes (complete relay transport threads threadId input signal).effects
        = record threads threadId input r) ∨
    ((∀ r, ¬ Returned relay transport threads threadId input signal r) ∧
      writes (complete relay transport threads threadId input signal).effects = []) := by
  rw [complete]
  cases hplan : plan relay.defaults threads threadId input false with
  | error f =>
      refine .inr ⟨?_, rfl⟩
      rintro r ⟨p, hp, -⟩
      cases hplan.symm.trans hp
  | ok p =>
      simp only [returned_iff hplan]
      rw [Flow.ofExcept_ok_bind]
      have hawaited := attend_awaited signal (transport.complete_once p.model p.request.toJson)
      generalize attend signal (transport.complete p.model p.request.toJson) = source at hawaited
      cases hawaited with
      | gives effects r quiet =>
          refine .inl ⟨r, ?returned, plan_message hplan, ?written⟩
          case returned =>
            intro r'
            rw [Flow.items, List.filterMap_append, Act.items_effects]
            exact List.mem_singleton
          case written =>
            rw [Flow.gives_bind, Flow.effects_after, writes_append, Act.effects_effects, quiet]
            exact (congrArg writes (Flow.effects_gives _ r)).trans (writes_commit hplan r)
      | fails effects f quiet =>
          refine .inr ⟨?returned, ?written⟩
          case returned =>
            intro r hr
            rw [Flow.items, Act.items_effects] at hr
            cases hr
          case written =>
            rw [Flow.fails_bind, Flow.effects, Act.effects_effects]
            exact quiet

end

/-- What the threads become by a turn with an answer: an exchange comes to the thread of the turn, if
there is a reply that says something. -/
def recorded (threads : Threads) (threadId : Text) (message : Message) (reply : Option Response) :
    Threads :=
  match reply with
  | none => threads
  | some r =>
    if r.content.isEmpty then threads
    else threads.put threadId (threads.messages threadId ++ [message, r.toMessage])

theorem messages_recorded_other {threads : Threads} {threadId other : Text} {message : Message}
    {reply : Option Response} (h : other ≠ threadId) :
    (recorded threads threadId message reply).messages other = threads.messages other := by
  cases reply with
  | none => rfl
  | some r =>
      simp only [recorded]
      split
      · rfl
      · exact Threads.messages_put_other _ _ _ _ h

end Turn

/-! ## What becomes of the histories -/

/-- A turn on a thread keeps what the model has replied. The history of the thread is followed by
the message of the user and the reply; without a reply, or with an empty one, nothing changes. -/
structure Keeps (before after : Threads) (threadId : Text) (input : ChatRequest)
    (replied : Response → Prop) : Prop where
  stored : ∀ r, replied r → r.content ≠ [] → ∃ message, input.userMessage = .ok message ∧
    after.history? threadId
      = some (before.messages threadId ++
          [message, ⟨.assistant, .blocks (r.content.map Block.toRequest)⟩])
  unchanged : (∀ r, replied r → r.content = []) → after = before
  others : ∀ other ≠ threadId, after.history? other = before.history? other

namespace Keeps

variable {threads : Threads} {threadId : Text} {input : ChatRequest} {replied : Response → Prop}
  {effects : List TurnEffect}

theorem of_reply {r : Response} (hreplied : ∀ r', replied r' ↔ r' = r)
    (hmessage : ∃ message, input.userMessage = .ok message)
    (hwrites : TurnEffect.writes effects = Turn.record threads threadId input r) :
    Keeps threads (TurnEffect.stored effects threads) threadId input replied := by
  obtain ⟨message, hmessage⟩ := hmessage
  rw [TurnEffect.stored_eq_writes, hwrites, Turn.record, hmessage]
  cases hcontent : r.content with
  | nil =>
      refine ⟨?_, fun _ => rfl, fun _ _ => rfl⟩
      intro r' hr' hne
      rw [(hreplied r').mp hr'] at hne
      exact absurd hcontent hne
  | cons b bs =>
      refine ⟨?_, ?_, fun other hother => Threads.history?_put_other _ _ _ _ hother⟩
      · intro r' hr' _
        rw [(hreplied r').mp hr']
        exact ⟨message, hmessage, Threads.history?_put_self ..⟩
      · intro h
        rw [h r ((hreplied r).mpr rfl)] at hcontent
        cases hcontent

theorem of_none (hreplied : ∀ r, ¬ replied r) (hwrites : TurnEffect.writes effects = []) :
    Keeps threads (TurnEffect.stored effects threads) threadId input replied := by
  rw [TurnEffect.stored_eq_writes, hwrites]
  exact ⟨fun r hr => absurd hr (hreplied r), fun _ => rfl, fun _ _ => rfl⟩

/-- What was said on a thread is still there behind a turn, whatever the thread of the turn. -/
theorem grows {after : Threads} (h : Keeps threads after threadId input replied) (id : Text) :
    threads.messages id <+: after.messages id := by
  by_cases hid : id = threadId
  case neg =>
    have hsame : after.messages id = threads.messages id := congrArg (·.getD []) (h.others id hid)
    exact hsame ▸ List.prefix_rfl
  case pos =>
    subst hid
    by_cases hreply : ∃ r, replied r ∧ r.content ≠ []
    case pos =>
      obtain ⟨r, hr, hne⟩ := hreply
      obtain ⟨message, -, hstored⟩ := h.stored r hr hne
      rw [Threads.messages.eq_def after, hstored]
      exact List.prefix_append ..
    case neg =>
      have hempty : ∀ r, replied r → r.content = [] :=
        fun r hr => Decidable.byContradiction fun hne => hreply ⟨r, hr, hne⟩
      exact h.unchanged hempty ▸ List.prefix_rfl

end Keeps

theorem Turn.run_keeps (relay : Relay) (transport : Transport) (threads : Threads) (threadId : Text)
    (input : ChatRequest) (signal : Signal) :
    Keeps threads
      (TurnEffect.stored (run relay transport threads threadId input signal).effects threads)
      threadId input
      (Replied (run relay transport threads threadId input signal).items
        (streamed relay transport threads threadId input)) := by
  have hwrites : TurnEffect.writes (run relay transport threads threadId input signal).effects
      = _ := run_writes
  cases hending : (course relay transport threads threadId input signal).ending with
  | finished r =>
      rw [hending] at hwrites
      refine .of_reply (fun r' => ?_) (course_finished hending).1 hwrites
      rw [replied_iff, hending, Ending.finished.injEq, eq_comm]
  | stopped | unfinished | failed =>
      rw [hending] at hwrites
      refine .of_none (fun r hr => ?_) hwrites
      rw [replied_iff, hending] at hr
      cases hr

theorem Turn.complete_keeps (relay : Relay) (transport : Transport) (threads : Threads)
    (threadId : Text) (input : ChatRequest) (signal : Signal) :
    Keeps threads
      (TurnEffect.stored (complete relay transport threads threadId input signal).effects threads)
      threadId input (Returned relay transport threads threadId input signal) := by
  obtain ⟨r, hreturned, hmessage, hwrites⟩ | ⟨hreturned, hwrites⟩ :=
    complete_cases relay transport threads threadId input signal
  · exact .of_reply hreturned hmessage hwrites
  · exact .of_none hreturned hwrites

namespace Runtime

theorem threadFor_threads (rt : Runtime) (m : Memory) (input : ChatRequest) :
    (rt.threadFor m input).2.threads = m.threads := by
  rw [threadFor]
  split <;> rfl

/-- A turn is kept as a whole or not at all, and only if it has completed. A streamed turn has
completed if its client was told that the model had finished, one that is answered as a whole if the
transport has returned a response. -/
theorem turn_keeps (rt : Runtime) (transport : Transport) (m : Memory) (input : ChatRequest)
    (signal : Signal) :
    Keeps m.threads (rt.run transport m input signal none).2.threads (rt.threadFor m input).1 input
        (Turn.Replied (rt.run transport m input signal none).1.items
          (Turn.streamed rt.relay transport m.threads (rt.threadFor m input).1 input)) ∧
      Keeps m.threads (rt.complete transport m input signal).2.2.threads (rt.threadFor m input).1
        input
        (Turn.Returned rt.relay transport m.threads (rt.threadFor m input).1 input signal) := by
  have hthreads := threadFor_threads rt m input
  constructor
  · rw [← hthreads]
    exact Turn.run_keeps ..
  · rw [← hthreads]
    exact Turn.complete_keeps ..

theorem run_grows (rt : Runtime) (transport : Transport) (m : Memory) (input : ChatRequest)
    (signal : Signal) (id : Text) :
    m.threads.messages id <+: (rt.run transport m input signal none).2.threads.messages id := by
  rw [← threadFor_threads rt m input]
  exact (Turn.run_keeps ..).grows id

theorem complete_grows (rt : Runtime) (transport : Transport) (m : Memory) (input : ChatRequest)
    (signal : Signal) (id : Text) :
    m.threads.messages id <+: (rt.complete transport m input signal).2.2.threads.messages id := by
  rw [← threadFor_threads rt m input]
  exact (Turn.complete_keeps ..).grows id

end Runtime

end ChatRelay
