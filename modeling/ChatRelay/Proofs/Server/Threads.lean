import ChatRelay.Proofs.Server.Streamed
import ChatRelay.Proofs.Turn.Outcome
import ChatRelay.Proofs.Validation

/-!
# The thread that a client is told

A body that passes its check says something (`route_said`), so its turn has a message of the user and
is planned. Its thread is the one that the body names, without the white space around it, or a new one
(`Chosen`). The stream route looks for the thread before the turn does; what it finds is trimmed
already, and the turn finds the same (`threadFor_named`).

`Turned` says what a turn comes to, and `Told` what its client gets to know of the thread. On both
routes that follows from the plan, the call and the outcome of the turn (`turned_of_outcome`). The one
thing that goes wrong is a thread with a unit that may not stand in a header: then a response is lost
behind its turn, and a stream is not begun at all.

A thread goes on because no visit takes anything away from a history (`Visit.after_grows`), whatever
it asks for and whatever becomes of it.
-/

namespace ChatRelay

/-! ## Requests that say something -/

namespace ChatRequest

/-- The check of a body and the message of the user agree on what says something. -/
theorem exists_userMessage {input : ChatRequest} (h : input.saysSomething = true) :
    ∃ message, input.userMessage = .ok message := by
  rw [userMessage]
  cases htext : input.input.bind Text.trimmed? with
  | some t =>
      cases (input.toolResults.getD []).map ToolResult.toBlock with
      | nil => exact ⟨_, rfl⟩
      | cons b bs => exact ⟨_, rfl⟩
  | none =>
      cases hresults : input.toolResults.getD [] with
      | nil => simp [saysSomething, htext, hresults] at h
      | cons r rs => exact ⟨_, rfl⟩

theorem read_saysSomething {body : Option Json} {input : ChatRequest} (h : read body = .ok input) :
    input.saysSomething = true := by
  have haccept := Checked.toExcept_eq_ok_iff.mp h
  exact (Checked.require_eq_accept_iff.mp haccept).2

end ChatRequest

namespace Server

/-- The turn that a route asks for, and how it is answered. -/
def Route.turn? : Route → Option (Delivery × ChatRequest)
  | .complete input => some (.whole, input)
  | .stream input => some (.streamed, input)
  | _ => none

variable {settings : Settings} {r : HttpRequest} {d : Delivery} {input : ChatRequest}

theorem turnRoute_said {accepted : ChatRequest → Route}
    (haccepted : accepted = .complete ∨ accepted = .stream)
    (h : (turnRoute settings r accepted).turn? = some (d, input)) :
    ∃ message, input.userMessage = .ok message := by
  unfold turnRoute at h
  split at h
  · cases h
  · split at h
    · cases h
    · split at h
      · rename_i body _ input' hread
        have hsame : input' = input := by
          rcases haccepted with rfl | rfl <;> cases h <;> rfl
        exact hsame ▸ ChatRequest.exists_userMessage (ChatRequest.read_saysSomething hread)
      · cases h

/-- Whoever asks for a turn has said something. -/
theorem route_said (h : (route settings r).turn? = some (d, input)) :
    ∃ message, input.userMessage = .ok message := by
  unfold route at h
  split at h
  · cases h
  · split at h
    · cases h
    · split at h
      · cases h
      · split at h
        · exact turnRoute_said (.inl rfl) h
        · split at h
          · exact turnRoute_said (.inr rfl) h
          · cases h

/-! ## Ids -/

/-- What a service is given from outside: ids that say something, have no white space around them and
can stand in a header, tools that are defined, and credentials that fail for reasons of their own. -/
structure Ordinary (service : Service) : Prop where
  ids : ∀ n, (service.ids n).trim = service.ids n ∧ service.ids n ≠ []
  named : ∀ n, (service.ids n).all isHeaderUnit = true
  tools : service.relay.defaults.Defined
  tokens : service.endpoint.tokens.Outside

/-- The tools of a service come from its tools file alone, so they are defined. -/
theorem defined_defaults {c : Config} (hoptions : c.options.tools = none) (ds : List ToolDeclaration) :
    (c.defaults (ds.map ToolDeclaration.toTool)).Defined := by
  intro tools htools hnull
  have hunited : (c.defaults (ds.map ToolDeclaration.toTool)).tools.getD [] = tools := by
    rw [htools]
    rfl
  rw [Config.defaults, Options.resolve, Options.above, Tool.getD_unite] at hunited
  rw [← hunited] at hnull
  rcases List.mem_append.mp (Tool.mem_distinct hnull) with hgiven | hgiven
  · cases hgiven
  · rw [hoptions] at hgiven
    dsimp only at hgiven
    split at hgiven
    · cases hgiven
    · obtain ⟨d, -, hd⟩ := List.mem_map.mp hgiven
      cases hd

/-- A service that is opened in an environment is ordinary, whatever the environment and the tools file
say. -/
theorem ordinary_opened {root : Text} {env : Environment} {c : Config} {toolsFile : Option Text}
    {credentials : Except Failure (Option Text)} {ids : Nat → Text} {service : Service}
    {log : List Log.Entry} (hconfig : Config.read root env = .ok c)
    (hopened : Service.openWith c toolsFile credentials ids = .ok (service, log))
    (hcredentials : ∀ f, credentials = .error f → f.report? = none)
    (hids : ∀ n, (ids n).trim = ids n ∧ ids n ≠ []) (hnamed : ∀ n, (ids n).all isHeaderUnit = true) :
    Ordinary service := by
  have hoptions : c.options.tools = none := by
    unfold Config.read at hconfig
    split at hconfig
    · rw [← Except.ok.inj hconfig]
      rfl
    · cases hconfig
  rw [Service.openWith] at hopened
  cases hload : ToolSet.load c.toolsPath toolsFile ⟨c.toolsEnabled, c.toolsDisabled⟩ with
  | error f => rw [hload] at hopened; cases hopened
  | ok chosen =>
      rw [hload] at hopened
      cases hopened
      refine ⟨hids, hnamed, defined_defaults hoptions chosen.chosen, ?_⟩
      intro f hf
      dsimp only [Config.endpoint] at hf
      split at hf
      · cases hf
      · cases hf
        exact hcredentials f rfl

/-- The thread of a turn, and how many ids are drawn for it: the one that the request names, without the
white space around it, or a new one. -/
inductive Chosen (service : Service) (memory : Memory) (input : ChatRequest) : Text → Nat → Prop
  | named {t : Text} : input.threadId = some t → t.trim ≠ [] → Chosen service memory input t.trim 0
  | new : (∀ t, input.threadId = some t → t.trim = []) →
      (service.ids memory.issued).all isHeaderUnit = true →
      Chosen service memory input (service.ids memory.issued) 1

variable {service : Service} {memory : Memory} {id : Text} {drawn : Nat}

theorem Chosen.trimmed (h : Chosen service memory input id drawn) (hservice : Ordinary service) :
    id.trim = id ∧ id ≠ [] := by
  cases h with
  | named ht hne => exact ⟨Text.trim_trim _, hne⟩
  | new => exact hservice.ids _

/-- There is one thread for a turn. -/
theorem threadFor_chosen (hservice : Ordinary service) (memory : Memory) (input : ChatRequest) :
    ∃ id drawn, Chosen service memory input id drawn ∧
      service.threadFor memory input = (id, { memory with issued := memory.issued + drawn }) := by
  rw [Runtime.threadFor]
  cases hthread : input.thread? with
  | some id =>
      obtain ⟨t, ht, htrimmed⟩ := Option.bind_eq_some_iff.mp hthread
      obtain ⟨rfl, hne⟩ := Text.trimmed?_eq_some.mp htrimmed
      exact ⟨t.trim, 0, .named ht hne, rfl⟩
  | none =>
      refine ⟨_, 1, .new (fun t ht => ?_) (hservice.named _), rfl⟩
      have hblank : t.trimmed? = none := by
        rw [ChatRequest.thread?, ht] at hthread
        exact hthread
      by_contra hne
      rw [Text.trimmed?_eq_some.mpr ⟨rfl, hne⟩] at hblank
      cases hblank

/-- A thread that was chosen is chosen again by a request that names it. -/
theorem threadFor_named (htrimmed : id.trim = id ∧ id ≠ []) (memory : Memory) (input : ChatRequest) :
    service.threadFor memory { input with threadId := some id } = (id, memory) := by
  have hthread : { input with threadId := some id }.thread? = some id :=
    Text.trimmed?_eq_some.mpr htrimmed
  rw [Runtime.threadFor, hthread]

/-! ## Visits -/

/-- A request as it comes to the server, with what the network answers to its turn and when its client
wants it to stop. -/
structure Visit where
  request : HttpRequest
  answer : Answer
  signal : Signal
  timestamp : Text

namespace Visit

variable (settings : Settings) (service : Service) (memory : Memory) (v : Visit)

/-- The reply to a visit. -/
def reply : HttpReply :=
  (handle settings service memory v.timestamp v.request v.answer v.signal).1

/-- What happens during a visit. -/
def effects : List TurnEffect :=
  (handle settings service memory v.timestamp v.request v.answer v.signal).2.1

/-- What the service remembers after a visit. -/
def after : Memory :=
  (handle settings service memory v.timestamp v.request v.answer v.signal).2.2

/-- What it remembers after visits one after another. -/
def afterAll (settings : Settings) (service : Service) : Memory → List Visit → Memory
  | memory, [] => memory
  | memory, v :: vs => afterAll settings service (v.after settings service memory) vs

end Visit

/-- What the client of a turn is told. A response and a stream of events carry the thread in their head,
and a stream announces it in its first event and nowhere else. Where a head cannot carry it, a
response is lost, and a stream is never begun. -/
inductive Told (id : Text) : Delivery → HttpReply → List TurnEffect → Prop
  | response {effects : List TurnEffect} (r : Response) : id.all isHeaderUnit = true →
      TurnEffect.handedOver effects = [r] → Told id .whole (.json 200 (some id) r.toJson) effects
  | failed {effects : List TurnEffect} (f : Failure) : ¬ f.BlamesRequest →
      TurnEffect.handedOver effects = [] → Told id .whole (failureReply f) effects
  | events {effects : List TurnEffect} (events : List ChatEvent) (reply : Option Response) :
      id.all isHeaderUnit = true →
      (∀ e ∈ events, e.type ≠ Text.ofString "session") →
      (∀ t, .error t (some (Text.ofString "INVALID_REQUEST")) ∉ events) →
      ((∃ stopReason, .done .stop stopReason ∈ events) ↔ reply.isSome) →
      TurnEffect.handedOver effects = reply.toList →
      Told id .streamed (.events id ((.session id :: events).flatMap ChatEvent.frame)) effects
  | unnamable {effects : List TurnEffect} (r : Response) : id.all isHeaderUnit = false →
      TurnEffect.handedOver effects = [r] → Told id .whole Server.unnamable effects
  | unanswered : id.all isHeaderUnit = false → Told id .streamed .unanswered []

/-- What a turn of a client comes to, whose thread has an id and whose user has said a message. -/
structure Turned (settings : Settings) (service : Service) (memory : Memory) (v : Visit)
    (d : Delivery) (input : ChatRequest) (id : Text) (message : Message) : Prop where
  said : input.userMessage = .ok message
  trimmed : id.trim = id ∧ id ≠ []
  chosen : ∃ drawn, Chosen service memory input id drawn ∧
    (v.after settings service memory).issued = memory.issued + drawn
  told : Told id d (v.reply settings service memory) (v.effects settings service memory)
  keys : ∀ key history, .store key history ∈ v.effects settings service memory → key = id
  kept : ∀ r ∈ TurnEffect.handedOver (v.effects settings service memory), r.content ≠ [] →
    (v.after settings service memory).threads.history? id
      = some (memory.threads.messages id ++ [message, r.toMessage])
  sent : ∀ call ∈ TurnEffect.calls (v.effects settings service memory),
    call.body.get? "messages"
      = some (Message.listToJson (memory.threads.messages id ++ [message]))
  asked : id.all isHeaderUnit = true → ∀ token, service.endpoint.tokens.token = .ok token →
    (TurnEffect.calls (v.effects settings service memory)).length = 1

section

variable {v : Visit} {message : Message}

/-- What a turn comes to follows from its plan, its call and what it has handed over; what is logged behind
it makes no difference. -/
theorem turned_of_outcome {turn : List TurnEffect} {entries : List Log.Entry}
    {reply : Option Response} (stream : Bool) (call : Option Call)
    (hmessage : input.userMessage = .ok message) (htrimmed : id.trim = id ∧ id ≠ [])
    (hchosen : Chosen service memory input id drawn)
    (heffects : v.effects settings service memory = turn ++ entries.map .log)
    (hafter : v.after settings service memory
      = ⟨TurnEffect.stored turn memory.threads, memory.issued + drawn⟩)
    (houtcome : Turn.Outcome memory.threads id message turn reply)
    (hcalls : TurnEffect.calls turn = call.toList)
    (hbody : ∀ c, call = some c → c.body
      = (Turn.planned service.relay.defaults memory.threads id input stream message).request.toJson)
    (hasked : id.all isHeaderUnit = true → ∀ token, service.endpoint.tokens.token = .ok token →
      call.isSome = true)
    (htold : Told id d (v.reply settings service memory) (v.effects settings service memory)) :
    Turned settings service memory v d input id message := by
  have hlogged : ∀ e ∈ entries.map TurnEffect.log, Turn.Passing e :=
    List.forall_mem_map.mpr fun entry _ => .log entry
  have hall := houtcome.before_passing hlogged
  have hcalled : TurnEffect.calls (v.effects settings service memory) = call.toList := by
    have hnone : TurnEffect.calls (entries.map .log) = [] := by simp [TurnEffect.calls]
    rw [heffects, TurnEffect.calls_append, hnone, hcalls, List.append_nil]
  refine ⟨hmessage, htrimmed, ⟨drawn, hchosen, by rw [hafter]⟩, htold, heffects ▸ hall.keys, ?_, ?_, ?_⟩
  · intro r hr hne
    rw [heffects, hall.handedOver] at hr
    have hreply := Option.mem_toList.mp hr
    have hcontent : r.content.isEmpty = false := by simpa using hne
    rw [hafter, houtcome.stored, hreply]
    simp only [Turn.recorded, hcontent]
    exact Threads.history?_put_self ..
  · intro c hc
    rw [hcalled] at hc
    rw [hbody c (Option.mem_toList.mp hc)]
    exact Turn.messages_planned ..
  · intro hnamable token htoken
    obtain ⟨c, hc⟩ := Option.isSome_iff_exists.mp (hasked hnamable token htoken)
    rw [hcalled, hc]
    rfl

/-- A visit that asks for a turn that is answered as a whole. -/
theorem visit_whole (hroute : route settings v.request = .complete input)
    (hthread : service.threadFor memory input
      = (id, { memory with issued := memory.issued + drawn })) :
    let flow := Turn.complete service.relay (service.endpoint.transport v.answer) memory.threads id
      input v.signal
    v.reply settings service memory = (completed id flow).1 ∧
      v.effects settings service memory = (completed id flow).2 ∧
      v.after settings service memory
        = ⟨TurnEffect.stored flow.effects memory.threads, memory.issued + drawn⟩ := by
  simp only [Visit.reply, Visit.effects, Visit.after, handle, hroute, Service.complete,
    Runtime.complete, hthread, true_and]
  rfl

/-- A visit that asks for a turn that is streamed. -/
theorem visit_streamed (hroute : route settings v.request = .stream input)
    (htrimmed : id.trim = id ∧ id ≠ []) (hnamable : id.all isHeaderUnit = true)
    (hthread : service.threadFor memory input
      = (id, { memory with issued := memory.issued + drawn })) :
    let flow := Turn.run service.relay (service.endpoint.transport v.answer) memory.threads id
      { input with threadId := some id } v.signal
    v.reply settings service memory = (streamed settings id (travelling flow)).1 ∧
      v.effects settings service memory = (streamed settings id (travelling flow)).2 ∧
      v.after settings service memory
        = ⟨TurnEffect.stored flow.effects memory.threads, memory.issued + drawn⟩ := by
  simp only [Visit.reply, Visit.effects, Visit.after, handle, hroute, hthread, hnamable,
    Service.run, Runtime.run, threadFor_named htrimmed]
  exact ⟨rfl, rfl, rfl⟩

/-- A visit that asks for a stream whose head cannot be written. -/
theorem visit_unanswered (hroute : route settings v.request = .stream input)
    (hunnamable : id.all isHeaderUnit = false)
    (hthread : service.threadFor memory input
      = (id, { memory with issued := memory.issued + drawn })) :
    v.reply settings service memory = .unanswered ∧ v.effects settings service memory = [] ∧
      v.after settings service memory = { memory with issued := memory.issued + drawn } := by
  simp only [Visit.reply, Visit.effects, Visit.after, handle, hroute, hthread, hunnamable]
  exact ⟨rfl, rfl, rfl⟩

/-! ## Turns that are answered as a whole -/

theorem completed_returned (id : Text) {flow : Flow TurnEffect Response} {r : Response}
    (h : flow.outcome = ([r], none)) :
    completed id flow =
      if id.all isHeaderUnit then (.json 200 (some id) r.toJson, flow.effects)
      else (unnamable, flow.effects ++ [failureEntry (.headerValue threadHeader)]) := by
  obtain ⟨hitems, hfailure⟩ := Prod.mk.inj h
  simp only [completed, hfailure, hitems]
  rfl

theorem completed_failed (id : Text) {flow : Flow TurnEffect Response} {f : Failure}
    (h : flow.outcome = ([], some f)) :
    completed id flow = (failureReply f, flow.effects ++ [failureEntry f]) := by
  obtain ⟨-, hfailure⟩ := Prod.mk.inj h
  simp only [completed, hfailure]

theorem turned_whole (hservice : Ordinary service) (harrives : v.answer.Arrives)
    (hroute : route settings v.request = .complete input)
    (hmessage : input.userMessage = .ok message) (hchosen : Chosen service memory input id drawn)
    (hthread : service.threadFor memory input
      = (id, { memory with issued := memory.issued + drawn })) :
    Turned settings service memory v .whole input id message := by
  obtain ⟨hreply, heffects, hafter⟩ := visit_whole (v := v) hroute hthread
  obtain ⟨hcalls, hfailure⟩ := Turn.complete_asks v.signal hmessage
    (Endpoint.asks_planned_whole hservice.tokens harrives hservice.tools memory.threads id input
      message)
  have hcomplete := Turn.complete_outcome service.relay (service.endpoint.transport v.answer)
    memory.threads id input v.signal hmessage
  generalize Turn.complete service.relay (service.endpoint.transport v.answer) memory.threads id
    input v.signal = flow at *
  have hturned {reply : Option Response} (entries : List Log.Entry)
      (houtcome : Turn.Outcome memory.threads id message flow.effects reply)
      (hlogged : v.effects settings service memory = flow.effects ++ entries.map .log)
      (htold : Told id .whole (v.reply settings service memory)
        (v.effects settings service memory)) :
      Turned settings service memory v .whole input id message :=
    turned_of_outcome false _ hmessage (hchosen.trimmed hservice) hchosen hlogged hafter houtcome hcalls
      (fun c => Endpoint.call?_body) (fun _ token => Endpoint.isSome_call?) htold
  have hpassing (f : Failure) : ∀ e ∈ [failureEntry f], Turn.Passing e :=
    List.forall_mem_singleton.mpr (.log _)
  obtain ⟨r, hflow, houtcome⟩ | ⟨f, hflow, houtcome⟩ := hcomplete
  · have hdone := completed_returned id hflow
    cases hnamable : id.all isHeaderUnit with
    | true =>
        rw [hnamable, if_pos rfl] at hdone
        rw [hdone] at hreply heffects
        refine hturned [] houtcome ?_ ?_
        · rw [heffects]
          exact (List.append_nil _).symm
        · rw [hreply, heffects]
          exact .response r hnamable houtcome.handedOver
    | false =>
        rw [hnamable, if_neg Bool.false_ne_true] at hdone
        rw [hdone] at hreply heffects
        refine hturned [_] houtcome heffects ?_
        rw [hreply, heffects]
        exact .unnamable r hnamable (houtcome.before_passing (hpassing _)).handedOver
  · rw [completed_failed id hflow] at hreply heffects
    refine hturned [_] houtcome heffects ?_
    rw [hreply, heffects]
    exact .failed f (hfailure f (Prod.mk.inj hflow).2) (houtcome.before_passing (hpassing _)).handedOver

/-! ## Turns that are streamed -/

/-- What the client of a stream is shown: the session and, behind it, no other one. -/
theorem shown_session (settings : Settings) (relay : Relay) (transport : Transport) (threads : Threads) (id : Text)
    (input : ChatRequest) (signal : Signal) :
    ∃ events, (Turn.run relay transport threads id input signal).items.filter (shows settings)
        = .session id :: events ∧
      (∀ e ∈ events, e.type ≠ Text.ofString "session") ∧
      ∀ e, shows settings e = true → e.type ≠ Text.ofString "session" →
        (e ∈ events ↔ e ∈ (Turn.run relay transport threads id input signal).items) := by
  obtain ⟨rest, hitems, hrest⟩ := Turn.run_session relay transport threads id input signal
  rw [hitems]
  refine ⟨_, List.filter_cons_of_pos rfl, ?_, ?_⟩
  · intro e he
    exact hrest e (List.mem_filter.mp he).1
  · intro e hshown htype
    constructor
    · intro he
      exact List.mem_cons_of_mem _ (List.mem_filter.mp he).1
    · intro he
      rcases List.mem_cons.mp he with rfl | he
      · exact absurd rfl htype
      · exact List.mem_filter.mpr ⟨he, hshown⟩

theorem turned_streamed (hservice : Ordinary service) (harrives : v.answer.Arrives)
    (hroute : route settings v.request = .stream input)
    (hmessage : input.userMessage = .ok message) (hchosen : Chosen service memory input id drawn)
    (hthread : service.threadFor memory input
      = (id, { memory with issued := memory.issued + drawn })) :
    Turned settings service memory v .streamed input id message := by
  have htrimmed := hchosen.trimmed hservice
  have hnamed : ({ input with threadId := some id } : ChatRequest).userMessage = .ok message :=
    hmessage
  cases hnamable : id.all isHeaderUnit with
  | true =>
      obtain ⟨hreply, heffects, hafter⟩ := visit_streamed (v := v) hroute htrimmed hnamable hthread
      obtain ⟨hcalls, herror⟩ := Turn.run_asks v.signal hnamed
        (Endpoint.asks_planned_streamed hservice.tokens harrives hservice.tools memory.threads id
          { input with threadId := some id } message)
        (fun model request => Endpoint.left_responses harrives.leftBy blameless_none)
      obtain ⟨reply, hstop, houtcome⟩ := Turn.run_outcome service.relay
        (service.endpoint.transport v.answer) memory.threads id { input with threadId := some id }
        v.signal hnamed
      obtain ⟨events, hevents, hsession, hmem⟩ := shown_session settings service.relay
        (service.endpoint.transport v.answer) memory.threads id { input with threadId := some id }
        v.signal
      have hfailure := Turn.run_failure service.relay (service.endpoint.transport v.answer)
        memory.threads id { input with threadId := some id } v.signal
      generalize Turn.run service.relay (service.endpoint.transport v.answer) memory.threads id
        { input with threadId := some id } v.signal = flow at *
      rw [streamed_events settings id hfailure, hevents] at hreply
      rw [streamed_effects settings id hfailure] at heffects
      have hlogged : v.effects settings service memory
          = flow.effects ++ ([] : List Log.Entry).map .log := heffects.trans (List.append_nil _).symm
      refine turned_of_outcome true _ hmessage htrimmed hchosen hlogged hafter houtcome hcalls
        (fun c => Endpoint.call?_body) (fun _ token => Endpoint.isSome_call?) ?_
      rw [hreply, heffects]
      have herrorType : Text.ofString "error" ≠ "session" := by decide
      have hdoneType : Text.ofString "done" ≠ "session" := by decide
      refine .events events reply hnamable hsession ?_ ?_ houtcome.handedOver
      · intro t ht
        exact herror t ((hmem (.error t (some (Text.ofString "INVALID_REQUEST"))) rfl herrorType).mp ht)
      · rw [← hstop]
        exact exists_congr fun stopReason => hmem (.done .stop stopReason) rfl hdoneType
  | false =>
      obtain ⟨hreply, heffects, hafter⟩ := visit_unanswered (v := v) hroute hnamable hthread
      have hlogged : v.effects settings service memory = [] ++ ([] : List Log.Entry).map .log :=
        heffects
      have houtcome : Turn.Outcome memory.threads id message [] none :=
        .of_passing fun e he => by cases he
      refine turned_of_outcome true none hmessage htrimmed hchosen hlogged
        hafter houtcome rfl (fun c hc => by cases hc) (fun htrue => ?_) ?_
      · cases hnamable.symm.trans htrue
      · rw [hreply, heffects]
        exact .unanswered hnamable

/-! ## Turn after turn -/

/-- A request for a turn has its turn. -/
theorem turned (hservice : Ordinary service) (memory : Memory) (harrives : v.answer.Arrives)
    (hturn : (route settings v.request).turn? = some (d, input)) :
    ∃ id message, Turned settings service memory v d input id message := by
  obtain ⟨message, hmessage⟩ := route_said hturn
  obtain ⟨id, drawn, hchosen, hthread⟩ := threadFor_chosen hservice memory input
  refine ⟨id, message, ?_⟩
  cases hroute : route settings v.request with
  | health | healthHead | answered => rw [hroute] at hturn; cases hturn
  | complete input' =>
      rw [hroute] at hturn
      cases hturn
      exact turned_whole hservice harrives hroute hmessage hchosen hthread
  | stream input' =>
      rw [hroute] at hturn
      cases hturn
      exact turned_streamed hservice harrives hroute hmessage hchosen hthread

/-- A request that names a thread, with white space around it or not, has its turn there. -/
theorem Turned.thread {t : Text} (h : Turned settings service memory v d input id message)
    (ht : input.threadId = some t) (hne : t.trim ≠ []) : id = t.trim := by
  obtain ⟨drawn, hchosen, -⟩ := h.chosen
  cases hchosen with
  | named ht' => rw [ht] at ht'; cases ht'; rfl
  | new hblank => exact absurd (hblank t ht) hne

/-- A visit of any kind keeps what was said on every thread. -/
theorem Visit.after_grows (settings : Settings) (service : Service) (memory : Memory) (v : Visit)
    (id : Text) :
    memory.threads.messages id <+: (v.after settings service memory).threads.messages id := by
  rw [Visit.after, handle]
  cases hroute : route settings v.request with
  | health | healthHead | answered => exact List.prefix_rfl
  | complete input => exact service.toRuntime.complete_grows _ memory input v.signal id
  | stream input =>
      have hthreads := Runtime.threadFor_threads service.toRuntime memory input
      dsimp only
      split
      · rw [← hthreads]
        exact service.toRuntime.run_grows _ _ _ v.signal id
      · exact hthreads ▸ List.prefix_rfl

theorem Visit.afterAll_grows (settings : Settings) (service : Service) (memory : Memory)
    (vs : List Visit) (id : Text) :
    memory.threads.messages id <+: (afterAll settings service memory vs).threads.messages id := by
  induction vs generalizing memory with
  | nil => exact List.prefix_rfl
  | cons v vs ih => exact (v.after_grows settings service memory id).trans (ih _)

/-- A request for a turn has its turn on one thread, and its client is told that one, unless it cannot be
told in the head of a reply. Whoever names the thread later, with white space around it or not and
whatever has come in between, carries on behind what was said. -/
theorem turns_on_one_thread (hservice : Ordinary service) (memory : Memory)
    (hturn : (route settings v.request).turn? = some (d, input)) (harrives : v.answer.Arrives) :
    ∃ id message, Turned settings service memory v d input id message ∧
      ∀ r ∈ TurnEffect.handedOver (v.effects settings service memory), r.content ≠ [] →
        ∀ (between : List Visit) (w : Visit) (d' : Delivery) (input' : ChatRequest) (t : Text),
          (route settings w.request).turn? = some (d', input') → input'.threadId = some t →
          t.trim = id → w.answer.Arrives →
            let later := Visit.afterAll settings service (v.after settings service memory) between
            (∃ message', Turned settings service later w d' input' id message') ∧
              memory.threads.messages id ++ [message, r.toMessage] <+: later.threads.messages id := by
  obtain ⟨id, message, hturned⟩ := turned hservice memory harrives hturn
  refine ⟨id, message, hturned, ?_⟩
  intro r hr hne between w d' input' t hturn' ht htrim harrives' later
  constructor
  · obtain ⟨id', message', hturned'⟩ := turned hservice later harrives' hturn'
    have hsame : id' = id := (hturned'.thread ht (htrim ▸ hturned.trimmed.2)).trans htrim
    exact ⟨message', hsame ▸ hturned'⟩
  · have hkept : (v.after settings service memory).threads.messages id
        = memory.threads.messages id ++ [message, r.toMessage] := by
      rw [Threads.messages, hturned.kept r hr hne]
      rfl
    rw [← hkept]
    exact Visit.afterAll_grows settings service _ between id

end

/-! ## Visits to an open service -/

theorem ordinary_openService : Ordinary openService where
  ids _ := (by decide : Text.trim "id" = "id" ∧ ("id" : Text) ≠ [])
  named _ := (by decide : List.all ("id" : Text) isHeaderUnit = true)
  tools := nofun
  tokens := nofun

/-- A service without a token of its own. -/
def openSettings : Settings := ⟨false, .null, "l", none⟩

/-- A visit to a route that may name a thread, and what the model answers. -/
def askingFor (path : Text) (threadId : Option Text) (answer : Text) : Visit where
  request := .ofParts "POST" path [] (some (Utf8.encode
    (Json.object [("input", some (.str "hi")), ("threadId", threadId.map .str)]).render))
  answer := .responded 200 (some (Body.paced ⟨[Utf8.encode answer], none⟩ fun _ => 0))
  signal := .never
  timestamp := "now"

theorem arrives_askingFor (path : Text) (threadId : Option Text) (answer : Text) :
    (askingFor path threadId answer).answer.Arrives :=
  .body 200 _ nofun

/-- A visit that begins a thread by a stream. -/
def beginning : Visit :=
  let message : List Event :=
    [.messageStart ⟨"m1", "claude", "assistant", ⟨.value (.ofNat 10), .value (.ofNat 1)⟩⟩,
      .blockStart (.ofNat 0) (.text "Hello"), .messageStop]
  askingFor "/api/chat/stream" none (Sse.written (message.map fun e => ("message", e.toJson)))

/-- A visit that names a thread and wants the answer as a whole. -/
def naming (threadId : Text) : Visit :=
  askingFor "/api/chat" (some threadId) (Json.obj Endpoint.cityAnswer).render

theorem turns_on_one_thread_begun :
    Ordinary openService ∧ beginning.answer.Arrives ∧
    ∃ input message r, (route openSettings beginning.request).turn? = some (.streamed, input) ∧
      Turned openSettings openService .fresh beginning .streamed input "id" message ∧
      r ∈ TurnEffect.handedOver (beginning.effects openSettings openService .fresh) ∧ r.content ≠ [] ∧
      ∃ input', (route openSettings (naming " id ").request).turn? = some (.whole, input') ∧
        input'.threadId = some (Text.ofString " id ") ∧
        let later := beginning.after openSettings openService .fresh
        (∃ message', Turned openSettings openService later (naming " id ") .whole input' "id" message') ∧
          [message, r.toMessage] <+: later.threads.messages "id" := by
  have hturn : (route openSettings beginning.request).turn?
      = some (.streamed, { input := some (Text.ofString "hi") }) := by
    decide +kernel
  have hagain : (route openSettings (naming " id ").request).turn?
      = some (.whole, { input := some (Text.ofString "hi"), threadId := some (Text.ofString " id ") }) := by
    decide +kernel
  obtain ⟨r, hr, hne⟩ : ∃ r ∈ TurnEffect.handedOver (beginning.effects openSettings openService .fresh),
      r.content ≠ [] := by
    decide +kernel
  obtain ⟨id, message, hturned, hlater⟩ := turns_on_one_thread ordinary_openService .fresh hturn
    (arrives_askingFor _ _ _)
  have hid : id = "id" := by
    obtain ⟨drawn, hchosen, -⟩ := hturned.chosen
    cases hchosen with
    | named ht => cases ht
    | new => rfl
  subst hid
  obtain ⟨hresumed, hprefix⟩ := hlater r hr hne [] (naming " id ") _ _ " id " hagain rfl (by decide)
    (arrives_askingFor _ _ _)
  exact ⟨ordinary_openService, arrives_askingFor _ _ _, _, message, r, hturn, hturned, hr, hne, _,
    hagain, rfl, hresumed, hprefix⟩

/-- A thread that cannot be named in a header carries on, and its client is not told. -/
theorem unnamable_thread_untold :
    ¬ ∀ (settings : Settings) (service : Service) (memory : Memory) (v : Visit) (d : Delivery)
      (input : ChatRequest), Ordinary service → v.answer.Arrives →
      (route settings v.request).turn? = some (d, input) →
      ∀ id, (v.after settings service memory).threads.messages id ≠ memory.threads.messages id →
        (∃ body, v.reply settings service memory = .json 200 (some id) body) ∨
          ∃ text, v.reply settings service memory = .events id text := by
  intro htold
  have hturn : (route openSettings (naming "漢").request).turn?
      = some (.whole, { input := some (Text.ofString "hi"), threadId := some (Text.ofString "漢") }) := by
    decide +kernel
  have hstored : ((naming "漢").after openSettings openService .fresh).threads.messages "漢"
      ≠ Memory.fresh.threads.messages "漢" := by
    decide +kernel
  have hreply : (naming "漢").reply openSettings openService .fresh = unnamable := by decide +kernel
  rcases htold openSettings openService .fresh (naming "漢") _ _ ordinary_openService
    (arrives_askingFor _ _ _) hturn "漢" hstored with ⟨body, h⟩ | ⟨text, h⟩
  all_goals
    rw [hreply] at h
    cases h

end Server

end ChatRelay
