import ChatRelay.Proofs.Traffic.Overlap

/-!
# What threads hold and what is sent

However the turns of a runtime overlap, fail or are left, and whenever it is closed, a thread holds
exchanges of its own turns one after another, and so does every history that a turn is about to
write (`Recorded`). A request is what its thread held when the turn was planned, with the message of
the user behind it (`run_asked`). Both are conversations then (`run_conversations`).

The relay does not look into replies before it tells them again. A reply in which a block of text
was left empty goes out with every later request of its thread (`empty_text_sent`). It is the only
thing in a request that an endpoint refuses which wants texts to say something
(`asked_sendable_iff`).
-/

namespace ChatRelay

/-! ## The request of a turn -/

theorem Job.request?_messages {job : Job} {relay : Relay} {threads : Threads} {threadId : Text}
    {model : Text} {request : Json}
    (h : job.request? relay threads threadId = some (model, request)) :
    ∃ message, job.input.userMessage = .ok message ∧
      request.get? "messages"
        = some (Message.listToJson (threads.messages threadId ++ [message])) := by
  rw [request?, Turn.plan] at h
  cases hmessage : job.input.userMessage with
  | error f =>
      rw [hmessage] at h
      cases h
  | ok message =>
      rw [hmessage] at h
      cases h
      exact ⟨message, rfl, Request.get?_messages _⟩

/-- A turn asks its transport for nothing but the answer to its request. -/
theorem Job.flow_congr {job : Job} {relay : Relay} {threads : Threads} {threadId : Text}
    {other : Transport}
    (h : ∀ model request, job.request? relay threads threadId = some (model, request) →
      other.responses model request = job.transport.responses model request ∧
        other.complete model request = job.transport.complete model request) :
    { job with transport := other }.flow relay threads threadId
      = job.flow relay threads threadId := by
  obtain ⟨delivery, input, transport, signal⟩ := job
  cases delivery with
  | streamed =>
      simp only [request?, flow, Turn.respond] at h ⊢
      cases hplan : Turn.plan relay.defaults threads threadId input true with
      | error f => rfl
      | ok p =>
          simp only [decide_true, hplan] at h
          dsimp only
          rw [(h p.model p.request.toJson rfl).1]
  | whole =>
      simp only [request?, flow, Turn.complete] at h ⊢
      cases hplan : Turn.plan relay.defaults threads threadId input false with
      | error f => rfl
      | ok p =>
          have hfalse : decide (Delivery.whole = Delivery.streamed) = false := rfl
          rw [hfalse, hplan] at h
          rw [Flow.ofExcept_ok_bind, Flow.ofExcept_ok_bind, (h p.model p.request.toJson rfl).2]

namespace Traffic

variable {rt : Runtime} {s s' : Traffic} {move : Move} {threadId : Text}

/-! ## What threads hold -/

/-- Whether an exchange is one of a turn on a thread. -/
def FromTurn (flights : List Flight) (threadId : Text) (e : Exchange) : Prop :=
  ∃ f ∈ flights, f.threadId = threadId ∧ e.Of f.job

/-- Whether a history consists of exchanges of turns on its thread, at least of one. -/
def MadeOf (flights : List Flight) (threadId : Text) (history : List Message) : Prop :=
  ∃ es : List Exchange, es ≠ [] ∧ (∀ e ∈ es, FromTurn flights threadId e) ∧
    history = Exchange.history es

/-- Every history consists of exchanges: those that are stored, and those about to be written. -/
structure Recorded (s : Traffic) : Prop where
  stored : ∀ threadId history, s.memory.threads.history? threadId = some history →
    MadeOf s.flights threadId history
  ahead : ∀ f ∈ s.flights, ∀ threadId history, (threadId, history) ∈ f.writes →
    MadeOf s.flights threadId history

theorem recorded_calm : (calm .fresh).Recorded := by
  constructor
  · intro threadId history h
    cases h
  · intro f hf
    cases hf

theorem mem_set_of_mem {flights : List Flight} {i : Nat} {f f' g : Flight}
    (at_i : flights[i]? = some f) (thread : f'.threadId = f.threadId) (job : f'.job = f.job)
    (hg : g ∈ flights) :
    ∃ g' ∈ flights.set i f', g'.threadId = g.threadId ∧ g'.job = g.job := by
  obtain ⟨j, hj⟩ := List.mem_iff_getElem?.mp hg
  have hset := getElem?_set at_i f' j
  by_cases hij : i = j
  · subst hij
    cases at_i.symm.trans hj
    rw [if_pos rfl] at hset
    exact ⟨f', List.mem_of_getElem? hset, thread, job⟩
  · rw [if_neg hij, hj] at hset
    exact ⟨g, List.mem_of_getElem? hset, rfl, rfl⟩

/-- Turns that were asked for are not forgotten. -/
theorem step_flights (htakes : Takes rt s move s') {f : Flight} (hf : f ∈ s.flights) :
    ∃ f' ∈ s'.flights, f'.threadId = f.threadId ∧ f'.job = f.job := by
  cases htakes with
  | idle | close => exact ⟨f, hf, rfl, rfl⟩
  | start job id memory same => exact ⟨f, List.mem_append_left _ hf, rfl, rfl⟩
  | plan i g at_i unplanned => exact mem_set_of_mem at_i rfl rfl hf
  | goOn i g g' at_i thread job asked writes => exact mem_set_of_mem at_i thread job hf
  | write i g g' at_i thread job asked id history writes =>
      exact mem_set_of_mem at_i thread job hf

theorem MadeOf.step (htakes : Takes rt s move s') {history : List Message}
    (h : MadeOf s.flights threadId history) : MadeOf s'.flights threadId history := by
  obtain ⟨es, hne, hes, hhistory⟩ := h
  refine ⟨es, hne, ?_, hhistory⟩
  intro e he
  obtain ⟨f, hf, hthread, hof⟩ := hes e he
  obtain ⟨f', hf', hthread', hjob⟩ := step_flights htakes hf
  exact ⟨f', hf', hthread'.trans hthread, hjob ▸ hof⟩

theorem Recorded.messages (h : s.Recorded) (threadId : Text) :
    ∃ es : List Exchange, (∀ e ∈ es, FromTurn s.flights threadId e) ∧
      s.messages threadId = Exchange.history es := by
  cases hhistory : s.memory.threads.history? threadId with
  | none =>
      refine ⟨[], List.forall_mem_nil _, ?_⟩
      rw [Traffic.messages, Threads.messages, hhistory]
      rfl
  | some history =>
      obtain ⟨es, -, hes, rfl⟩ := h.stored threadId history hhistory
      refine ⟨es, hes, ?_⟩
      rw [Traffic.messages, Threads.messages, hhistory]
      rfl

/-- What a turn is about to write when it is planned. -/
theorem Recorded.planned (h : s.Recorded) {f : Flight} (hf : f ∈ s.flights) {history : List Message}
    (hwrites : (threadId, history) ∈ (f.planned rt.relay s.memory.threads).writes) :
    MadeOf s.flights threadId history := by
  obtain hnone | ⟨e, he, hwrite⟩ := f.job.flow_exchange rt.relay s.memory.threads f.threadId
  · have hnone : (f.planned rt.relay s.memory.threads).writes = [] := hnone
    rw [hnone] at hwrites
    cases hwrites
  · have hwrite : (f.planned rt.relay s.memory.threads).writes
        = [(f.threadId, s.messages f.threadId ++ e.messages)] := hwrite
    rw [hwrite] at hwrites
    cases List.mem_singleton.mp hwrites
    obtain ⟨es, hes, hmessages⟩ := h.messages f.threadId
    refine ⟨es ++ [e], by simp, ?_, ?_⟩
    · intro e' he'
      rcases List.mem_append.mp he' with he' | he'
      · exact hes e' he'
      · rw [List.mem_singleton.mp he']
        exact ⟨f, hf, rfl, he⟩
    · rw [Exchange.history_append, Exchange.history_single, hmessages]

theorem step_recorded (h : s.Recorded) (htakes : Takes rt s move s') : s'.Recorded := by
  have hgrow {threadId : Text} {history : List Message}
      (hmade : MadeOf s.flights threadId history) : MadeOf s'.flights threadId history :=
    hmade.step htakes
  cases htakes with
  | idle => exact h
  | close =>
      constructor
      · intro threadId history hhistory
        cases hhistory
      · exact h.ahead
  | start job id memory same =>
      constructor
      · intro threadId history hhistory
        have hhistory : memory.threads.history? threadId = some history := hhistory
        rw [same] at hhistory
        exact hgrow (h.stored threadId history hhistory)
      · intro f hf threadId history hwrites
        rcases List.mem_append.mp hf with hf | hf
        · exact hgrow (h.ahead f hf threadId history hwrites)
        · rw [List.mem_singleton.mp hf] at hwrites
          cases hwrites
  | plan i g at_i unplanned =>
      constructor
      · exact fun threadId history hhistory => hgrow (h.stored threadId history hhistory)
      · intro f hf threadId history hwrites
        rcases List.mem_or_eq_of_mem_set hf with hf | rfl
        · exact hgrow (h.ahead f hf threadId history hwrites)
        · exact hgrow (h.planned (List.mem_of_getElem? at_i) hwrites)
  | goOn i g g' at_i thread job asked writes =>
      constructor
      · exact fun threadId history hhistory => hgrow (h.stored threadId history hhistory)
      · intro f hf threadId history hwrites
        rcases List.mem_or_eq_of_mem_set hf with hf | rfl
        · exact hgrow (h.ahead f hf threadId history hwrites)
        · rw [writes] at hwrites
          exact hgrow (h.ahead g (List.mem_of_getElem? at_i) threadId history hwrites)
  | write i g g' at_i thread job asked id history writes =>
      have hg := h.ahead g (List.mem_of_getElem? at_i)
      rw [writes] at hg
      constructor
      · intro threadId history' hhistory
        have hhistory : (s.memory.threads.put id history).history? threadId = some history' :=
          hhistory
        by_cases hthread : threadId = id
        · subst hthread
          rw [Threads.history?_put_self] at hhistory
          cases hhistory
          exact hgrow (hg threadId history List.mem_cons_self)
        · rw [Threads.history?_put_other _ _ _ _ hthread] at hhistory
          exact hgrow (h.stored threadId history' hhistory)
      · intro f hf threadId history' hwrites
        rcases List.mem_or_eq_of_mem_set hf with hf | rfl
        · exact hgrow (h.ahead f hf threadId history' hwrites)
        · exact hgrow (hg threadId history' (List.mem_cons_of_mem _ hwrites))

theorem run_recorded (h : s.Recorded) (moves : List Move) : (run rt s moves).Recorded := by
  induction moves generalizing s with
  | nil => exact h
  | cons move moves ih => exact ih (step_recorded h (step_takes rt s move))

theorem run_flights {f : Flight} (hf : f ∈ s.flights) (moves : List Move) :
    ∃ f' ∈ (run rt s moves).flights, f'.threadId = f.threadId ∧ f'.job = f.job := by
  induction moves generalizing s f with
  | nil => exact ⟨f, hf, rfl, rfl⟩
  | cons move moves ih =>
      obtain ⟨g, hg, hthread, hjob⟩ := step_flights (step_takes rt s move) hf
      obtain ⟨f', hf', hthread', hjob'⟩ := ih hg
      exact ⟨f', hf', hthread'.trans hthread, hjob'.trans hjob⟩

/-! ## What is sent -/

/-- A request is there already, or it is the one that the turn makes now. -/
theorem step_asked (htakes : Takes rt s move s') {f : Flight} (hf : f ∈ s'.flights)
    {q : Text × Json} (hq : f.asked = some q) :
    (∃ g ∈ s.flights, g.threadId = f.threadId ∧ g.job = f.job ∧ g.asked = some q) ∨
      f.job.request? rt.relay s.memory.threads f.threadId = some q := by
  cases htakes with
  | idle | close => exact .inl ⟨f, hf, rfl, rfl, hq⟩
  | start job id memory same =>
      rcases List.mem_append.mp hf with hf | hf
      · exact .inl ⟨f, hf, rfl, rfl, hq⟩
      · rw [List.mem_singleton.mp hf] at hq
        cases hq
  | plan i g at_i unplanned =>
      rcases List.mem_or_eq_of_mem_set hf with hf | rfl
      · exact .inl ⟨f, hf, rfl, rfl, hq⟩
      · exact .inr hq
  | goOn i g g' at_i thread job asked writes | write i g g' at_i thread job asked _ _ writes =>
      rcases List.mem_or_eq_of_mem_set hf with hf | rfl
      · exact .inl ⟨f, hf, rfl, rfl, hq⟩
      · exact .inl ⟨g, List.mem_of_getElem? at_i, thread.symm, job.symm, asked ▸ hq⟩

/-- A request is there from the beginning, or the turn has made it on what was stored at some
earlier point. -/
theorem run_asked {moves : List Move} {f : Flight} (hf : f ∈ (run rt s moves).flights)
    {q : Text × Json} (hq : f.asked = some q) :
    (∃ g ∈ s.flights, g.threadId = f.threadId ∧ g.job = f.job ∧ g.asked = some q) ∨
      ∃ earlier, earlier <+: moves ∧
        f.job.request? rt.relay (run rt s earlier).memory.threads f.threadId = some q := by
  induction moves generalizing s with
  | nil => exact .inl ⟨f, hf, rfl, rfl, hq⟩
  | cons move moves ih =>
      obtain ⟨g, hg, hthread, hjob, hasked⟩ | ⟨earlier, hprefix, hrequest⟩ := ih hf
      · obtain hbefore | hnow := step_asked (step_takes rt s move) hg hasked
        · rw [hthread, hjob] at hbefore
          exact .inl hbefore
        · rw [hthread, hjob] at hnow
          exact .inr ⟨[], List.nil_prefix, hnow⟩
      · refine .inr ⟨move :: earlier, ?_, hrequest⟩
        exact List.cons_prefix_cons.mpr ⟨rfl, hprefix⟩

/-- A request tells exchanges of turns on its thread, as the thread held them at some earlier point,
and the message of the user. -/
theorem asked_messages {moves : List Move} {f : Flight}
    (hf : f ∈ (run rt (calm .fresh) moves).flights) {model : Text} {request : Json}
    (hasked : f.asked = some (model, request)) :
    ∃ (earlier : List Move) (es : List Exchange) (message : Message), earlier <+: moves ∧
      (run rt (calm .fresh) earlier).messages f.threadId = Exchange.history es ∧
      (∀ e ∈ es, FromTurn (run rt (calm .fresh) moves).flights f.threadId e) ∧
      f.job.input.userMessage = .ok message ∧
      request.get? "messages" = some (Message.listToJson (Exchange.history es ++ [message])) := by
  obtain ⟨g, hg, -⟩ | ⟨earlier, ⟨later, rfl⟩, hrequest⟩ := run_asked hf hasked
  · cases hg
  · obtain ⟨message, hmessage, hmessages⟩ := Job.request?_messages hrequest
    obtain ⟨es, hes, hheld⟩ := (run_recorded recorded_calm earlier).messages f.threadId
    refine ⟨earlier, es, message, List.prefix_append .., hheld, ?_, hmessage, ?_⟩
    · intro e he
      obtain ⟨g, hg, hthread, hof⟩ := hes e he
      obtain ⟨g', hg', hthread', hjob⟩ := run_flights hg later
      rw [run_append]
      exact ⟨g', hg', hthread'.trans hthread, hjob ▸ hof⟩
    · rw [← hheld]
      exact hmessages

/-- Whatever has happened, what a thread holds is a conversation in which both have spoken equally
often, and what is sent is such a conversation, or nothing, and behind it a message of the user. -/
theorem run_conversations (rt : Runtime) (moves : List Move) :
    (∀ threadId history,
      (run rt (calm .fresh) moves).memory.threads.history? threadId = some history →
        Conversation history ∧ history.length % 2 = 0 ∧ 0 < history.length) ∧
    ∀ f ∈ (run rt (calm .fresh) moves).flights, ∀ model request, f.asked = some (model, request) →
      ∃ (earlier : List Move) (held : List Message) (message : Message), earlier <+: moves ∧
        held = (run rt (calm .fresh) earlier).messages f.threadId ∧
        request.get? "messages" = some (Message.listToJson (held ++ [message])) ∧
        Conversation (held ++ [message]) ∧
        (held ++ [message]).head?.map Message.role = some .user ∧ message.role = .user := by
  constructor
  · intro threadId history hhistory
    obtain ⟨es, hne, -, rfl⟩ := (run_recorded recorded_calm moves).stored threadId history hhistory
    have hpos : 0 < es.length := List.length_pos_iff.mpr hne
    refine ⟨conversation_history es, even_length_history es, ?_⟩
    rw [Exchange.length_history]
    omega
  · intro f hf model request hasked
    obtain ⟨earlier, es, message, hprefix, hheld, -, hmessage, hmessages⟩ :=
      asked_messages hf hasked
    have htalk : Conversation (Exchange.history es ++ [message]) :=
      (conversation_history es).append (even_length_history es) (.said hmessage)
    refine ⟨earlier, _, message, hprefix, hheld.symm, hmessages, htalk, htalk.head (by simp), ?_⟩
    exact (ChatRequest.userMessage_proper hmessage).1

theorem exists_asked {i : Nat} (h : (s.flights[i]?.bind Flight.asked).isSome) :
    ∃ f ∈ s.flights, ∃ model request, f.asked = some (model, request) := by
  obtain ⟨⟨model, request⟩, hq⟩ := Option.isSome_iff_exists.mp h
  obtain ⟨f, hf, hasked⟩ := Option.bind_eq_some_iff.mp hq
  exact ⟨f, List.mem_of_getElem? hf, model, request, hasked⟩

/-- Also where turns overlap and one of them is lost. -/
theorem run_conversations_overlapping :
    (∃ history,
      (run plainRuntime (calm .fresh) overlapping).memory.threads.history? "t" = some history ∧
        Conversation history ∧ history.length % 2 = 0 ∧ 0 < history.length) ∧
    ∃ f ∈ (run plainRuntime (calm .fresh) overlapping).flights, ∃ model request,
      f.asked = some (model, request) ∧
      ∃ (earlier : List Move) (held : List Message) (message : Message), earlier <+: overlapping ∧
        held = (run plainRuntime (calm .fresh) earlier).messages f.threadId ∧
        request.get? "messages" = some (Message.listToJson (held ++ [message])) ∧
        Conversation (held ++ [message]) ∧
        (held ++ [message]).head?.map Message.role = some .user ∧ message.role = .user := by
  have hstored : (run plainRuntime (calm .fresh) overlapping).memory.threads.history? "t"
      = some [⟨.user, .text "b"⟩, ⟨.assistant, .blocks [.text "B"]⟩] := by decide +kernel
  obtain ⟨f, hf, model, request, hasked⟩ :=
    exists_asked (s := run plainRuntime (calm .fresh) overlapping) (i := 1) (by decide +kernel)
  obtain ⟨hhistories, hrequests⟩ := run_conversations plainRuntime overlapping
  exact ⟨⟨_, hstored, hhistories _ _ hstored⟩, f, hf, model, request, hasked,
    hrequests f hf model request hasked⟩

/-! ## Empty texts -/

/-- A request that goes out is taken as a whole exactly if none of the replies that it tells, all of
which came to turns on its thread, has an empty text. -/
theorem asked_sendable_iff {rt : Runtime} {moves : List Move} {f : Flight}
    (hf : f ∈ (run rt (calm .fresh) moves).flights) {model : Text} {request : Json}
    (hasked : f.asked = some (model, request)) :
    ∃ (es : List Exchange) (message : Message),
      (∀ e ∈ es, FromTurn (run rt (calm .fresh) moves).flights f.threadId e) ∧
      f.job.input.userMessage = .ok message ∧
      request.get? "messages" = some (Message.listToJson (Exchange.history es ++ [message])) ∧
      ((∀ m ∈ Exchange.history es ++ [message], m.Sendable) ↔
        ∀ e ∈ es, ¬ e.reply.HasEmptyText) := by
  obtain ⟨-, es, message, -, -, hes, hmessage, hmessages⟩ := asked_messages hf hasked
  exact ⟨es, message, hes, hmessage, hmessages, sendable_iff hmessage⟩

/-- Events that tell a message whose text block is closed as it was opened, and a tool call. -/
def silentStream : List Event :=
  [.messageStart ⟨"m1", "claude", "assistant", ⟨.value (.ofNat 3), .missing⟩⟩,
    .blockStart (.ofNat 0) (.text []), .blockStop (.ofNat 0),
    .blockStart (.ofNat 1) (.toolUse "t1" "weather"), .blockStop (.ofNat 1),
    .messageDelta ⟨.value "tool_use", .null⟩ (some ⟨.missing, .value (.ofNat 5)⟩), .messageStop]

/-- A turn on the thread `t` that is answered by the reduction of that stream. -/
def silentJob (input : ChatRequest) : Job where
  delivery := .streamed
  input := { input with threadId := some "t" }
  transport := ⟨fun _ _ =>
      (reduceStream (.ofList (silentStream.map fun e => e.toJson.render) none)).hold none,
    fun _ _ => .one (textReply []), fun _ _ => .one _⟩
  signal := .never

/-- A question, its answer, and the result of the tool that was called. -/
def silentMoves : List Move :=
  [.start (silentJob { input := some "Weather?" }), .plan 0] ++ List.replicate 6 (.advance 0) ++
    [.start (silentJob { toolResults := some [⟨"t1", "sunny", none⟩] }), .plan 1]

/-- The reply as the runtime tells it again. -/
def silentMessage : Message :=
  ⟨.assistant, .blocks [.text [],
    .toolUse ⟨some (.str "t1"), some (.str "weather"), some (.obj [])⟩]⟩

/-- The request of the second turn holds a text block that says nothing. -/
theorem empty_text_sent :
    (((run plainRuntime (calm .fresh) silentMoves).flights[1]?.bind Flight.asked).bind fun q =>
        q.2.get? "messages")
      = some (Message.listToJson [⟨.user, .text "Weather?"⟩, silentMessage,
          ⟨.user, .blocks [.toolResult (some (.str "t1")) "sunny" false]⟩]) ∧
    ¬ silentMessage.Sendable := by
  constructor
  · decide +kernel
  · intro h
    exact h.texts List.mem_cons_self

theorem asked_sendable_iff_silent :
    ∃ f ∈ (run plainRuntime (calm .fresh) silentMoves).flights, ∃ model request,
      f.asked = some (model, request) ∧
      ∃ (es : List Exchange) (message : Message),
        (∀ e ∈ es, FromTurn (run plainRuntime (calm .fresh) silentMoves).flights f.threadId e) ∧
        f.job.input.userMessage = .ok message ∧
        request.get? "messages" = some (Message.listToJson (Exchange.history es ++ [message])) ∧
        ((∀ m ∈ Exchange.history es ++ [message], m.Sendable) ↔
          ∀ e ∈ es, ¬ e.reply.HasEmptyText) := by
  obtain ⟨f, hf, model, request, hasked⟩ :=
    exists_asked (s := run plainRuntime (calm .fresh) silentMoves) (i := 1) (by decide +kernel)
  exact ⟨f, hf, model, request, hasked, asked_sendable_iff hf hasked⟩

end Traffic

end ChatRelay
