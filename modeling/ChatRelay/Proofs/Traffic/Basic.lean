import ChatRelay.Proofs.Turn.Exchange

/-!
# Turns that overlap

A runtime can be asked for a turn while others are still under way. All of them share the threads,
and each is taken a step further when its client asks for more or its transport has something. A
`Traffic` is the memory together with the turns that were asked for, a `Move` is one step of one of
them, and an interleaving is a list of moves, any list.

A turn reads the threads once, when it is planned. Everything that it does afterwards is settled
then, but for the moment at which it happens (`Job.flow`). In particular its write is settled: at
most one, to its own thread, of what it has read followed by its two messages (`Job.flow_writes`).
What a move does is said once, by `Takes`, and the invariants of a traffic are case analyses of
that; `step_settled` is the first of them.
-/

namespace ChatRelay

/-- What the client of a turn gets to see: an event, or the whole response. -/
inductive Sight where
  | event (e : ChatEvent)
  | response (r : Response)
  deriving DecidableEq

/-- A turn as it is asked for, with what its transport is going to do and when its client wants it
to stop. -/
structure Job where
  delivery : Delivery
  input : ChatRequest
  transport : Transport
  signal : Signal

namespace Job

/-- What a client sees before the turn is planned. -/
def greeting (job : Job) (threadId : Text) : List Sight :=
  match job.delivery with
  | .streamed => [.event (.session threadId)]
  | .whole => []

/-- The request that the turn hands to its transport, with the model that it is for. -/
def request? (job : Job) (relay : Relay) (threads : Threads) (threadId : Text) :
    Option (Text × Json) :=
  match Turn.plan relay.defaults threads threadId job.input (job.delivery = .streamed) with
  | .error _ => none
  | .ok p => some (p.model, p.request.toJson)

/-- What happens from the planning on. -/
def flow (job : Job) (relay : Relay) (threads : Threads) (threadId : Text) :
    Flow TurnEffect Sight :=
  match job.delivery with
  | .streamed =>
    (Turn.respond relay job.transport threads threadId job.input job.signal).expand
      fun e => [.yield (.event e)]
  | .whole =>
    (Turn.complete relay job.transport threads threadId job.input job.signal).expand
      fun r => [.yield (.response r)]

end Job

/-- A turn under way: its thread, the request that it has made, what its client has seen and, once
it is planned, what lies ahead. -/
structure Flight where
  job : Job
  threadId : Text
  asked : Option (Text × Json)
  seen : List Sight
  ahead : Option (Flow TurnEffect Sight)

namespace Flight

/-- A turn that was just asked for. -/
def opened (job : Job) (threadId : Text) : Flight :=
  ⟨job, threadId, none, job.greeting threadId, none⟩

/-- The turn planned on the threads. -/
def planned (f : Flight) (relay : Relay) (threads : Threads) : Flight :=
  { f with
    asked := f.job.request? relay threads f.threadId
    ahead := some (f.job.flow relay threads f.threadId) }

/-- The writes that lie ahead. -/
def writes (f : Flight) : List (Text × List Message) :=
  match f.ahead with
  | none => []
  | some flow => TurnEffect.writes flow.effects

end Flight

/-- The memory of a runtime and the turns that were asked for. -/
structure Traffic where
  memory : Memory
  flights : List Flight

/-- One step: a turn is asked for, a turn is planned, a turn goes one act further, or the runtime is
closed. -/
inductive Move where
  | start (job : Job)
  | plan (i : Nat)
  | advance (i : Nat)
  | close

namespace Traffic

/-- Nothing was asked for yet. -/
def calm (m : Memory) : Traffic := ⟨m, []⟩

/-- The messages of a thread. -/
def messages (s : Traffic) (threadId : Text) : List Message := s.memory.threads.messages threadId

/-- The traffic with one turn changed. -/
def put (s : Traffic) (i : Nat) (f : Flight) : Traffic := { s with flights := s.flights.set i f }

/-- One step of the runtime. A move of a turn that cannot make it changes nothing. -/
def step (rt : Runtime) (s : Traffic) : Move → Traffic
  | .start job =>
    let (threadId, memory) := rt.threadFor s.memory job.input
    ⟨memory, s.flights ++ [.opened job threadId]⟩
  | .plan i =>
    match s.flights[i]? with
    | none => s
    | some f =>
      match f.ahead with
      | some _ => s
      | none => s.put i (f.planned rt.relay s.memory.threads)
  | .advance i =>
    match s.flights[i]? with
    | none => s
    | some f =>
      match f.ahead with
      | none => s
      | some ⟨[], _⟩ => s
      | some ⟨.yield x :: acts, failure⟩ =>
        s.put i { f with seen := f.seen ++ [x], ahead := some ⟨acts, failure⟩ }
      | some ⟨.effect e :: acts, failure⟩ =>
        { s with memory := s.memory.after [e] }.put i { f with ahead := some ⟨acts, failure⟩ }
  | .close => { s with memory := s.memory.close }

/-- The traffic after some moves. -/
def run (rt : Runtime) (s : Traffic) (moves : List Move) : Traffic := moves.foldl (step rt) s

end Traffic

/-! ## The write of a turn -/

namespace Flow

variable {ε α β : Type}

theorem effects_expand (f : α → β) (flow : Flow ε α) :
    (flow.expand fun a => [.yield (f a)]).effects = flow.effects := by
  obtain ⟨acts, failure⟩ := flow
  show (acts.flatMap _).filterMap Act.effect? = acts.filterMap Act.effect?
  induction acts with
  | nil => rfl
  | cons act acts ih =>
      cases act with
      | effect e => exact congrArg (e :: ·) ih
      | yield a => exact ih

end Flow

/-- What a turn on a thread may be about to write: nothing, or what it has read followed by its two
messages. -/
def Writes (read : List Message) (threadId : Text) (input : ChatRequest)
    (writes : List (Text × List Message)) : Prop :=
  writes = [] ∨ ∃ (message : Message) (r : Response), input.userMessage = .ok message ∧
    r.content ≠ [] ∧ writes = [(threadId, read ++ [message, r.toMessage])]

/-- There is nothing to write behind a write. -/
theorem Writes.of_cons {read history : List Message} {threadId id : Text} {input : ChatRequest}
    {rest : List (Text × List Message)} (h : Writes read threadId input ((id, history) :: rest)) :
    rest = [] ∧ id = threadId ∧ ∃ (message : Message) (r : Response),
      input.userMessage = .ok message ∧ r.content ≠ [] ∧
        history = read ++ [message, r.toMessage] := by
  obtain hempty | ⟨message, r, hmessage, hcontent, hwrites⟩ := h
  · cases hempty
  · cases hwrites
    exact ⟨rfl, rfl, message, r, hmessage, hcontent, rfl⟩

/-- Whether the transport of a turn gives a response to some request. -/
def Job.Gives (job : Job) (r : Response) : Prop :=
  ∃ model request, match job.delivery with
    | .streamed => r ∈ (job.transport.stream model request).items
    | .whole => r ∈ (job.transport.complete model request).items

/-- Whether an exchange is one of a turn: its input and a reply of its transport. -/
def Exchange.Of (e : Exchange) (job : Job) : Prop := e.input = job.input ∧ job.Gives e.reply

namespace Job

variable (job : Job) (relay : Relay) (threads : Threads) (threadId : Text)

theorem flow_exchange :
    TurnEffect.writes (job.flow relay threads threadId).effects = [] ∨
      ∃ e : Exchange, e.Of job ∧ TurnEffect.writes (job.flow relay threads threadId).effects
        = [(threadId, threads.messages threadId ++ e.messages)] := by
  obtain ⟨delivery, input, transport, signal⟩ := job
  cases delivery with
  | streamed =>
      rw [flow, Flow.effects_expand]
      obtain hnone | ⟨e, hinput, hreply, hwrites⟩ :=
        Turn.respond_exchange relay transport threads threadId input signal
      · exact .inl hnone
      · exact .inr ⟨e, ⟨hinput, Turn.mem_of_streamed hreply⟩, hwrites⟩
  | whole =>
      rw [flow, Flow.effects_expand]
      obtain hnone | ⟨e, hinput, hreply, hwrites⟩ :=
        Turn.complete_exchange relay transport threads threadId input signal
      · exact .inl hnone
      · exact .inr ⟨e, ⟨hinput, Turn.mem_of_returned hreply⟩, hwrites⟩

theorem flow_writes :
    Writes (threads.messages threadId) threadId job.input
      (TurnEffect.writes (job.flow relay threads threadId).effects) := by
  obtain hnone | ⟨e, ⟨hinput, -⟩, hwrites⟩ := job.flow_exchange relay threads threadId
  · exact .inl hnone
  · exact .inr ⟨e.message, e.reply, hinput ▸ e.said, e.answered, hwrites⟩

end Job

/-! ## One step -/

namespace Traffic

/-- What a move does to a traffic. A turn is asked for, it is planned on the threads as they are, it
goes on without a write, it makes its write, or the threads are forgotten. -/
inductive Takes (rt : Runtime) (s : Traffic) : Move → Traffic → Prop where
  | idle (move : Move) : Takes rt s move s
  | start (job : Job) (threadId : Text) (memory : Memory)
      (same : memory.threads = s.memory.threads) :
      Takes rt s (.start job) ⟨memory, s.flights ++ [.opened job threadId]⟩
  | plan (i : Nat) (f : Flight) (at_i : s.flights[i]? = some f) (unplanned : f.ahead = none) :
      Takes rt s (.plan i) (s.put i (f.planned rt.relay s.memory.threads))
  | goOn (i : Nat) (f f' : Flight) (at_i : s.flights[i]? = some f)
      (thread : f'.threadId = f.threadId) (job : f'.job = f.job) (asked : f'.asked = f.asked)
      (writes : f'.writes = f.writes) : Takes rt s (.advance i) (s.put i f')
  | write (i : Nat) (f f' : Flight) (at_i : s.flights[i]? = some f)
      (thread : f'.threadId = f.threadId) (job : f'.job = f.job) (asked : f'.asked = f.asked)
      (threadId : Text) (history : List Message)
      (writes : f.writes = (threadId, history) :: f'.writes) :
      Takes rt s (.advance i)
        (put ⟨{ s.memory with threads := s.memory.threads.put threadId history }, s.flights⟩ i f')
  | close : Takes rt s .close { s with memory := s.memory.close }

theorem step_takes (rt : Runtime) (s : Traffic) (move : Move) :
    Takes rt s move (s.step rt move) := by
  cases move with
  | start job => exact .start job _ _ (rt.threadFor_threads s.memory job.input)
  | plan i =>
      rw [step]
      cases hf : s.flights[i]? with
      | none => exact .idle _
      | some f =>
          cases hahead : f.ahead with
          | some flow => simpa [hahead] using Takes.idle (.plan i)
          | none => simpa [hahead] using Takes.plan i f hf hahead
  | advance i =>
      rw [step]
      cases hf : s.flights[i]? with
      | none => exact .idle _
      | some f =>
          obtain ⟨job, threadId, asked, seen, ahead⟩ := f
          cases ahead with
          | none => exact .idle _
          | some flow =>
              obtain ⟨acts, failure⟩ := flow
              cases acts with
              | nil => exact .idle _
              | cons act acts =>
                  cases act with
                  | yield x => exact .goOn i _ _ hf rfl rfl rfl rfl
                  | effect e =>
                      cases e with
                      | log entry | call c | completed r => exact .goOn i _ _ hf rfl rfl rfl rfl
                      | store id history =>
                          exact .write i _ ⟨job, threadId, asked, seen, some ⟨acts, failure⟩⟩ hf
                            rfl rfl rfl id history rfl
  | close => exact .close

theorem getElem?_set {flights : List Flight} {i : Nat} {f : Flight} (h : flights[i]? = some f)
    (f' : Flight) (j : Nat) : (flights.set i f')[j]? = if i = j then some f' else flights[j]? := by
  have hi : i < flights.length := (List.getElem?_eq_some_iff.mp h).1
  rw [List.getElem?_set, if_pos hi]

theorem getElem?_start {flights : List Flight} {new f : Flight} {i : Nat}
    (h : (flights ++ [new])[i]? = some f) : flights[i]? = some f ∨ f = new := by
  by_cases hi : i < flights.length
  · left
    rwa [List.getElem?_append_left hi] at h
  · right
    rw [List.getElem?_append_right (Nat.le_of_not_lt hi)] at h
    exact List.mem_singleton.mp (List.mem_of_getElem? h)

/-- Whatever a turn under way is about to write, it is for its own thread. -/
def Settled (s : Traffic) : Prop :=
  ∀ (i : Nat) (f : Flight), s.flights[i]? = some f →
    ∃ read, Writes read f.threadId f.job.input f.writes

theorem settled_calm (m : Memory) : (calm m).Settled := by
  intro i f hf
  cases hf

theorem step_settled {rt : Runtime} {s s' : Traffic} {move : Move} (h : s.Settled)
    (htakes : Takes rt s move s') : s'.Settled := by
  intro i f hf
  cases htakes with
  | idle | close => exact h i f hf
  | start job threadId memory same =>
      rcases getElem?_start hf with hold | rfl
      · exact h i f hold
      · exact ⟨[], .inl rfl⟩
  | plan j g at_j unplanned =>
      have hf : (s.flights.set j _)[i]? = some f := hf
      rw [getElem?_set at_j] at hf
      split at hf
      · cases hf
        exact ⟨_, g.job.flow_writes rt.relay s.memory.threads g.threadId⟩
      · exact h i f hf
  | goOn j g g' at_j thread job asked writes =>
      have hf : (s.flights.set j g')[i]? = some f := hf
      rw [getElem?_set at_j] at hf
      split at hf
      · cases hf
        rw [thread, job, writes]
        exact h j g at_j
      · exact h i f hf
  | write j g g' at_j thread job asked id history writes =>
      have hf : (s.flights.set j g')[i]? = some f := hf
      rw [getElem?_set at_j] at hf
      split at hf
      · cases hf
        obtain ⟨read, hwrites⟩ := h j g at_j
        rw [writes] at hwrites
        exact ⟨[], .inl hwrites.of_cons.1⟩
      · exact h i f hf

end Traffic

end ChatRelay
