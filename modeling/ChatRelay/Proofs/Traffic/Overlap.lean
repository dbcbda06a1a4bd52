import ChatRelay.Proofs.Traffic.Basic

/-!
# Turns of one thread that overlap

A turn replaces the history of its thread by what it read when it was planned, followed by its own
two messages. If another turn of the thread has written in between, then what that one wrote is gone
(`overlapping_turn_lost`), although its client was told that it had completed.

No turn is lost if the turns of a thread are planned one after another, each only when no other one
is between its planning and its write (`OneByOne`). The invariant is `Orderly`: at most one turn is
about to write to the thread, and what it is about to write continues what the thread holds now.
Then every write appends two messages (`step_orderly`), whatever goes on in other threads, and what
a thread holds remains the beginning of what it will hold (`run_inOrder`).
-/

namespace ChatRelay.Traffic

variable {rt : Runtime} {s s' : Traffic} {threadId : Text} {move : Move} {moves : List Move}

/-! ## A turn that is lost -/

/-- A response that ends a message of one text. -/
def textReply (t : Text) : Response :=
  ⟨"m", .value "message_stop", "assistant", "claude", [.text t], .missing, .missing,
    ⟨.missing, .missing⟩⟩

/-- A turn on the thread `t` that says one text and is answered by another. -/
def textJob (delivery : Delivery) (said answered : Text) : Job where
  delivery := delivery
  input := { input := some said, threadId := some "t" }
  transport := ⟨fun _ _ => (Flow.one (textReply answered)).hold none, fun _ _ => .one (textReply answered),
    fun _ _ => .one _⟩
  signal := .never

/-- A streamed turn and one that is answered as a whole: both are planned before either goes on. -/
def overlapping : List Move :=
  [.start (textJob .streamed "a" "A"), .start (textJob .whole "b" "B"), .plan 0, .plan 1] ++
    List.replicate 5 (.advance 0) ++ List.replicate 3 (.advance 1)

/-- A runtime that sets no options. -/
def plainRuntime : Runtime := ⟨⟨Options.resolve {}, false⟩, fun _ => "id"⟩

/-- Both clients are told that their turn has completed. The thread holds the second one only. -/
theorem overlapping_turn_lost :
    (run plainRuntime (calm .fresh) overlapping).flights.map Flight.seen
      = [[.event (.session "t"), .event (.usage ⟨.missing, .missing⟩), .event (.done .stop none)],
        [.response (textReply "B")]] ∧
    (run plainRuntime (calm .fresh) overlapping).messages "t"
      = [⟨.user, .text "b"⟩, ⟨.assistant, .blocks [.text "B"]⟩] := by
  decide +kernel

/-! ## Turns that do not overlap -/

/-- A move that plans no turn of the thread while another one is between its planning and its write,
and that does not close the runtime. -/
def Polite (s : Traffic) (threadId : Text) : Move → Prop
  | .plan i => ∀ f, s.flights[i]? = some f → f.threadId = threadId →
      ∀ g ∈ s.flights, g.threadId = threadId → g.writes = []
  | .close => False
  | _ => True

/-- The turns of the thread take place one after another. -/
def OneByOne (rt : Runtime) (threadId : Text) : Traffic → List Move → Prop
  | _, [] => True
  | s, move :: moves => s.Polite threadId move ∧ OneByOne rt threadId (s.step rt move) moves

/-- Among the turns under way at most one, the `i`-th, is about to write to the thread, and what it
is about to write continues what the thread holds. -/
structure Orderly (held : List Message) (flights : List Flight) (threadId : Text) (i : Nat) :
    Prop where
  others : ∀ (j : Nat) (f : Flight), flights[j]? = some f → f.threadId = threadId → j ≠ i →
    f.writes = []
  current : ∀ f, flights[i]? = some f → f.threadId = threadId →
    Writes held threadId f.job.input f.writes

namespace Orderly

variable {held : List Message} {flights : List Flight} {i j : Nat} {f f' : Flight}

theorem none (held : List Message) (threadId : Text) (i : Nat) : Orderly held [] threadId i := by
  constructor
  · intro j f hf
    cases hf
  · intro f hf
    cases hf

theorem start (h : Orderly held flights threadId i) (job : Job) (id : Text) :
    Orderly held (flights ++ [.opened job id]) threadId i := by
  constructor
  · intro k g hg hthread hk
    rcases getElem?_start hg with hold | rfl
    · exact h.others k g hold hthread hk
    · rfl
  · intro g hg hthread
    rcases getElem?_start hg with hold | rfl
    · exact h.current g hold hthread
    · exact .inl rfl

/-- A turn of another thread has no part in the order. -/
theorem put_other (h : Orderly held flights threadId i) (at_j : flights[j]? = some f)
    (hother : f'.threadId ≠ threadId) : Orderly held (flights.set j f') threadId i := by
  constructor
  · intro k g hg hthread hk
    rw [getElem?_set at_j] at hg
    split at hg
    · cases hg
      exact absurd hthread hother
    · exact h.others k g hg hthread hk
  · intro g hg hthread
    rw [getElem?_set at_j] at hg
    split at hg
    · cases hg
      exact absurd hthread hother
    · exact h.current g hg hthread

/-- The turn that is about to write is the only one that has a part in the order. -/
theorem put_only (at_j : flights[j]? = some f)
    (hothers : ∀ (k : Nat) (g : Flight), flights[k]? = some g → g.threadId = threadId → k ≠ j →
      g.writes = [])
    (hwrites : f'.threadId = threadId → Writes held threadId f'.job.input f'.writes) :
    Orderly held (flights.set j f') threadId j := by
  constructor
  · intro k g hg hthread hk
    rw [getElem?_set at_j, if_neg (Ne.symm hk)] at hg
    exact hothers k g hg hthread hk
  · intro g hg hthread
    rw [getElem?_set at_j, if_pos rfl] at hg
    cases hg
    exact hwrites hthread

/-- A turn that goes on without a write keeps the order. -/
theorem put_same (h : Orderly held flights threadId i) (at_j : flights[j]? = some f)
    (thread : f'.threadId = f.threadId) (job : f'.job = f.job) (writes : f'.writes = f.writes) :
    Orderly held (flights.set j f') threadId i := by
  by_cases hji : j = i
  · subst hji
    refine put_only at_j h.others fun hthread => ?_
    rw [job, writes]
    exact h.current f at_j (thread ▸ hthread)
  · constructor
    · intro k g hg hthread hk
      rw [getElem?_set at_j] at hg
      split at hg
      · cases hg
        rw [writes]
        exact h.others j f at_j (thread ▸ hthread) hji
      · exact h.others k g hg hthread hk
    · intro g hg hthread
      rw [getElem?_set at_j, if_neg hji] at hg
      exact h.current g hg hthread

/-- What a turn of the thread writes continues what the thread holds. -/
theorem write (h : Orderly held flights threadId i) (at_j : flights[j]? = some f)
    (hthread : f.threadId = threadId) {id : Text} {history : List Message}
    {rest : List (Text × List Message)} (hwrites : f.writes = (id, history) :: rest) :
    j = i ∧ id = threadId ∧ ∃ (message : Message) (r : Response),
      f.job.input.userMessage = .ok message ∧ r.content ≠ [] ∧
        history = held ++ [message, r.toMessage] := by
  have hji : j = i := by
    by_cases hne : j = i
    · exact hne
    · rw [h.others j f at_j hthread hne] at hwrites
      cases hwrites
  subst hji
  have hcurrent := h.current f at_j hthread
  rw [hwrites] at hcurrent
  exact ⟨rfl, hcurrent.of_cons.2⟩

end Orderly

/-- What a thread holds has stayed, or the messages of one of its turns have come to it. -/
def Grows (s s' : Traffic) (threadId : Text) : Prop :=
  s'.messages threadId = s.messages threadId ∨
    ∃ f ∈ s.flights, ∃ (message : Message) (r : Response), f.threadId = threadId ∧
      f.job.input.userMessage = .ok message ∧ r.content ≠ [] ∧
      s'.messages threadId = s.messages threadId ++ [message, r.toMessage]

/-- The invariant of turns that take place one after another. -/
structure InOrder (s : Traffic) (threadId : Text) : Prop where
  settled : s.Settled
  orderly : ∃ i, Orderly (s.messages threadId) s.flights threadId i

theorem inOrder_calm (m : Memory) (threadId : Text) : (calm m).InOrder threadId :=
  ⟨settled_calm m, 0, .none ..⟩

theorem step_orderly (htakes : Takes rt s move s') (hsettled : s.Settled) {i : Nat}
    (h : Orderly (s.messages threadId) s.flights threadId i) (hpolite : s.Polite threadId move) :
    (∃ i, Orderly (s'.messages threadId) s'.flights threadId i) ∧ s.Grows s' threadId := by
  cases htakes with
  | idle => exact ⟨⟨i, h⟩, .inl rfl⟩
  | close => cases hpolite
  | start job id memory same =>
      have hmessages : memory.threads.messages threadId = s.messages threadId := by
        rw [same, messages]
      refine ⟨⟨i, ?_⟩, .inl hmessages⟩
      show Orderly (memory.threads.messages threadId) (s.flights ++ [.opened job id]) threadId i
      rw [hmessages]
      exact h.start job id
  | plan j f at_j unplanned =>
      refine ⟨?_, .inl rfl⟩
      by_cases hf : f.threadId = threadId
      · refine ⟨j, .put_only at_j ?_ ?_⟩
        · intro k g hg hthread _
          exact hpolite f at_j hf g (List.mem_of_getElem? hg) hthread
        · intro _
          subst hf
          exact f.job.flow_writes rt.relay s.memory.threads f.threadId
      · exact ⟨i, h.put_other at_j hf⟩
  | goOn j f f' at_j thread job asked writes =>
      exact ⟨⟨i, h.put_same at_j thread job writes⟩, .inl rfl⟩
  | write j f f' at_j thread job asked id history writes =>
      obtain ⟨read, hown⟩ := hsettled j f at_j
      rw [writes] at hown
      obtain ⟨hrest, rfl, -⟩ := hown.of_cons
      by_cases hf : f.threadId = threadId
      · subst hf
        obtain ⟨rfl, -, message, r, hmessage, hcontent, rfl⟩ := h.write at_j rfl writes
        constructor
        · exact ⟨j, .put_only at_j h.others fun _ => .inl hrest⟩
        · exact .inr ⟨f, List.mem_of_getElem? at_j, message, r, rfl, hmessage, hcontent,
            Threads.messages_put_self ..⟩
      · have hmessages : (s.memory.threads.put f.threadId history).messages threadId
            = s.messages threadId := Threads.messages_put_other _ _ _ _ (Ne.symm hf)
        refine ⟨⟨i, ?_⟩, .inl hmessages⟩
        show Orderly ((s.memory.threads.put f.threadId history).messages threadId)
          (s.flights.set j f') threadId i
        rw [hmessages]
        exact h.put_other at_j (thread ▸ hf)

theorem Grows.prefix (h : s.Grows s' threadId) :
    s.messages threadId <+: s'.messages threadId := by
  obtain hsame | ⟨f, -, message, r, -, -, -, hmessages⟩ := h
  · exact hsame ▸ List.prefix_refl _
  · exact hmessages ▸ List.prefix_append ..

theorem step_inOrder (h : s.InOrder threadId) (hpolite : s.Polite threadId move) :
    (s.step rt move).InOrder threadId ∧ s.Grows (s.step rt move) threadId := by
  have htakes := step_takes rt s move
  obtain ⟨i, horderly⟩ := h.orderly
  obtain ⟨horderly', hgrows⟩ := step_orderly htakes h.settled horderly hpolite
  exact ⟨⟨step_settled h.settled htakes, horderly'⟩, hgrows⟩

/-- While the turns of a thread take place one after another, what it holds is kept. -/
theorem run_inOrder (h : s.InOrder threadId) (hturns : OneByOne rt threadId s moves) :
    (run rt s moves).InOrder threadId ∧
      s.messages threadId <+: (run rt s moves).messages threadId := by
  induction moves generalizing s with
  | nil => exact ⟨h, List.prefix_refl _⟩
  | cons move moves ih =>
      obtain ⟨hpolite, hturns⟩ := hturns
      obtain ⟨hnext, hgrows⟩ := step_inOrder h hpolite
      obtain ⟨hlast, hprefix⟩ := ih hnext hturns
      exact ⟨hlast, hgrows.prefix.trans hprefix⟩

theorem run_append (rt : Runtime) (s : Traffic) (moves later : List Move) :
    run rt s (moves ++ later) = run rt (run rt s moves) later := List.foldl_append

theorem oneByOne_append {later : List Move} :
    OneByOne rt threadId s (moves ++ later)
      ↔ OneByOne rt threadId s moves ∧ OneByOne rt threadId (run rt s moves) later := by
  induction moves generalizing s with
  | nil => exact ⟨fun h => ⟨trivial, h⟩, fun h => h.2⟩
  | cons move moves ih =>
      show _ ∧ OneByOne rt threadId (s.step rt move) (moves ++ later) ↔ (_ ∧ _) ∧ _
      rw [ih, and_assoc]
      rfl

theorem step_write {i : Nat} {f f' : Flight} (h : s.InOrder threadId)
    (hf : s.flights[i]? = some f) (hthread : f.threadId = threadId)
    (hf' : (s.step rt (.advance i)).flights[i]? = some f') (hwrites : f.writes ≠ [])
    (hdone : f'.writes = []) :
    ∃ (message : Message) (r : Response), f.job.input.userMessage = .ok message ∧
      (s.step rt (.advance i)).messages threadId
        = s.messages threadId ++ [message, r.toMessage] := by
  have htakes := step_takes rt s (.advance i)
  generalize s.step rt (.advance i) = s' at htakes hf'
  cases htakes with
  | idle =>
      cases hf.symm.trans hf'
      exact absurd hdone hwrites
  | goOn _ g g' at_i thread job asked writes =>
      have hf' : (s.flights.set i g')[i]? = some f' := hf'
      rw [getElem?_set at_i, if_pos rfl] at hf'
      cases hf'
      cases hf.symm.trans at_i
      exact absurd (writes ▸ hdone) hwrites
  | write _ g g' at_i thread job asked id history writes =>
      cases hf.symm.trans at_i
      obtain ⟨k, horderly⟩ := h.orderly
      obtain ⟨-, rfl, message, r, hmessage, -, rfl⟩ := horderly.write hf hthread writes
      exact ⟨message, r, hmessage, Threads.messages_put_self ..⟩

/-- A turn whose write is made while the turns of its thread take place one after another is not
lost. Its two messages come behind what the thread holds by then, and there they stay. -/
theorem turn_kept {m : Memory} {i : Nat} {f f' : Flight} {later : List Move}
    (hturns : OneByOne rt threadId (calm m) (moves ++ .advance i :: later))
    (hf : (run rt (calm m) moves).flights[i]? = some f) (hthread : f.threadId = threadId)
    (hf' : ((run rt (calm m) moves).step rt (.advance i)).flights[i]? = some f')
    (hwrites : f.writes ≠ []) (hdone : f'.writes = []) :
    ∃ (message : Message) (r : Response), f.job.input.userMessage = .ok message ∧
      (run rt (calm m) moves).messages threadId ++ [message, r.toMessage]
        <+: (run rt (calm m) (moves ++ .advance i :: later)).messages threadId := by
  obtain ⟨hbefore, hpolite, hlater⟩ := oneByOne_append.mp hturns
  have hinOrder := (run_inOrder (inOrder_calm m threadId) hbefore).1
  obtain ⟨message, r, hmessage, hwritten⟩ := step_write hinOrder hf hthread hf' hwrites hdone
  have hstays := (run_inOrder (step_inOrder hinOrder hpolite).1 hlater).2
  refine ⟨message, r, hmessage, ?_⟩
  rw [run_append, ← hwritten]
  exact hstays

/-- The same two turns, the second planned when the first has made its write. -/
example :
    (run plainRuntime (calm .fresh)
      ([.start (textJob .streamed "a" "A"), .start (textJob .whole "b" "B"), .plan 0, .advance 0,
        .advance 0, .plan 1] ++ List.replicate 3 (.advance 1))).messages "t"
      = [⟨.user, .text "a"⟩, ⟨.assistant, .blocks [.text "A"]⟩, ⟨.user, .text "b"⟩,
        ⟨.assistant, .blocks [.text "B"]⟩] := by
  decide +kernel

end ChatRelay.Traffic
