import ChatRelay.Proofs.Traffic.Overlap

/-!
# Threads apart

All threads of a runtime lie in one store, and the turns of all of them may overlap. Still the turns
on one thread go as if there were no others: leaving out every move of the others changes neither
what these turns ask, see and have ahead of them nor what their thread holds (`turns_apart`).

`Apart` relates the traffic to the one without the others, and `step_apart` keeps it up. A move of a
turn on the thread is made on both sides, and it does the same there, since a turn is planned on the
history of its own thread (`planned_congr`). A move of another turn is made on one side only, and
what it writes goes elsewhere, since what a turn writes is settled (`Settled`).
-/

namespace ChatRelay

/-! ## One place of a list -/

section

variable {α : Type} {p : α → Bool} {l : List α} {i : Nat} {a b : α}

theorem getElem?_filter_countP (h : l[i]? = some a) (ha : p a) :
    (l.filter p)[(l.take i).countP p]? = some a := by
  induction l generalizing i with
  | nil => cases h
  | cons c l ih =>
      cases i with
      | zero =>
          cases h
          simp [ha]
      | succ i =>
          have hrest := ih h
          by_cases hc : p c <;> simp [hc, hrest]

theorem filter_set_of_pos (h : l[i]? = some a) (ha : p a) (hb : p b) :
    (l.set i b).filter p = (l.filter p).set ((l.take i).countP p) b := by
  induction l generalizing i with
  | nil => cases h
  | cons c l ih =>
      cases i with
      | zero =>
          cases h
          simp [ha, hb]
      | succ i =>
          have hrest := ih h
          by_cases hc : p c <;> simp [hc, hrest]

theorem filter_set_of_neg (h : l[i]? = some a) (ha : ¬ p a) (hb : ¬ p b) :
    (l.set i b).filter p = l.filter p := by
  induction l generalizing i with
  | nil => cases h
  | cons c l ih =>
      cases i with
      | zero =>
          cases h
          simp [ha, hb]
      | succ i =>
          have hrest := ih h
          by_cases hc : p c <;> simp [hc, hrest]

theorem map_set_of_eq {β : Type} {f : α → β} (h : l[i]? = some a) (hb : f b = f a) :
    (l.set i b).map f = l.map f := by
  induction l generalizing i with
  | nil => cases h
  | cons c l ih =>
      cases i with
      | zero =>
          cases h
          simp [hb]
      | succ i =>
          have hrest := ih h
          simp [hrest]

end

/-! ## What a turn reads and writes -/

section

variable {threads threads' : Threads} {threadId : Text}

theorem Threads.messages_congr (h : threads.history? threadId = threads'.history? threadId) :
    threads.messages threadId = threads'.messages threadId := by
  rw [messages, messages, h]

theorem Turn.plan_congr (h : threads.history? threadId = threads'.history? threadId)
    (defaults : Options) (input : ChatRequest) (stream : Bool) :
    plan defaults threads threadId input stream = plan defaults threads' threadId input stream := by
  rw [plan, plan, Threads.messages_congr h]

/-- A turn is planned on the history of its own thread. -/
theorem Flight.planned_congr {f : Flight}
    (h : threads.history? f.threadId = threads'.history? f.threadId) (relay : Relay) :
    f.planned relay threads = f.planned relay threads' := by
  have hplan := Turn.plan_congr h
  simp only [planned, Job.request?, Job.flow, Turn.respond, Turn.complete, hplan]

theorem TurnEffect.history?_stored_congr
    (h : threads.history? threadId = threads'.history? threadId) (effects : List TurnEffect) :
    (stored effects threads).history? threadId = (stored effects threads').history? threadId := by
  induction effects generalizing threads threads' with
  | nil => exact h
  | cons e effects ih =>
      cases e with
      | log entry | call c | completed r => exact ih h
      | store id history =>
          refine ih ?_
          by_cases hid : threadId = id
          · subst hid
            rw [Threads.history?_put_self, Threads.history?_put_self]
          · rw [Threads.history?_put_other _ _ _ _ hid, Threads.history?_put_other _ _ _ _ hid, h]

theorem TurnEffect.history?_stored_other {effects : List TurnEffect}
    (h : ∀ w ∈ writes effects, w.1 ≠ threadId) (threads : Threads) :
    (stored effects threads).history? threadId = threads.history? threadId := by
  rw [stored_eq_writes]
  generalize writes effects = ws at h
  induction ws generalizing threads with
  | nil => rfl
  | cons w ws ih =>
      obtain ⟨hw, hws⟩ := List.forall_mem_cons.mp h
      rw [List.foldl_cons, ih _ hws, Threads.history?_put_other _ _ _ _ (Ne.symm hw)]

end

theorem Writes.thread {read : List Message} {threadId : Text} {input : ChatRequest}
    {writes : List (Text × List Message)} (h : Writes read threadId input writes)
    {w : Text × List Message} (hw : w ∈ writes) : w.1 = threadId := by
  obtain rfl | ⟨message, r, -, -, rfl⟩ := h
  · cases hw
  · rw [List.mem_singleton.mp hw]

/-! ## One move of a turn -/

namespace Flight

/-- The planning of a turn: what it does, and the turn that it leaves. -/
def plan? (relay : Relay) (threads : Threads) (f : Flight) : Option (List TurnEffect × Flight) :=
  match f.ahead with
  | some _ => none
  | none => some ([], f.planned relay threads)

/-- The next act of a turn: what it does, and the turn that it leaves. -/
def advance? (f : Flight) : Option (List TurnEffect × Flight) :=
  match f.ahead with
  | none => none
  | some ⟨[], _⟩ => none
  | some ⟨.yield x :: acts, failure⟩ =>
    some ([], { f with seen := f.seen ++ [x], ahead := some ⟨acts, failure⟩ })
  | some ⟨.effect e :: acts, failure⟩ => some ([e], { f with ahead := some ⟨acts, failure⟩ })

variable {f f' : Flight} {effects : List TurnEffect}

theorem plan?_eq_some {relay : Relay} {threads : Threads}
    (h : f.plan? relay threads = some (effects, f')) :
    f'.threadId = f.threadId ∧ f'.job = f.job ∧ TurnEffect.writes effects = [] := by
  rw [plan?] at h
  split at h
  · cases h
  · cases h
    exact ⟨rfl, rfl, rfl⟩

theorem advance?_eq_some (h : f.advance? = some (effects, f')) :
    f'.threadId = f.threadId ∧ f'.job = f.job ∧ TurnEffect.writes effects ⊆ f.writes := by
  obtain ⟨job, threadId, asked, seen, ahead⟩ := f
  cases ahead with
  | none => cases h
  | some flow =>
      obtain ⟨acts, failure⟩ := flow
      cases acts with
      | nil => cases h
      | cons act acts =>
          cases act with
          | yield x =>
              cases h
              exact ⟨rfl, rfl, List.nil_subset _⟩
          | effect e =>
              cases h
              refine ⟨rfl, rfl, ?_⟩
              intro w hw
              have hmem : w ∈ TurnEffect.writes ([e] ++ acts.filterMap Act.effect?) := by
                rw [TurnEffect.writes_append]
                exact List.mem_append_left _ hw
              exact hmem

end Flight

namespace Traffic

variable {s : Traffic} {i : Nat}

/-- The traffic after one turn has done something, if it does anything. -/
def act (s : Traffic) (i : Nat) (next : Flight → Option (List TurnEffect × Flight)) : Traffic :=
  match s.flights[i]?.bind next with
  | none => s
  | some (effects, f') => { s with memory := s.memory.after effects }.put i f'

theorem step_plan (rt : Runtime) (s : Traffic) (i : Nat) :
    s.step rt (.plan i) = s.act i (Flight.plan? rt.relay s.memory.threads) := by
  rw [step, act]
  cases s.flights[i]? with
  | none => rfl
  | some f =>
      obtain ⟨job, threadId, asked, seen, ahead⟩ := f
      cases ahead <;> rfl

theorem step_advance (rt : Runtime) (s : Traffic) (i : Nat) :
    s.step rt (.advance i) = s.act i Flight.advance? := by
  rw [step, act]
  cases s.flights[i]? with
  | none => rfl
  | some f =>
      obtain ⟨job, threadId, asked, seen, ahead⟩ := f
      cases ahead with
      | none => rfl
      | some flow =>
          obtain ⟨acts, failure⟩ := flow
          cases acts with
          | nil => rfl
          | cons act acts => cases act <;> rfl

theorem act_idle {next : Flight → Option (List TurnEffect × Flight)}
    (h : s.flights[i]?.bind next = none) : s.act i next = s := by
  rw [act, h]

theorem act_some {next : Flight → Option (List TurnEffect × Flight)} {effects : List TurnEffect}
    {f' : Flight} (h : s.flights[i]?.bind next = some (effects, f')) :
    s.act i next = { s with memory := s.memory.after effects }.put i f' := by
  rw [act, h]

end Traffic

/-! ## The others left out -/

/-- Whether a turn asks for a thread. -/
def Job.on (threadId : Text) (job : Job) : Bool := job.input.thread? = some threadId

/-- Whether a turn is on a thread. -/
def Flight.on (threadId : Text) (f : Flight) : Bool := f.threadId = threadId

/-- The turn that a move asks for. -/
def Move.job? : Move → Option Job
  | .start job => some job
  | .plan _ | .advance _ | .close => none

/-- A move as one of the turns on a thread alone, unless it belongs to another turn. The turns that
were asked for before are given; the turns on the thread are counted among themselves. -/
def Move.only (threadId : Text) (jobs : List Job) : Move → Option Move
  | .start job => if job.on threadId then some (.start job) else none
  | .plan i =>
    if jobs[i]?.any (Job.on threadId) then some (.plan ((jobs.take i).countP (Job.on threadId)))
    else none
  | .advance i =>
    if jobs[i]?.any (Job.on threadId) then some (.advance ((jobs.take i).countP (Job.on threadId)))
    else none
  | .close => some .close

namespace Traffic

variable {rt : Runtime} {s s' alone : Traffic} {threadId : Text} {i : Nat} {f : Flight}
  {move : Move}

/-- The moves of the turns on a thread, in their order. -/
def only (threadId : Text) : List Job → List Move → List Move
  | _, [] => []
  | jobs, move :: moves =>
    (move.only threadId jobs).toList ++ only threadId (jobs ++ move.job?.toList) moves

/-- The turns on a thread are the same in both traffics, and so is what the thread holds. -/
structure Apart (threadId : Text) (s alone : Traffic) : Prop where
  flights : alone.flights = s.flights.filter (Flight.on threadId)
  history : alone.memory.threads.history? threadId = s.memory.threads.history? threadId

/-- Every turn is on the thread that it asks for. -/
def Named (s : Traffic) : Prop := ∀ f ∈ s.flights, f.job.input.thread? = some f.threadId

theorem Named.on (h : s.Named) (hf : f ∈ s.flights) : f.job.on threadId = f.on threadId := by
  rw [Job.on, h f hf, Flight.on]
  simp

/-- The number of a turn among those on a thread. -/
theorem Named.countP (h : s.Named) (i : Nat) :
    ((s.flights.map Flight.job).take i).countP (Job.on threadId)
      = (s.flights.take i).countP (Flight.on threadId) := by
  rw [← List.map_take, List.countP_map]
  refine List.countP_congr fun f hf => ?_
  rw [Function.comp_apply, h.on (List.mem_of_mem_take hf)]

theorem Named.of_map {s s' : Traffic} (h : s.Named)
    (hmap : s'.flights.map (fun f => (f.job, f.threadId))
      = s.flights.map fun f => (f.job, f.threadId)) : s'.Named := by
  intro f' hf'
  have hmem := List.mem_map_of_mem (f := fun f => (f.job, f.threadId)) hf'
  rw [hmap] at hmem
  obtain ⟨f, hf, horigin⟩ := List.mem_map.mp hmem
  obtain ⟨hjob, hthread⟩ := Prod.mk.inj horigin
  rw [← hjob, ← hthread]
  exact h f hf

section act

variable {next next' : Flight → Option (List TurnEffect × Flight)}

/-- A turn on the thread does on both sides the same. -/
theorem Apart.act_own (h : Apart threadId s alone) (at_i : s.flights[i]? = some f)
    (hon : f.on threadId) (hsame : next' f = next f)
    (hkeep : ∀ effects f', next f = some (effects, f') → f'.threadId = f.threadId) :
    Apart threadId (s.act i next)
      (alone.act ((s.flights.take i).countP (Flight.on threadId)) next') := by
  have at_k : alone.flights[(s.flights.take i).countP (Flight.on threadId)]? = some f := by
    rw [h.flights]
    exact getElem?_filter_countP at_i hon
  cases hnext : next f with
  | none =>
      rw [act_idle (by rw [at_i]; exact hnext), act_idle (by rw [at_k]; exact hsame.trans hnext)]
      exact h
  | some done =>
      obtain ⟨effects, f'⟩ := done
      have hon' : f'.on threadId := by
        rw [Flight.on, hkeep effects f' hnext]
        exact hon
      rw [act_some (by rw [at_i]; exact hnext), act_some (by rw [at_k]; exact hsame.trans hnext)]
      constructor
      · show alone.flights.set _ f' = (s.flights.set i f').filter (Flight.on threadId)
        rw [h.flights, filter_set_of_pos at_i hon hon']
      · exact TurnEffect.history?_stored_congr h.history effects

/-- A turn on another thread does nothing to the thread. -/
theorem Apart.act_other (h : Apart threadId s alone) (at_i : s.flights[i]? = some f)
    (hon : ¬ f.on threadId)
    (hkeep : ∀ effects f', next f = some (effects, f') → f'.threadId = f.threadId ∧
      ∀ w ∈ TurnEffect.writes effects, w.1 = f.threadId) :
    Apart threadId (s.act i next) alone := by
  cases hnext : next f with
  | none =>
      rw [act_idle (by rw [at_i]; exact hnext)]
      exact h
  | some done =>
      obtain ⟨effects, f'⟩ := done
      obtain ⟨hthread, hwrites⟩ := hkeep effects f' hnext
      have hne : f.threadId ≠ threadId := by simpa [Flight.on] using hon
      have hon' : ¬ f'.on threadId := by
        rw [Flight.on, hthread]
        exact hon
      rw [act_some (by rw [at_i]; exact hnext)]
      constructor
      · show alone.flights = (s.flights.set i f').filter (Flight.on threadId)
        rw [h.flights, filter_set_of_neg at_i hon hon']
      · show _ = (TurnEffect.stored effects s.memory.threads).history? threadId
        have hother : ∀ w ∈ TurnEffect.writes effects, w.1 ≠ threadId := by
          intro w hw
          rw [hwrites w hw]
          exact hne
        rw [TurnEffect.history?_stored_other hother, h.history]

/-- What one turn does is done on both sides, or it does not matter to the thread. -/
theorem Apart.act (h : Apart threadId s alone) (hnamed : s.Named) (i : Nat)
    (hsame : ∀ f, f.on threadId → next' f = next f)
    (hkeep : ∀ f ∈ s.flights, ∀ effects f', next f = some (effects, f') →
      f'.threadId = f.threadId ∧ ∀ w ∈ TurnEffect.writes effects, w.1 = f.threadId) :
    Apart threadId (s.act i next)
      (if (s.flights.map Flight.job)[i]?.any (Job.on threadId) then
        alone.act (((s.flights.map Flight.job).take i).countP (Job.on threadId)) next'
      else alone) := by
  rw [List.getElem?_map]
  cases at_i : s.flights[i]? with
  | none =>
      rw [act_idle (by rw [at_i]; rfl)]
      exact h
  | some f =>
      have hf := List.mem_of_getElem? at_i
      rw [Option.map_some, Option.any_some, hnamed.on hf, hnamed.countP]
      split
      · exact h.act_own at_i ‹_› (hsame f ‹_›) fun effects f' hnext => (hkeep f hf _ _ hnext).1
      · exact h.act_other at_i ‹_› (hkeep f hf)

theorem act_map {β : Type} {g : Flight → β}
    (hkeep : ∀ f effects f', next f = some (effects, f') → g f' = g f) (i : Nat) :
    (s.act i next).flights.map g = s.flights.map g := by
  cases at_i : s.flights[i]? with
  | none => rw [act_idle (by rw [at_i]; rfl)]
  | some f =>
      cases hnext : next f with
      | none => rw [act_idle (by rw [at_i]; exact hnext)]
      | some done =>
          rw [act_some (by rw [at_i]; exact hnext)]
          exact map_set_of_eq at_i (hkeep f _ _ hnext)

/-- What one turn does changes neither what it asks for nor where. -/
theorem act_jobs (hnamed : s.Named) (i : Nat)
    (hkeep : ∀ f effects f', next f = some (effects, f') →
      f'.threadId = f.threadId ∧ f'.job = f.job) :
    (s.act i next).flights.map Flight.job = s.flights.map Flight.job ∧ (s.act i next).Named := by
  constructor
  · exact act_map (fun f effects f' hnext => (hkeep f effects f' hnext).2) i
  · refine hnamed.of_map (act_map (fun f effects f' hnext => ?_) i)
    obtain ⟨hthread, hjob⟩ := hkeep f effects f' hnext
    exact Prod.ext hjob hthread

end act

/-! ## All moves -/

theorem run_single (rt : Runtime) (s : Traffic) (move : Move) :
    run rt s [move] = s.step rt move := rfl

/-- The turns that were asked for, and the thread of each. -/
theorem step_jobs (rt : Runtime) (hnamed : s.Named)
    (hmove : ∀ job, move = .start job → job.input.thread? ≠ none) :
    (s.step rt move).flights.map Flight.job = s.flights.map Flight.job ++ move.job?.toList ∧
      (s.step rt move).Named := by
  cases move with
  | start job =>
      obtain ⟨id, hid⟩ := Option.ne_none_iff_exists'.mp (hmove job rfl)
      have hstep : s.step rt (.start job) = ⟨s.memory, s.flights ++ [.opened job id]⟩ := by
        simp only [step, Runtime.threadFor, hid]
      rw [hstep]
      refine ⟨List.map_append, ?_⟩
      intro f hf
      rcases List.mem_append.mp hf with hf | hf
      · exact hnamed f hf
      · rw [List.mem_singleton.mp hf]
        exact hid
  | plan i =>
      rw [step_plan, Move.job?, Option.toList_none, List.append_nil]
      refine act_jobs hnamed i fun f effects f' hnext => ?_
      obtain ⟨hthread, hjob, -⟩ := Flight.plan?_eq_some hnext
      exact ⟨hthread, hjob⟩
  | advance i =>
      rw [step_advance, Move.job?, Option.toList_none, List.append_nil]
      refine act_jobs hnamed i fun f effects f' hnext => ?_
      obtain ⟨hthread, hjob, -⟩ := Flight.advance?_eq_some hnext
      exact ⟨hthread, hjob⟩
  | close =>
      rw [Move.job?, Option.toList_none, List.append_nil]
      exact ⟨rfl, hnamed⟩

/-- A move and what is left of it without the other turns keep the traffics alike. -/
theorem step_apart (h : Apart threadId s alone) (hnamed : s.Named) (hsettled : s.Settled)
    (hmove : ∀ job, move = .start job → job.input.thread? ≠ none) :
    Apart threadId (s.step rt move)
      (run rt alone (move.only threadId (s.flights.map Flight.job)).toList) := by
  cases move with
  | start job =>
      obtain ⟨id, hid⟩ := Option.ne_none_iff_exists'.mp (hmove job rfl)
      have hstep (t : Traffic) :
          t.step rt (.start job) = ⟨t.memory, t.flights ++ [.opened job id]⟩ := by
        simp only [step, Runtime.threadFor, hid]
      have hon : job.on threadId = (Flight.opened job id).on threadId := by
        rw [Job.on, Flight.on, decide_eq_decide, hid]
        exact Option.some_inj
      rw [hstep, Move.only, hon]
      split
      · rw [Option.toList_some, run_single, hstep]
        refine ⟨?_, h.history⟩
        rw [List.filter_append, h.flights, List.filter_cons_of_pos ‹_›, List.filter_nil]
      · refine ⟨?_, h.history⟩
        rw [List.filter_append, List.filter_cons_of_neg ‹_›, List.filter_nil, List.append_nil]
        exact h.flights
  | plan i =>
      have hsame (f : Flight) (hon : f.on threadId) :
          f.plan? rt.relay alone.memory.threads = f.plan? rt.relay s.memory.threads := by
        have hthread : f.threadId = threadId := by simpa [Flight.on] using hon
        have hplanned := Flight.planned_congr (hthread ▸ h.history) rt.relay
        simp only [Flight.plan?, hplanned]
      have hkeep : ∀ f ∈ s.flights, ∀ effects f',
          f.plan? rt.relay s.memory.threads = some (effects, f') →
          f'.threadId = f.threadId ∧ ∀ w ∈ TurnEffect.writes effects, w.1 = f.threadId := by
        intro f _ effects f' hnext
        obtain ⟨hthread, -, hwrites⟩ := Flight.plan?_eq_some hnext
        rw [hwrites]
        exact ⟨hthread, List.forall_mem_nil _⟩
      have hact := h.act hnamed i hsame hkeep
      rw [step_plan, Move.only]
      split
      · rw [if_pos ‹_›] at hact
        rw [Option.toList_some, run_single, step_plan]
        exact hact
      · rw [if_neg ‹_›] at hact
        exact hact
  | advance i =>
      have hkeep : ∀ f ∈ s.flights, ∀ effects f', f.advance? = some (effects, f') →
          f'.threadId = f.threadId ∧ ∀ w ∈ TurnEffect.writes effects, w.1 = f.threadId := by
        intro f hf effects f' hnext
        obtain ⟨hthread, -, hwrites⟩ := Flight.advance?_eq_some hnext
        refine ⟨hthread, fun w hw => ?_⟩
        obtain ⟨j, hj⟩ := List.mem_iff_getElem?.mp hf
        obtain ⟨read, hown⟩ := hsettled j f hj
        exact hown.thread (hwrites hw)
      have hact := h.act hnamed i (fun _ _ => rfl) hkeep
      rw [step_advance, Move.only]
      split
      · rw [if_pos ‹_›] at hact
        rw [Option.toList_some, run_single, step_advance]
        exact hact
      · rw [if_neg ‹_›] at hact
        exact hact
  | close => exact ⟨h.flights, rfl⟩

theorem run_apart {moves : List Move} (h : Apart threadId s alone) (hnamed : s.Named)
    (hsettled : s.Settled) (hmoves : ∀ job, .start job ∈ moves → job.input.thread? ≠ none) :
    Apart threadId (run rt s moves)
      (run rt alone (only threadId (s.flights.map Flight.job) moves)) := by
  induction moves generalizing s alone with
  | nil => exact h
  | cons move moves ih =>
      have hmove : ∀ job, move = .start job → job.input.thread? ≠ none := by
        rintro job rfl
        exact hmoves job List.mem_cons_self
      obtain ⟨hjobs, hnamed'⟩ := step_jobs rt hnamed hmove
      rw [only, run_append, ← hjobs]
      exact ih (step_apart h hnamed hsettled hmove) hnamed'
        (step_settled hsettled (step_takes rt s move))
        fun job hjob => hmoves job (List.mem_cons_of_mem _ hjob)

theorem run_named {moves : List Move} (hnamed : s.Named)
    (hmoves : ∀ job, .start job ∈ moves → job.input.thread? ≠ none) : (run rt s moves).Named := by
  induction moves generalizing s with
  | nil => exact hnamed
  | cons move moves ih =>
      refine ih (step_jobs rt hnamed ?_).2 fun job hjob => hmoves job (List.mem_cons_of_mem _ hjob)
      rintro job rfl
      exact hmoves job List.mem_cons_self

theorem Named.trim (h : s.Named) (hf : f ∈ s.flights) {id : Text}
    (hid : f.job.input.threadId = some id) : id.trim = f.threadId := by
  have hthread := h f hf
  rw [ChatRequest.thread?, hid] at hthread
  exact (Text.trimmed?_eq_some.mp hthread).1

/-- If every turn names its thread, then the turns on a thread ask, see and have ahead of them what
they would if they were alone, and the thread holds what it would. Two turns are on the same thread
exactly if the ids that they name are the same but for white space around them. -/
theorem turns_apart (rt : Runtime) (m : Memory) {moves : List Move}
    (hmoves : ∀ job, .start job ∈ moves → ∃ id, job.input.threadId = some id ∧ id.trim ≠ [])
    (threadId : Text) :
    (run rt (calm m) (only threadId [] moves)).flights
        = (run rt (calm m) moves).flights.filter (Flight.on threadId) ∧
      (run rt (calm m) (only threadId [] moves)).memory.threads.history? threadId
        = (run rt (calm m) moves).memory.threads.history? threadId ∧
      ∀ f ∈ (run rt (calm m) moves).flights, ∀ g ∈ (run rt (calm m) moves).flights, ∀ a b,
        f.job.input.threadId = some a → g.job.input.threadId = some b →
          (f.threadId = g.threadId ↔ a.trim = b.trim) := by
  have hnames : ∀ job, .start job ∈ moves → job.input.thread? ≠ none := by
    intro job hjob
    obtain ⟨id, hid, hne⟩ := hmoves job hjob
    have htrimmed : Text.trimmed? id = some id.trim := Text.trimmed?_eq_some.mpr ⟨rfl, hne⟩
    rw [ChatRequest.thread?, hid, Option.bind_some, htrimmed]
    exact Option.some_ne_none _
  have hcalm : (calm m).Named := by
    intro f hf
    cases hf
  have hapart : Apart threadId (run rt (calm m) moves) (run rt (calm m) (only threadId [] moves)) :=
    run_apart ⟨rfl, rfl⟩ hcalm (settled_calm m) hnames
  have hnamed : (run rt (calm m) moves).Named := run_named hcalm hnames
  refine ⟨hapart.flights, hapart.history, ?_⟩
  intro f hf g hg a b ha hb
  rw [hnamed.trim hf ha, hnamed.trim hg hb]

/-- A turn on the thread `t` and one on another thread, which it writes with white space. -/
def mixed : List Move :=
  [.start { textJob .whole "b" "B" with input := { input := some "b", threadId := some " u " } },
    .start (textJob .whole "a" "A"), .plan 0, .plan 1, .advance 0, .advance 1, .advance 1,
    .advance 0]

theorem turns_apart_mixed :
    only "t" [] mixed = [.start (textJob .whole "a" "A"), .plan 0, .advance 0, .advance 0] ∧
    (run plainRuntime (calm .fresh) (only "t" [] mixed)).flights
      = (run plainRuntime (calm .fresh) mixed).flights.filter (Flight.on "t") ∧
    (run plainRuntime (calm .fresh) (only "t" [] mixed)).memory.threads.history? "t"
      = (run plainRuntime (calm .fresh) mixed).memory.threads.history? "t" := by
  have hnamed : ∀ job, Move.start job ∈ mixed →
      ∃ id, job.input.threadId = some id ∧ id.trim ≠ [] := by
    intro job hjob
    simp only [mixed, List.mem_cons, Move.start.injEq, List.not_mem_nil, or_false,
      reduceCtorEq] at hjob
    rcases hjob with rfl | rfl
    · exact ⟨" u ", rfl, by decide⟩
    · exact ⟨"t", rfl, by decide⟩
  obtain ⟨hflights, hhistory, -⟩ := turns_apart plainRuntime .fresh hnamed "t"
  exact ⟨rfl, hflights, hhistory⟩

end Traffic

end ChatRelay
