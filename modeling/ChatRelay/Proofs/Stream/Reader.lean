import ChatRelay.Proofs.Stream.Body
import ChatRelay.Stream.Reader

/-!
# What a reader leaves behind

A reader gives its stream back unless it has shown a failure, and it shows a failure only if the stream
has failed. Both are invariants of the moves (`Tells`), and what one move does is read off the stream:
a read of a failed stream raises its failure and so does cancelling it (`Feed.leave_cases`), which leaves
the stream locked.

So a consumer that stops meets the failure of a stream that has failed by then, although it has asked
for nothing more (`stop_eq_failed_iff`). A source that acts only when it is asked cannot fail in the
meantime, and there stopping is the same as taking the beginning of the body's flow (`lazy_eq_take`).
-/

namespace ChatRelay

variable {α : Type}

namespace Feed

variable {body : Body α} {given : List α} {s s' : Feed α} {f : Failure}

/-- The chunks that a stream still holds or gets. -/
def left (s : Feed α) : List α :=
  match s.condition with
  | .filling queue => queue ++ s.coming
  | .draining c queue => c :: queue
  | .closed | .failed _ => []

/-- A stream comes from a body of which some chunks were given out: it fails only as the body does, and
what it holds are the next chunks of the body. -/
structure From (body : Body α) (given : List α) (s : Feed α) : Prop where
  failure : s.failure = body.failure
  failed : ∀ f, s.condition = .failed f → body.failure = some f
  chunks : given ++ s.left <+: body.chunks

theorem from_ofBody (body : Body α) : From body [] (.ofBody body) :=
  ⟨rfl, nofun, List.prefix_rfl⟩

theorem drained_ne_failed (queue : List α) (f : Failure) : Condition.drained queue ≠ .failed f := by
  cases queue <;> nofun

theorem left_drained (queue coming : List α) (failure : Option Failure)
    (locked cancelled : Bool) :
    (⟨coming, failure, .drained queue, locked, cancelled⟩ : Feed α).left = queue := by
  cases queue <;> rfl

/-! ## What may happen to a stream -/

theorem From.forget (h : From body given s) : given <+: body.chunks :=
  (List.prefix_append given s.left).trans h.chunks

theorem From.supply (h : From body given s) : From body given s.supply := by
  obtain ⟨coming, failure, condition, locked, cancelled⟩ := s
  obtain ⟨hfailure, hfailed, hchunks⟩ := h
  cases condition with
  | filling queue =>
      cases coming with
      | cons c coming => exact ⟨hfailure, nofun, by simpa [Feed.supply, left] using hchunks⟩
      | nil =>
          cases failure with
          | some f =>
              refine ⟨hfailure, ?_, ?_⟩
              · rintro g ⟨⟩
                exact hfailure.symm
              · simpa [Feed.supply, left] using From.forget ⟨hfailure, hfailed, hchunks⟩
          | none =>
              refine ⟨hfailure, fun f hf => absurd hf (drained_ne_failed queue f), ?_⟩
              show given ++ (⟨[], none, .drained queue, locked, cancelled⟩ : Feed α).left <+: _
              rw [left_drained]
              simpa [left] using hchunks
  | draining | closed | failed => exact ⟨hfailure, hfailed, hchunks⟩

/-- What reading a stream comes to. A chunk is the next one of the body, and a failed read has met a failed
stream. -/
theorem From.read (h : From body given s) :
    (∃ c s', s.read = (.chunk c, s') ∧ From body (given ++ [c]) s' ∧ s'.locked = s.locked) ∨
    (∃ s', s.read = (.finished, s') ∧ From body given s' ∧ s'.locked = s.locked) ∨
    ∃ f s', s.read = (.failed f, s') ∧ From body given s' ∧ s'.locked = s.locked ∧
      s'.condition = .failed f := by
  obtain ⟨coming, failure, condition, locked, cancelled⟩ := s
  have hbody := h
  obtain ⟨hfailure, hfailed, hchunks⟩ := h
  cases condition with
  | filling queue =>
      cases queue with
      | cons c queue =>
          refine .inl ⟨c, _, rfl, ⟨hfailure, nofun, ?_⟩, rfl⟩
          simpa [left] using hchunks
      | nil =>
          cases coming with
          | cons c coming =>
              refine .inl ⟨c, _, rfl, ⟨hfailure, nofun, ?_⟩, rfl⟩
              simpa [left] using hchunks
          | nil =>
              cases failure with
              | some f =>
                  refine .inr (.inr ⟨f, _, rfl, ⟨hfailure, ?_, hchunks⟩, rfl, rfl⟩)
                  rintro g ⟨⟩
                  exact hfailure.symm
              | none => exact .inr (.inl ⟨_, rfl, ⟨hfailure, nofun, hchunks⟩, rfl⟩)
  | draining c queue =>
      refine .inl ⟨c, _, rfl, ⟨hfailure, fun f hf => absurd hf (drained_ne_failed queue f), ?_⟩, rfl⟩
      show given ++ [c] ++ (⟨coming, failure, .drained queue, locked, cancelled⟩ : Feed α).left <+: _
      rw [left_drained]
      simpa [left] using hchunks
  | closed => exact .inr (.inl ⟨_, rfl, hbody, rfl⟩)
  | failed f => exact .inr (.inr ⟨f, _, rfl, hbody, rfl, rfl⟩)

theorem read_failed (h : s.read = (.failed f, s')) : s'.condition = .failed f := by
  obtain ⟨coming, failure, condition, locked, cancelled⟩ := s
  cases condition with
  | filling queue =>
      cases queue with
      | cons c queue => cases h
      | nil =>
          cases coming with
          | cons c coming => cases h
          | nil =>
              cases failure with
              | none => cases h
              | some g => cases h; rfl
  | draining | closed => cases h
  | failed g => cases h; rfl

theorem read_lock (s : Feed α) : s.lock.read.1 = s.read.1 := by
  obtain ⟨coming, failure, condition, locked, cancelled⟩ := s
  cases condition with
  | filling queue =>
      cases queue with
      | cons c queue => rfl
      | nil => cases coming <;> cases failure <;> rfl
  | draining | closed | failed => rfl

/-- A stream that has failed is left as it is, and its failure is raised; any other one is given
back. -/
theorem leave_cases (s : Feed α) :
    (∃ f, s.condition = .failed f ∧ s.leave false = (.error f, s)) ∨
      (∀ f, s.condition ≠ .failed f) ∧
        ∃ cancelled, s.leave false = (.ok (), { s with condition := .closed, locked := false, cancelled }) := by
  obtain ⟨coming, failure, condition, locked, cancelled⟩ := s
  cases condition with
  | filling queue => exact .inr ⟨nofun, true, rfl⟩
  | draining c queue => exact .inr ⟨nofun, true, rfl⟩
  | closed => exact .inr ⟨nofun, cancelled, rfl⟩
  | failed f => exact .inl ⟨f, rfl, rfl⟩

theorem From.closed (h : From body given s) (locked cancelled : Bool) :
    From body given { s with condition := .closed, locked, cancelled } :=
  ⟨h.failure, nofun, (List.append_nil given).symm ▸ h.forget⟩

end Feed

namespace Reader

variable {body : Body α} {seen : List (Sighting α)} {r r' : Reader α} {f : Failure}

/-- What a consumer has seen of a reader so far tells how the reader and its stream stand. The reader
holds the stream while it is under way, and for good if it has shown a failure, which is the one
of the body. The chunks that it has shown are those of the body, in order. -/
structure Tells (body : Body α) (seen : List (Sighting α)) (r : Reader α) : Prop where
  feed : r.feed.From body (seen.filterMap Sighting.item?)
  locked : r.feed.locked = true ↔ r.phase = .reading ∨ ∃ f, .failed f ∈ seen
  failed : ∀ f, .failed f ∈ seen → r.phase = .ended ∧ body.failure = some f

theorem tells_ofBody (body : Body α) : Tells body [] (.ofBody body) :=
  ⟨Feed.from_ofBody body, by simp [ofBody, Feed.ofBody], nofun⟩

/-- No failure was seen before the reader was through. -/
theorem Tells.not_failed (h : Tells body seen r) (hphase : r.phase ≠ .ended) (f : Failure) :
    .failed f ∉ seen := fun hf => hphase (h.failed f hf).1

theorem Tells.supply (h : Tells body seen r) :
    Tells body seen { r with feed := r.feed.supply } := by
  have hlocked : r.feed.supply.locked = r.feed.locked := by
    unfold Feed.supply
    split
    · split <;> rfl
    · rfl
  exact ⟨h.feed.supply, hlocked ▸ h.locked, h.failed⟩

/-- What is seen of a reader that has left its stream: no failure and a stream that was given back, or the
failure of the stream and a stream that is still locked. -/
theorem Tells.left {s : Feed α} (hnone : ∀ f, .failed f ∉ seen)
    (hfeed : s.From body (seen.filterMap Sighting.item?)) (hlocked : s.locked = false) :
    Tells body (seen ++ [.done]) ⟨s, .ended⟩ := by
  refine ⟨by simpa [List.filterMap_cons, Sighting.item?] using hfeed, ?_, ?_⟩
  · simp [hlocked, hnone]
  · intro f hf
    simp [hnone] at hf

theorem Tells.stuck {s : Feed α} (hnone : ∀ f, .failed f ∉ seen)
    (hfeed : s.From body (seen.filterMap Sighting.item?)) (hlocked : s.locked = true)
    (hfailed : s.condition = .failed f) : Tells body (seen ++ [.failed f]) ⟨s, .ended⟩ := by
  refine ⟨by simpa [List.filterMap_cons, Sighting.item?] using hfeed, ?_, ?_⟩
  · simp [hlocked]
  · intro g hg
    simp only [List.mem_append, hnone, false_or, List.mem_singleton, Sighting.failed.injEq] at hg
    exact ⟨rfl, hg ▸ hfeed.failed f hfailed⟩

theorem tells_close {s : Feed α} {last : Sighting α} (hnone : ∀ f, .failed f ∉ seen)
    (hfeed : s.From body (seen.filterMap Sighting.item?)) (hlocked : s.locked = true)
    (hlast : last = .done ∨ ∃ f, s.condition = .failed f ∧ last = .failed f) :
    Tells body (seen ++ [(close s false last).1]) (close s false last).2 := by
  obtain ⟨f, hf, hleave⟩ | ⟨hf, cancelled, hleave⟩ := s.leave_cases
  · rw [close, hleave]
    exact .stuck hnone hfeed hlocked hf
  · rw [close, hleave]
    rcases hlast with rfl | ⟨f, hcondition, -⟩
    · exact .left hnone (hfeed.closed false cancelled) rfl
    · exact absurd hcondition (hf f)

/-- What comes of a request to a reader that holds its stream. -/
theorem tells_ask {s : Feed α} (hnone : ∀ f, .failed f ∉ seen)
    (hfeed : s.From body (seen.filterMap Sighting.item?)) (hlocked : s.locked = true) :
    Tells body (seen ++ [(ask s).1]) (ask s).2 := by
  obtain ⟨c, s', hread, hfrom, hheld⟩ | ⟨s', hread, hfrom, hheld⟩ |
    ⟨f, s', hread, hfrom, hheld, hfailed⟩ := hfeed.read
  · rw [ask, hread]
    refine ⟨by simpa [List.filterMap_cons, Sighting.item?] using hfrom, ?_, ?_⟩
    · simp [hheld, hlocked]
    · intro f hf
      simp [hnone] at hf
  · rw [ask, hread]
    exact .left hnone ⟨hfrom.failure, hfrom.failed, hfrom.chunks⟩ rfl
  · rw [ask, hread]
    exact tells_close hnone hfrom (hheld.trans hlocked) (.inr ⟨f, hfailed, rfl⟩)

/-- A reader that does not hold its stream shows that there is nothing more. -/
theorem Tells.idle (h : Tells body seen r) (hphase : r.phase ≠ .reading) :
    Tells body (seen ++ [.done]) ⟨r.feed, .ended⟩ := by
  refine ⟨by simpa [List.filterMap_cons, Sighting.item?] using h.feed, ?_, ?_⟩
  · simp [h.locked, hphase]
  · intro f hf
    have hf : .failed f ∈ seen := by simpa using hf
    exact ⟨rfl, (h.failed f hf).2⟩

theorem Tells.next (h : Tells body seen r) : Tells body (seen ++ [r.next.1]) r.next.2 := by
  obtain ⟨s, phase⟩ := r
  cases phase with
  | fresh =>
      exact tells_ask (h.not_failed nofun) ⟨h.feed.failure, h.feed.failed, h.feed.chunks⟩ rfl
  | reading => exact tells_ask (h.not_failed nofun) h.feed (h.locked.mpr (.inl rfl))
  | ended => exact h.idle nofun

theorem Tells.stop (h : Tells body seen r) : Tells body (seen ++ [r.stop.1]) r.stop.2 := by
  obtain ⟨s, phase⟩ := r
  cases phase with
  | fresh | ended => exact h.idle nofun
  | reading =>
      exact tells_close (h.not_failed nofun) h.feed (h.locked.mpr (.inl rfl)) (.inl rfl)

theorem Tells.move (h : Tells body seen r) (m : ReaderMove) :
    Tells body (seen ++ (r.move m).1) (r.move m).2 := by
  cases m with
  | supply => exact (List.append_nil seen).symm ▸ h.supply
  | next => exact h.next
  | stop => exact h.stop

theorem Tells.run (h : Tells body seen r) (moves : List ReaderMove) :
    Tells body (seen ++ (r.run moves).1) (r.run moves).2 := by
  induction moves generalizing seen r with
  | nil => exact (List.append_nil seen).symm ▸ h
  | cons m moves ih =>
      have hall := ih (h.move m)
      rw [List.append_assoc] at hall
      exact hall

/-! ## Which requests show a failure -/

theorem close_eq_failed_iff {s : Feed α} :
    (close s false .done).1 = .failed f ↔ s.condition = .failed f := by
  obtain ⟨g, hg, hleave⟩ | ⟨hnone, cancelled, hleave⟩ := s.leave_cases
  · rw [close, hleave, hg]
    simp
  · rw [close, hleave]
    simp [hnone f]

/-- A consumer that stops meets a failure exactly if the stream that the reader holds has failed by
then. -/
theorem stop_eq_failed_iff (r : Reader α) (f : Failure) :
    r.stop.1 = .failed f ↔ r.phase = .reading ∧ r.feed.condition = .failed f := by
  obtain ⟨s, phase⟩ := r
  cases phase with
  | fresh | ended => simp [Reader.stop]
  | reading => simpa [Reader.stop] using close_eq_failed_iff

theorem ask_eq_failed_iff (s : Feed α) (f : Failure) :
    (ask s).1 = .failed f ↔ s.read.1 = .failed f := by
  unfold ask
  cases hread : s.read with
  | mk result s' =>
      cases result with
      | chunk c => simp
      | finished => simp [close, Feed.leave]
      | failed g => simp [close, Feed.leave, Feed.cancel, Feed.read_failed hread]

/-- A consumer that asks for a chunk meets a failure exactly if the read for it fails. -/
theorem next_eq_failed_iff (r : Reader α) (f : Failure) :
    r.next.1 = .failed f ↔ r.phase ≠ .ended ∧ r.feed.read.1 = .failed f := by
  obtain ⟨s, phase⟩ := r
  cases phase with
  | fresh =>
      have hask := ask_eq_failed_iff s.lock f
      rw [Feed.read_lock] at hask
      simpa [Reader.next] using hask
  | reading => simpa [Reader.next] using ask_eq_failed_iff s f
  | ended => simp [Reader.next]

/-- Whatever the source and the consumer do, a reader that is through has given its stream back unless it
has shown a failure, and then the stream stays locked. The failure is the one of the body, and
there is none before it is met. A request for a chunk shows it if the read fails, and stopping
shows it if the stream that the reader holds has failed by then. The chunks that are seen are
those of the body, in order. -/
theorem run_givesBack (body : Body α) (moves : List ReaderMove) :
    let (seen, r) := (ofBody body).run moves
    (r.feed.locked = true ↔ r.phase = .reading ∨ ∃ f, .failed f ∈ seen) ∧
      (∀ f, .failed f ∈ seen → r.phase = .ended ∧ body.failure = some f) ∧
      seen.filterMap Sighting.item? <+: body.chunks ∧
      (∀ f, r.next.1 = .failed f ↔ r.phase ≠ .ended ∧ r.feed.read.1 = .failed f) ∧
      ∀ f, r.stop.1 = .failed f ↔ r.phase = .reading ∧ r.feed.condition = .failed f := by
  have h := (tells_ofBody body).run moves
  rw [List.nil_append] at h
  exact ⟨h.locked, h.failed, h.feed.forget, next_eq_failed_iff _, stop_eq_failed_iff _⟩

/-- A body with one chunk, behind which it fails. -/
def cutBody : Body (List UInt8) := ⟨[[0x61]], some (.error "boom")⟩

/-- So a reader that is through may leave its stream locked, and a consumer that stops may meet a failure
although it has asked for nothing behind the last chunk. -/
theorem cutBody_not_givenBack :
    ¬ (∀ (body : Body (List UInt8)) (moves : List ReaderMove),
        ((ofBody body).run moves).2.phase = .ended → ((ofBody body).run moves).2.feed.locked = false) ∧
      ¬ ∀ (body : Body (List UInt8)) (moves : List ReaderMove) (f : Failure),
        ((ofBody body).run moves).2.stop.1 ≠ .failed f := by
  constructor
  · intro h
    exact absurd (h cutBody [.next, .next] (by decide)) (by decide)
  · intro h
    exact absurd (by decide) (h cutBody [.next, .supply] (.error "boom"))

/-! ## Sources that act only when they are asked -/

theorem run_append (r : Reader α) (first second : List ReaderMove) :
    r.run (first ++ second)
      = ((r.run first).1 ++ ((r.run first).2.run second).1, ((r.run first).2.run second).2) := by
  induction first generalizing r with
  | nil => rfl
  | cons m first ih => simp only [List.cons_append, run, ih, List.append_assoc]

/-- A reader that holds a stream of which nothing is queued. -/
def holding (chunks : List α) (failure : Option Failure) : Reader α :=
  ⟨⟨chunks, failure, .filling [], true, false⟩, .reading⟩

theorem run_next_holding (given rest : List α) (failure : Option Failure) :
    (holding (given ++ rest) failure).run (List.replicate given.length .next)
      = (given.map .item, holding rest failure) := by
  induction given with
  | nil => rfl
  | cons c given ih =>
      have hnext : (holding (c :: given ++ rest) failure).move .next
          = ([.item c], holding (given ++ rest) failure) := rfl
      rw [List.length_cons, List.replicate_succ, run, hnext]
      simp only [ih]
      rfl

/-- The first request of a reader meets the stream as it would if the reader held it already. -/
theorem run_next_ofBody (body : Body α) (moves : List ReaderMove) :
    (ofBody body).run (.next :: moves) = (holding body.chunks body.failure).run (.next :: moves) :=
  rfl

/-- What is seen at the end of a stream. -/
def ending : Option Failure → Sighting α
  | none => .done
  | some f => .failed f

theorem next_holding_nil (failure : Option Failure) :
    ∃ s, (holding ([] : List α) failure).move .next = ([ending failure], ⟨s, .ended⟩) := by
  cases failure <;> exact ⟨_, rfl⟩

/-- A reader that is through shows nothing more, whatever is asked of it. -/
theorem run_ended (s : Feed α) (moves : List ReaderMove) (hmoves : .supply ∉ moves) :
    ((⟨s, .ended⟩ : Reader α).run moves).1 = List.replicate moves.length .done := by
  induction moves with
  | nil => rfl
  | cons m moves ih =>
      have hrest := ih fun h => hmoves (List.mem_cons_of_mem m h)
      cases m with
      | supply => exact absurd List.mem_cons_self hmoves
      | next | stop => exact congrArg (Sighting.done :: ·) hrest

/-- A consumer that asks for more than there is sees all chunks and the end. -/
theorem run_beyond (chunks : List α) (failure : Option Failure) (moves : List ReaderMove)
    (hmoves : .supply ∉ moves) :
    ((holding chunks failure).run (List.replicate (chunks.length + 1) .next ++ moves)).1
      = chunks.map .item ++ ending failure :: List.replicate moves.length .done := by
  obtain ⟨s, hnext⟩ := next_holding_nil (α := α) failure
  have hchunks := run_next_holding chunks [] failure
  rw [List.append_nil] at hchunks
  rw [List.replicate_succ', List.append_assoc, run_append, hchunks, List.singleton_append, run, hnext]
  exact congrArg (chunks.map Sighting.item ++ ending failure :: ·) (run_ended s moves hmoves)

/-- A consumer that stops where there is something left sees the chunks that it has asked for. -/
theorem run_within (chunks : List α) (failure : Option Failure) (n : Nat) (hn : n ≤ chunks.length) :
    ((holding chunks failure).run (List.replicate n .next ++ [.stop])).1
      = (chunks.take n).map .item ++ [.done] := by
  have hchunks := run_next_holding (chunks.take n) (chunks.drop n) failure
  rw [List.take_append_drop, List.length_take, Nat.min_eq_left hn] at hchunks
  rw [run_append, hchunks]
  rfl

theorem items_seen (chunks : List α) {rest : List (Sighting α)}
    (hrest : rest.filterMap Sighting.item? = []) :
    (chunks.map Sighting.item ++ rest).filterMap Sighting.item? = chunks := by
  rw [List.filterMap_append, hrest, List.filterMap_map, List.append_nil]
  exact List.filterMap_some

theorem failures_seen (chunks : List α) (rest : List (Sighting α)) :
    (chunks.map Sighting.item ++ rest).filterMap Sighting.failure?
      = rest.filterMap Sighting.failure? := by
  rw [List.filterMap_append, List.filterMap_map]
  exact congrArg (· ++ _) (List.filterMap_eq_nil_iff.mpr fun _ _ => rfl)

/-- The moves of a consumer that reads a whole body, and perhaps asks for more. -/
theorem seen_whole (body : Body α) (moves : List ReaderMove) (hmoves : .supply ∉ moves) :
    let seen := ((ofBody body).run (List.replicate (body.chunks.length + 1) .next ++ moves)).1
    seen.filterMap Sighting.item? = body.flow.items ∧
      seen.filterMap Sighting.failure? = body.flow.failure.toList := by
  have hseen := run_beyond body.chunks body.failure moves hmoves
  rw [List.replicate_succ, List.cons_append, ← run_next_ofBody, ← List.cons_append,
    ← List.replicate_succ] at hseen
  have hdone (n : Nat) : (List.replicate n (Sighting.done (α := α))).filterMap Sighting.item? = [] ∧
      (List.replicate n (Sighting.done (α := α))).filterMap Sighting.failure? = [] :=
    ⟨by simp [Sighting.item?], by simp [Sighting.failure?]⟩
  obtain ⟨hitems, hfailures⟩ := hdone moves.length
  simp only [hseen]
  constructor
  · rw [Body.items_flow]
    refine items_seen _ ?_
    cases body.failure <;> exact hitems
  · rw [failures_seen, Body.flow_eq]
    cases body.failure with
    | none => exact hfailures
    | some f => exact congrArg (f :: ·) hfailures

/-- The moves of a consumer that stops where there is something left of a body. -/
theorem seen_beginning (body : Body α) (n : Nat) (hn : n ≤ body.chunks.length) :
    ((ofBody body).run (List.replicate n .next ++ [.stop])).1
      = (body.chunks.take n).map .item ++ [.done] := by
  cases n with
  | zero => rfl
  | succ n => exact run_within body.chunks body.failure (n + 1) hn

/-- With a source that acts only when it is asked, a consumer sees what it sees of the body's flow if it
takes as much of it. -/
theorem lazy_eq_take (body : Body α) (limit : Option Nat) :
    let seen := ((ofBody body).run (lazyMoves body limit)).1
    seen.filterMap Sighting.item? = (body.flow.takeUpTo limit).items ∧
      seen.filterMap Sighting.failure? = (body.flow.takeUpTo limit).failure.toList := by
  cases limit with
  | none =>
      have hwhole := seen_whole body [] (List.not_mem_nil)
      rwa [List.append_nil] at hwhole
  | some n =>
      rw [Flow.takeUpTo]
      rcases Nat.lt_or_ge body.chunks.length n with hn | hn
      · obtain ⟨extra, rfl⟩ := Nat.exists_eq_add_of_lt hn
        have hmoves : .supply ∉ List.replicate extra ReaderMove.next ++ [.stop] := by simp
        have hwhole := seen_whole body _ hmoves
        rw [Body.take_beyond hn, lazyMoves, Nat.add_right_comm, ← List.replicate_append_replicate,
          List.append_assoc]
        exact hwhole
      · rw [Body.take_within hn, Flow.items, Body.items_ask, lazyMoves]
        simp only [seen_beginning body n hn, failures_seen]
        exact ⟨items_seen _ rfl, rfl⟩

end Reader

end ChatRelay
