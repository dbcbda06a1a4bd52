import ChatRelay.Stream.Body
import ChatRelay.Stream.Held

/-!
# Readers of streams

A source fills a stream at its own pace. What it has supplied is queued until it is read. When it is
through, the stream closes behind the last queued chunk; when it fails, what is queued is lost. A read
that finds nothing queued waits for the next act of the source. A stream that is cancelled is closed at
once, but one that has failed cannot be cancelled any more.

A `Reader` hands the chunks of a stream to a consumer, one for each request. The first request locks the
stream. When the reader is through, because the stream has ended, because a read has failed or because
the consumer wants no more, it gives the stream back: it cancels a stream that it has not read to its
end, and then it unlocks it. If cancelling fails, that failure is raised and nothing more is done.

The source and the consumer go on independently of each other, so a course of events is any list of
moves: the source acts, the consumer asks for a chunk, the consumer stops. A pace says how often the
source acts between one request and the next, and with it a body is a source of its own (`Body.paced`)
that may be left behind every chunk.
-/

namespace ChatRelay

/-- How a stream stands: its source fills it, its source is through and some chunks are left, it is
closed, or it has failed. -/
inductive Condition (α : Type) where
  | filling (queue : List α)
  | draining (next : α) (queue : List α)
  | closed
  | failed (f : Failure)
  deriving DecidableEq

/-- A stream with its source: what the source has not supplied yet and how it ends, how the stream
stands, whether a reader holds it and whether it was cancelled. -/
structure Feed (α : Type) where
  coming : List α
  failure : Option Failure
  condition : Condition α
  locked : Bool
  cancelled : Bool
  deriving DecidableEq

/-- What comes of reading a stream. -/
inductive ReadResult (α : Type) where
  | chunk (c : α)
  | finished
  | failed (f : Failure)

/-- A stream with queued chunks whose source is through. -/
def Condition.drained {α : Type} : List α → Condition α
  | [] => .closed
  | c :: queue => .draining c queue

namespace Feed

variable {α : Type}

/-- The stream of a body before its source has done anything. -/
def ofBody (body : Body α) : Feed α := ⟨body.chunks, body.failure, .filling [], false, false⟩

/-- The next act of the source. -/
def supply (s : Feed α) : Feed α :=
  match s.condition with
  | .filling queue =>
    match s.coming, s.failure with
    | c :: coming, _ => { s with coming, condition := .filling (queue ++ [c]) }
    | [], some f => { s with condition := .failed f }
    | [], none => { s with condition := .drained queue }
  | _ => s

/-- Reads a chunk. -/
def read (s : Feed α) : ReadResult α × Feed α :=
  match s.condition with
  | .filling (c :: queue) => (.chunk c, { s with condition := .filling queue })
  | .filling [] =>
    match s.coming, s.failure with
    | c :: coming, _ => (.chunk c, { s with coming })
    | [], some f => (.failed f, { s with condition := .failed f })
    | [], none => (.finished, { s with condition := .closed })
  | .draining c queue => (.chunk c, { s with condition := .drained queue })
  | .closed => (.finished, s)
  | .failed f => (.failed f, s)

/-- Cancels the stream. -/
def cancel (s : Feed α) : Except Failure Unit × Feed α :=
  match s.condition with
  | .filling _ | .draining _ _ => (.ok (), { s with condition := .closed, cancelled := true })
  | .closed => (.ok (), s)
  | .failed f => (.error f, s)

/-- The stream in the hands of a reader. -/
def lock (s : Feed α) : Feed α := { s with locked := true }

/-- The stream given back. -/
def release (s : Feed α) : Feed α := { s with locked := false }

/-- Leaves the stream: one that was not read to its end is cancelled before it is given back. -/
def leave (s : Feed α) (finished : Bool) : Except Failure Unit × Feed α :=
  if finished then (.ok (), s.release)
  else
    match s.cancel with
    | (.ok (), s) => (.ok (), s.release)
    | (.error f, s) => (.error f, s)

end Feed

/-- How far a reader is: nothing was asked for yet, it holds the stream, or it is through. -/
inductive Phase where
  | fresh
  | reading
  | ended
  deriving DecidableEq

/-- A reader of a stream. -/
structure Reader (α : Type) where
  feed : Feed α
  phase : Phase
  deriving DecidableEq

/-- What a consumer sees: a chunk, that there is nothing more, or a failure. -/
inductive Sighting (α : Type) where
  | item (c : α)
  | done
  | failed (f : Failure)
  deriving DecidableEq

/-- What happens next: the source acts, or the consumer asks for a chunk or wants no more. -/
inductive ReaderMove where
  | supply
  | next
  | stop
  deriving DecidableEq

/-- The chunk, if this is one. -/
def Sighting.item? {α : Type} : Sighting α → Option α
  | .item c => some c
  | _ => none

/-- The failure, if this is one. -/
def Sighting.failure? {α : Type} : Sighting α → Option Failure
  | .failed f => some f
  | _ => none

namespace Reader

variable {α : Type}

/-- The reader of a body of which nothing was asked for yet. -/
def ofBody (body : Body α) : Reader α := ⟨.ofBody body, .fresh⟩

/-- What a consumer sees of a reader that leaves its stream. -/
def close (s : Feed α) (finished : Bool) (last : Sighting α) : Sighting α × Reader α :=
  match s.leave finished with
  | (.ok (), s) => (last, ⟨s, .ended⟩)
  | (.error f, s) => (.failed f, ⟨s, .ended⟩)

/-- Reads a stream that the reader holds. -/
def ask (s : Feed α) : Sighting α × Reader α :=
  match s.read with
  | (.chunk c, s) => (.item c, ⟨s, .reading⟩)
  | (.finished, s) => close s true .done
  | (.failed f, s) => close s false (.failed f)

/-- The consumer asks for a chunk. -/
def next (r : Reader α) : Sighting α × Reader α :=
  match r.phase with
  | .fresh => ask r.feed.lock
  | .reading => ask r.feed
  | .ended => (.done, r)

/-- The consumer wants no more. A reader that was asked for nothing has nothing to leave. -/
def stop (r : Reader α) : Sighting α × Reader α :=
  match r.phase with
  | .fresh => (.done, { r with phase := .ended })
  | .reading => close r.feed false .done
  | .ended => (.done, r)

/-- One move, and what the consumer sees of it. -/
def move (r : Reader α) : ReaderMove → List (Sighting α) × Reader α
  | .supply => ([], { r with feed := r.feed.supply })
  | .next => let (seen, r) := r.next; ([seen], r)
  | .stop => let (seen, r) := r.stop; ([seen], r)

/-- Moves one after another, and what the consumer sees of them. -/
def run (r : Reader α) : List ReaderMove → List (Sighting α) × Reader α
  | [] => ([], r)
  | m :: moves =>
    let (seen, r) := r.move m
    let (more, r) := r.run moves
    (seen ++ more, r)

/-- The moves of a consumer of a body whose source acts only when it is asked. The consumer stops after
a number of chunks, or it reads to the end. -/
def lazyMoves (body : Body α) : (limit : Option Nat) → List ReaderMove
  | none => List.replicate (body.chunks.length + 1) .next
  | some n => List.replicate n .next ++ [.stop]

/-- The reader when its source has acted some more times. -/
def supplied (r : Reader α) (acts : Nat) : Reader α := (r.run (List.replicate acts .supply)).2

/-- What comes of a number of requests. Before each of them the source acts at a pace of its own, and what
a consumer would see that stops instead is told with the chunk before. -/
def pacedFrom : (requests : Nat) → (pace : Nat → Nat) → Reader α → Flow Effect (Held α)
  | 0, _, _ => .done
  | requests + 1, pace, r =>
    match (r.supplied (pace 0)).next with
    | (.item c, r) =>
      (pacedFrom requests (fun n => pace (n + 1)) r).after
        [.effect .poll, .yield ⟨c, (r.supplied (pace 1)).stop.1.failure?⟩]
    | (.done, _) => ⟨[.effect .poll], none⟩
    | (.failed f, _) => ⟨[.effect .poll], some f⟩

end Reader

/-- The body as a source that acts at a pace of its own, whether or not it is asked. It is asked for every
chunk, and for the end. -/
def Body.paced {α : Type} (body : Body α) (pace : Nat → Nat) : Flow Effect (Held α) :=
  Reader.pacedFrom (body.chunks.length + 1) pace (.ofBody body)

end ChatRelay
