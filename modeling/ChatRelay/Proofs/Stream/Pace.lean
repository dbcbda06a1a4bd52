import ChatRelay.Proofs.Stream.Held
import ChatRelay.Proofs.Stream.Reader

/-!
# Bodies at a pace of their own

A body whose source acts whether or not it is asked is read by a `Reader`, so what is known of readers
says what comes of it: whatever the pace, the chunks are those of the body in order, and what fails,
reading on or leaving, fails as the body does (`follows_paced`).

A source that waits to be asked has done nothing behind a chunk that was read. Such a body can be left
everywhere, and it is the body's flow (`paced_lazy`).
-/

namespace ChatRelay

variable {α : Type}

/-- What is read of a body: the network is asked for more and for nothing else, the chunks are those of the
body in order, and every failure is the one of the body. -/
structure Body.Follows (body : Body α) (given : List α) (flow : Flow Effect (Held α)) : Prop where
  polls : ∀ e, .effect e ∈ flow.acts → e = .poll
  chunks : given ++ flow.items.map Held.item <+: body.chunks
  failure : ∀ f, flow.failure = some f → body.failure = some f
  left : flow.LeftBy fun left => ∀ f, left = some f → body.failure = some f

namespace Reader

variable {body : Body α} {seen : List (Sighting α)} {r : Reader α} {f : Failure}

theorem Tells.supplied (h : Tells body seen r) (acts : Nat) : Tells body seen (r.supplied acts) := by
  induction acts generalizing r with
  | zero => exact h
  | succ acts ih => exact ih h.supply

/-- A consumer that stops meets no other failure than the one of the body. -/
theorem Tells.stop_failure (h : Tells body seen r) (hstop : r.stop.1.failure? = some f) :
    body.failure = some f := by
  have hfailed : r.stop.1 = .failed f := by
    cases hseen : r.stop.1 with
    | item | done => rw [hseen] at hstop; cases hstop
    | failed g => rw [hseen] at hstop; cases hstop; rfl
  exact (h.stop.failed f (hfailed ▸ List.mem_append_right seen List.mem_cons_self)).2

/-- Behind what was seen a last request may be made, or none. -/
theorem Tells.follows_last (h : Tells body seen r) {acts : List (Act Effect (Held α))}
    (hacts : acts = [] ∨ acts = [.effect .poll]) {failure : Option Failure}
    (hfailure : ∀ f, failure = some f → body.failure = some f) :
    body.Follows (seen.filterMap Sighting.item?) ⟨acts, failure⟩ := by
  have hseen : seen.filterMap Sighting.item? ++ [] <+: body.chunks :=
    (List.append_nil (seen.filterMap Sighting.item?)).symm ▸ h.feed.forget
  rcases hacts with rfl | rfl
  · exact ⟨by simp, hseen, hfailure, fun x hx => by cases hx⟩
  · exact ⟨by simp, hseen, hfailure, fun x hx => by cases List.mem_singleton.mp hx⟩

theorem Tells.follows (h : Tells body seen r) (requests : Nat) (pace : Nat → Nat) :
    body.Follows (seen.filterMap Sighting.item?) (pacedFrom requests pace r) := by
  induction requests generalizing seen r pace with
  | zero => exact h.follows_last (.inl rfl) fun f hf => by cases hf
  | succ requests ih =>
      have hnext := (h.supplied (pace 0)).next
      rw [pacedFrom]
      cases hask : (r.supplied (pace 0)).next with
      | mk sight r' =>
          rw [hask] at hnext
          cases sight with
          | item c =>
              obtain ⟨hpolls, hchunks, hfailure, hleft⟩ := ih hnext fun n => pace (n + 1)
              refine ⟨?_, ?_, hfailure, hleft.after ?_⟩
              · intro e he
                rcases List.mem_append.mp he with he | he
                · simpa using he
                · exact hpolls e he
              · rw [List.filterMap_append] at hchunks
                rw [Flow.items_after, List.map_append, ← List.append_assoc]
                exact hchunks
              · intro x hx f hf
                obtain rfl : x = ⟨c, (r'.supplied (pace 1)).stop.1.failure?⟩ := by simpa using hx
                exact (hnext.supplied (pace 1)).stop_failure hf
          | done => exact h.follows_last (.inr rfl) fun f hf => by cases hf
          | failed f =>
              refine h.follows_last (.inr rfl) ?_
              rintro g ⟨⟩
              exact (hnext.failed f (List.mem_append_right seen List.mem_cons_self)).2

theorem pacedFrom_lazy (chunks : List α) (failure : Option Failure) :
    pacedFrom (chunks.length + 1) (fun _ => 0) (holding chunks failure)
      = (Body.flow ⟨chunks, failure⟩).hold none := by
  induction chunks with
  | nil => cases failure <;> rfl
  | cons c chunks ih =>
      have hnext : pacedFrom ((c :: chunks).length + 1) (fun _ => 0) (holding (c :: chunks) failure)
          = (pacedFrom (chunks.length + 1) (fun _ => 0) (holding chunks failure)).after
              [.effect .poll, .yield ⟨c, none⟩] := rfl
      rw [hnext, ih]
      rfl

end Reader

/-- Whatever the pace of its source, a body is read as it is. -/
theorem Body.follows_paced (body : Body α) (pace : Nat → Nat) : body.Follows [] (body.paced pace) :=
  (Reader.tells_ofBody body).follows _ pace

/-- A body whose source waits to be asked is the flow of the body, and leaving it raises nothing. -/
theorem Body.paced_lazy (body : Body α) : (body.paced fun _ => 0) = body.flow.hold none :=
  Reader.pacedFrom_lazy body.chunks body.failure

/-- A source that goes on behind every request has failed when its last chunk is handled, and a consumer
that stops there meets the failure. -/
theorem Body.paced_ahead (c : α) (f : Failure) :
    (Body.paced ⟨[c], some f⟩ fun _ => 1) =
      ⟨[.effect .poll, .yield ⟨c, some f⟩, .effect .poll], some f⟩ := rfl

end ChatRelay
