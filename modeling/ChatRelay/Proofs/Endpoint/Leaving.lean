import ChatRelay.Proofs.Stream.Held
import ChatRelay.Transport

/-!
# Leaving the stream of an endpoint

A stream of responses that is left early leaves the body of the answer, so it raises what leaving the body
raises, or nothing (`left_responses`).
-/

namespace ChatRelay

namespace Flow

variable {ε α β : Type}

/-- What a source gives that is put in the place of items is given in the place of one of them. -/
theorem mem_bind {flow : Flow ε α} {f : α → Flow ε β} {b : β} (h : .yield b ∈ (flow >>= f).acts) :
    ∃ a, .yield a ∈ flow.acts ∧ .yield b ∈ (f a).acts := by
  obtain ⟨acts, failure⟩ := flow
  replace h : .yield b ∈ (bindFrom failure f acts).acts := h
  induction acts with
  | nil => cases h
  | cons act acts ih =>
      have hlater (h : .yield b ∈ (bindFrom failure f acts).acts) :
          ∃ a, .yield a ∈ act :: acts ∧ .yield b ∈ (f a).acts := by
        obtain ⟨a, ha, hb⟩ := ih h
        exact ⟨a, List.mem_cons_of_mem act ha, hb⟩
      cases act with
      | effect e =>
          rcases List.mem_append.mp h with h | h
          · cases List.mem_singleton.mp h
          · exact hlater h
      | yield a =>
          rw [bindFrom, andThen] at h
          split at h
          · exact ⟨a, List.mem_cons_self, h⟩
          · rcases List.mem_append.mp h with h | h
            · exact ⟨a, List.mem_cons_self, h⟩
            · exact hlater h

end Flow

/-- What leaving the body of an answer raises is of some kind, wherever it is left. -/
def Answer.LeftBy (P : Option Failure → Prop) (answer : Answer) : Prop :=
  ∀ status body, answer = .responded status (some body) → body.LeftBy P

namespace Endpoint

variable {e : Endpoint} {model : Text} {d : Delivery} {request : Json} {answer : Answer}
  {P : Option Failure → Prop}

/-- A request that is sent brings no other body than the one of the answer. -/
theorem mem_post {body : Option ByteFlow} (h : .yield body ∈ (e.post model d request answer).acts) :
    ∃ status, answer = .responded status body := by
  unfold post at h
  obtain ⟨token, -, h⟩ := Flow.mem_bind h
  obtain ⟨entry, -, h⟩ := Flow.mem_bind h
  obtain ⟨-, -, h⟩ := Flow.mem_bind h
  obtain ⟨-, -, h⟩ := Flow.mem_bind h
  obtain ⟨-, -, h⟩ := Flow.mem_bind h
  cases answer with
  | failed f => cases h
  | responded status given =>
      dsimp only at h
      split at h
      · cases List.mem_singleton.mp h
        exact ⟨status, rfl⟩
      · obtain ⟨text, -, h⟩ := Flow.mem_bind h
        cases h

theorem left_stream (h : answer.LeftBy P) (hnone : P none) :
    (e.stream model request answer).LeftBy P := by
  rw [stream]
  split
  · intro x hx
    obtain ⟨body, hbody, hx⟩ := Flow.mem_bind hx
    obtain ⟨status, hanswer⟩ := mem_post hbody
    cases body with
    | none => cases hx
    | some body =>
        have hchunks : (body.mapItems (Held.map Sse.Chunk.bytes)).LeftBy P :=
          (h status body hanswer).mapItems Sse.Chunk.bytes
        exact hchunks.reduceHeld hnone x hx
  · exact fun x hx => by cases hx

theorem left_responses (h : answer.LeftBy P) (hnone : P none) :
    ((e.transport answer).responses model request).LeftBy P :=
  (left_stream h hnone).mapEffects (Effect.within scope)

end Endpoint

end ChatRelay
