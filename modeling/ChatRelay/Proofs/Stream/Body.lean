import ChatRelay.Stream.Body

/-!
# Taking the beginning of a body

A body that is taken as a source gives its chunks in order. As long as it has enough of them, taking
some means asking for these and for nothing behind them (`take_within`), and otherwise it means
reading the body to its end (`take_beyond`).
-/

namespace ChatRelay.Body

variable {α : Type}

/-- What happens for a chunk. -/
def ask (c : α) : List (Act Effect α) := [.effect .poll, .yield c]

theorem items_ask (chunks : List α) : (chunks.flatMap ask).filterMap Act.item? = chunks := by
  induction chunks with
  | nil => rfl
  | cons c chunks ih => exact congrArg (c :: ·) ih

theorem upTo?_within (rest : List (Act Effect α)) {chunks : List α} {n : Nat}
    (h : n ≤ chunks.length) :
    Flow.upTo? n (chunks.flatMap ask ++ rest) = some ((chunks.take n).flatMap ask) := by
  induction chunks generalizing n with
  | nil =>
      obtain rfl : n = 0 := Nat.le_zero.mp h
      rw [Flow.upTo?]
      rfl
  | cons c chunks ih =>
      cases n with
      | zero =>
          rw [Flow.upTo?]
          rfl
      | succ n =>
          have hrest := ih (Nat.le_of_succ_le_succ h)
          show ((Flow.upTo? n (chunks.flatMap ask ++ rest)).map (.yield c :: ·)).map
            (.effect .poll :: ·) = _
          rw [hrest]
          rfl

theorem upTo?_beyond {chunks : List α} {n : Nat} (h : chunks.length < n) :
    Flow.upTo? n (chunks.flatMap ask ++ [.effect .poll]) = none := by
  induction chunks generalizing n with
  | nil =>
      obtain ⟨n, rfl⟩ := Nat.exists_eq_succ_of_ne_zero (Nat.ne_zero_of_lt h)
      rfl
  | cons c chunks ih =>
      obtain ⟨n, rfl⟩ := Nat.exists_eq_succ_of_ne_zero (Nat.ne_zero_of_lt h)
      have hrest := ih (Nat.lt_of_succ_lt_succ h)
      show ((Flow.upTo? n (chunks.flatMap ask ++ [.effect .poll])).map (.yield c :: ·)).map
        (.effect .poll :: ·) = _
      rw [hrest]
      rfl

theorem flow_eq (body : Body α) :
    body.flow = ⟨body.chunks.flatMap ask ++ [.effect .poll], body.failure⟩ := rfl

theorem items_flow (body : Body α) : body.flow.items = body.chunks := by
  rw [flow_eq, Flow.items, List.filterMap_append, items_ask]
  exact List.append_nil _

theorem take_within {body : Body α} {n : Nat} (h : n ≤ body.chunks.length) :
    body.flow.take n = ⟨(body.chunks.take n).flatMap ask, none⟩ := by
  rw [Flow.take, flow_eq, upTo?_within _ h]

theorem take_beyond {body : Body α} {n : Nat} (h : body.chunks.length < n) :
    body.flow.take n = body.flow := by
  rw [Flow.take, flow_eq, upTo?_beyond h]

end ChatRelay.Body
