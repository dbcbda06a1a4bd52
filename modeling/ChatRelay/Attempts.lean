import ChatRelay.Failure

/-!
# Steps whose failures are recorded

An `Attempt` checks and changes a state in its place, in the order in which that takes effect. It gives a
result or fails, and what has been changed before a failure stays changed. `Attempt.on` carries it out, and
the rules for it say what each operation does to the state; an attempt that is made of others is
worked out with them.

`Attempts.run` makes steps one after another. Each gives a result or fails, and leaves a state behind in
either case: a failure is recorded, and the next step meets the state as the failed one has left it.

Where a step that fails leaves the state as it was, a run is that of the steps that took place
(`run_taken`), and what each of these keeps is kept by the run (`run_keeps`).
-/

namespace ChatRelay

/-- What is done to a state in its place. It gives a result or fails, and leaves a state behind in either
case. -/
abbrev Attempt (σ ε α : Type) := ExceptT ε (StateM σ) α

namespace Attempt

variable {σ ε α β : Type} {s s' : σ}

/-- Carries an attempt out on a state. -/
def on (s : σ) (attempt : Attempt σ ε α) : Except ε α × σ := attempt.run.run s

/-- Fails because the contract of the stream is broken. -/
def violate (v : Violation) : Attempt σ Failure α := throw (.violation v)

@[simp] theorem on_pure (a : α) : on s (pure a : Attempt σ ε α) = (.ok a, s) := rfl

@[simp] theorem on_get : on s (get : Attempt σ ε σ) = (.ok s, s) := rfl

@[simp] theorem on_set : on s (set s' : Attempt σ ε PUnit) = (.ok (), s') := rfl

@[simp] theorem on_modify (f : σ → σ) : on s (modify f : Attempt σ ε PUnit) = (.ok (), f s) := rfl

@[simp] theorem on_throw (e : ε) : on s (throw e : Attempt σ ε α) = (.error e, s) := rfl

@[simp] theorem on_violate (v : Violation) :
    on s (violate v : Attempt σ Failure α) = (.error (.violation v), s) := rfl

/-- The second attempt meets the state that the first one has left, unless that one has failed. -/
@[simp] theorem on_bind (s : σ) (x : Attempt σ ε α) (f : α → Attempt σ ε β) :
    on s (x >>= f) = match on s x with
      | (.ok a, s') => on s' (f a)
      | (.error e, s') => (.error e, s') := by
  unfold on
  rw [ExceptT.run_bind, StateT.run_bind]
  cases hx : StateT.run (ExceptT.run x) s with
  | mk result s' =>
      cases result with
      | ok a => rfl
      | error e => rfl

end Attempt

end ChatRelay

namespace ChatRelay.Attempts

variable {σ κ ε α : Type}

/-- The results of steps that are made one after another, and the state at the end. -/
def run (make : σ → κ → Except ε α × σ) (s : σ) : List κ → List (Except ε α) × σ
  | [] => ([], s)
  | step :: steps =>
    let (result, s) := make s step
    let (results, s) := run make s steps
    (result :: results, s)

/-- The steps that take place when all are made one after another. -/
def taken (make : σ → κ → Except ε α × σ) (s : σ) (steps : List κ) : List κ :=
  ((steps.zip (run make s steps).1).filter fun p => p.2.isOk).map Prod.fst

variable {make : σ → κ → Except ε α × σ} {s s' : σ} {step : κ}

theorem run_append (s : σ) (steps later : List κ) :
    run make s (steps ++ later)
      = ((run make s steps).1 ++ (run make (run make s steps).2 later).1,
          (run make (run make s steps).2 later).2) := by
  induction steps generalizing s with
  | nil => rfl
  | cons step steps ih => simp only [List.cons_append, run, ih]

theorem run_cons {result : Except ε α} (h : make s step = (result, s')) (steps : List κ) :
    run make s (step :: steps) = (result :: (run make s' steps).1, (run make s' steps).2) := by
  simp only [run, h]

theorem taken_nil (s : σ) : taken make s [] = [] := rfl

theorem taken_cons_ok {a : α} (h : make s step = (.ok a, s')) (steps : List κ) :
    taken make s (step :: steps) = step :: taken make s' steps := by
  rw [taken, run_cons h, List.zip_cons_cons, List.filter_cons_of_pos rfl]
  rfl

theorem taken_cons_error {e : ε} (h : make s step = (.error e, s')) (steps : List κ) :
    taken make s (step :: steps) = taken make s' steps := by
  rw [taken, run_cons h, List.zip_cons_cons, List.filter_cons_of_neg Bool.false_ne_true]
  rfl

theorem mem_of_mem_taken {steps : List κ} (h : step ∈ taken make s steps) : step ∈ steps := by
  obtain ⟨⟨step', result⟩, hmem, rfl⟩ := List.mem_map.mp h
  exact (List.of_mem_zip (List.mem_filter.mp hmem).1).1

/-- A step that fails leaves the state as it was. -/
def Clean (make : σ → κ → Except ε α × σ) : Prop :=
  ∀ s step e s', make s step = (.error e, s') → s' = s

/-- The steps that took place give the same results when they are made alone, and lead to the same
state. -/
theorem run_taken (hclean : Clean make) (s : σ) (steps : List κ) :
    run make s (taken make s steps) = ((run make s steps).1.filter Except.isOk, (run make s steps).2) := by
  -- The state is general: a step that takes place hands another one on to those behind it.
  induction steps generalizing s with
  | nil => rfl
  | cons step steps ih =>
      cases hmake : make s step with
      | mk result s' =>
          cases result with
          | ok a =>
              rw [taken_cons_ok hmake, run_cons hmake, run_cons hmake, ih,
                List.filter_cons_of_pos rfl]
          | error e =>
              obtain rfl := hclean s step e s' hmake
              rw [taken_cons_error hmake, run_cons hmake, ih,
                List.filter_cons_of_neg Bool.false_ne_true]

/-- What a step keeps that takes place holds of all steps that took place. -/
theorem run_keeps {P : List κ → σ → Prop} (hclean : Clean make)
    (hstep : ∀ past s step a s', P past s → make s step = (.ok a, s') → P (past ++ [step]) s')
    (past : List κ) (hstart : P past s) (steps : List κ) :
    P (past ++ taken make s steps) (run make s steps).2 := by
  induction steps generalizing past s with
  | nil =>
      rw [taken_nil, List.append_nil]
      exact hstart
  | cons step steps ih =>
      cases hmake : make s step with
      | mk result s' =>
          cases result with
          | ok a =>
              rw [run_cons hmake, taken_cons_ok hmake, ← List.singleton_append,
                ← List.append_assoc]
              exact ih _ (hstep past s step a s' hstart hmake)
          | error e =>
              obtain rfl := hclean s step e s' hmake
              rw [run_cons hmake, taken_cons_error hmake]
              exact ih past hstart

end ChatRelay.Attempts
