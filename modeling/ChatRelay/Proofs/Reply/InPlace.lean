import ChatRelay.Proofs.Stream.Draft
import ChatRelay.Reply.InPlace

/-!
# What a failing step leaves behind

A draft that is changed in its place could be left half changed by a step that fails. It never is:
every step that can fail does so before its first change, but for closing a text block, which removes
the block first and fails only if there was none to remove. So a step in place has the `outcome` of
the same step on drafts that are passed on (`on_apply`), and a run in which failures are recorded and
skipped is the run of the events that were taken (`applyAll_taken`).
-/

namespace ChatRelay.InPlace

open Attempt

variable {α : Type} {d d' : Draft}

@[simp] theorem on_respond (type : Field Text) (content : List Block) :
    on d (respond type content) = (.ok (d.respond type content), d) := rfl

/-! ## Steps that fail before they change anything -/

/-- What a step on drafts that are passed on comes to in place: a failure leaves the draft that the
step met. -/
def outcome (d : Draft) : Except Failure (Draft × α) → Except Failure α × Draft
  | .ok (d', a) => (.ok a, d')
  | .error f => (.error f, d)

/-- A change in place is the change of a draft that is passed on. -/
def Mirrors (step : InPlace Unit) (change : Draft → Except Failure Draft) : Prop :=
  ∀ d, on d step = outcome d ((change d).map (·, ()))

theorem Mirrors.on_ok {step : InPlace Unit} {change : Draft → Except Failure Draft}
    (h : Mirrors step change) (hd : change d = .ok d') : on d step = (.ok (), d') := by
  rw [h d, hd]
  rfl

theorem Mirrors.on_error {step : InPlace Unit} {change : Draft → Except Failure Draft}
    {f : Failure} (h : Mirrors step change) (hd : change d = .error f) :
    on d step = (.error f, d) := by
  rw [h d, hd]
  rfl

theorem mirrors_requireStarted (type : Text) :
    Mirrors (requireStarted type) fun d => d.requireStarted type := by
  intro d
  cases h : d.started <;>
    simp [requireStarted, Draft.requireStarted, h, Except.map, outcome]

theorem mirrors_openText (index : Number) (t : Text) :
    Mirrors (openText index t) fun d => Draft.lift (d.openText index t) := by
  intro d
  cases h : (d.openAt? index).isSome <;>
    simp [openText, Draft.openText, h, Draft.lift, Except.map, outcome]

theorem mirrors_appendText (index : Number) (t : Text) :
    Mirrors (appendText index t) fun d => Draft.lift (d.appendText index t) := by
  intro d
  cases h : d.openAt? index <;>
    simp [appendText, Draft.appendText, h, Draft.lift, Except.map, outcome]

/-- Removing a block that is not there changes nothing. -/
theorem filter_of_openAt?_none {index : Number} (h : d.openAt? index = none) :
    d.openTexts.filter (·.index ≠ index) = d.openTexts := by
  have hall : ∀ o ∈ d.openTexts, ¬ decide (o.index = index) = true := List.find?_eq_none.mp h
  refine List.filter_eq_self.mpr fun o ho => ?_
  simpa using hall o ho

theorem mirrors_closeText (index : Number) :
    Mirrors (closeText index) fun d => Draft.lift (d.closeText index) := by
  intro d
  cases h : d.openAt? index with
  | none =>
      have hsame := filter_of_openAt?_none h
      simp only [closeText, on_bind, on_get, on_modify, h, Option.isSome_none, Bool.not_false,
        if_true, on_violate, hsame]
      simp [Draft.closeText, h, Draft.lift, Except.map, outcome]
  | some o => simp [closeText, Draft.closeText, h, Draft.lift, Except.map, outcome]

/-- A change and a response that shows what has become of the draft. -/
theorem Mirrors.then_show {step : InPlace Unit} {change : Draft → Except Failure Draft}
    (h : Mirrors step change) {answer : InPlace Response} {r : Draft → Response}
    (hanswer : ∀ d, on d answer = (.ok (r d), d)) (d : Draft) :
    on d (step >>= fun _ => answer) = outcome d (change d >>= fun d' => .ok (d', r d')) := by
  rw [on_bind, h d]
  cases change d with
  | error f => rfl
  | ok d' => exact hanswer d'

/-- A step behind the start of the message. -/
theorem on_started {type : Text} {step : InPlace Response}
    {f : Draft → Except Failure (Draft × Response)} (h : ∀ d, on d step = outcome d (f d))
    (d : Draft) :
    on d (requireStarted type >>= fun _ => step) = outcome d (d.requireStarted type >>= f) := by
  have hcheck : on d (requireStarted type) = outcome d ((d.requireStarted type).map (·, ())) :=
    mirrors_requireStarted type d
  cases hready : d.requireStarted type with
  | error g =>
      rw [on_bind, hcheck, hready]
      rfl
  | ok d' =>
      obtain ⟨-, rfl⟩ := Draft.requireStarted_eq_ok hready
      rw [on_bind, hcheck, hready]
      exact h d'

/-! ## Events in place -/

theorem on_applyEvent (e : Event) (d : Draft) : on d (applyEvent e) = outcome d (d.applyEvent e) := by
  cases e with
  | messageStart header => rfl
  | blockStart index block =>
      refine on_started (fun d => ?_) d
      cases block with
      | text t =>
          refine (mirrors_openText index t).then_show
            (r := fun d => if t.isEmpty then d.respond .null []
              else d.respond (.value "content_block_start") [.text t]) (fun d => ?_) d
          cases t <;> rfl
      | _ => rfl
  | blockDelta index delta =>
      refine on_started (fun d => ?_) d
      cases delta with
      | text t => exact (mirrors_appendText index t).then_show (fun d => rfl) d
      | _ => rfl
  | blockStop index =>
      exact on_started (fun d => (mirrors_closeText index).then_show (fun d => rfl) d) d
  | messageDelta stop usage =>
      refine on_started (fun d => ?_) d
      rfl
  | messageStop =>
      refine on_started (fun d => ?_) d
      rfl
  | _ => rfl

/-- A merged event that is applied in place does what it does to a draft that is passed on, and one
that fails leaves the draft as it was. -/
theorem on_apply (m : Merged) (d : Draft) : on d (apply m) = outcome d (d.apply m) := by
  cases m with
  | event e => exact on_applyEvent e d
  | tools a =>
      refine on_started (fun d => ?_) d
      rfl

theorem on_apply_error {m : Merged} {f : Failure} (h : on d (apply m) = (.error f, d')) :
    d' = d := by
  rw [on_apply] at h
  cases hm : d.apply m with
  | error g => rw [hm] at h; cases h; rfl
  | ok r => rw [hm] at h; cases h

/-! ## Runs -/

/-- The merged events that do not fail when all are applied one after another. -/
def taken (d : Draft) (ms : List Merged) : List Merged :=
  ((ms.zip (applyAll d ms).1).filter fun p => p.2.isOk).map Prod.fst

theorem applyAll_eq (d : Draft) (ms : List Merged) :
    applyAll d ms = Attempts.run (fun d m => on d (apply m)) d ms := by
  induction ms generalizing d with
  | nil => rfl
  | cons m ms ih => simp only [applyAll, Attempts.run, ih]

theorem taken_eq (d : Draft) (ms : List Merged) :
    taken d ms = Attempts.taken (fun d m => on d (apply m)) d ms := by
  rw [taken, applyAll_eq]
  rfl

theorem applyAll_append (d : Draft) (ms later : List Merged) :
    applyAll d (ms ++ later)
      = ((applyAll d ms).1 ++ (applyAll (applyAll d ms).2 later).1,
          (applyAll (applyAll d ms).2 later).2) := by
  simp only [applyAll_eq]
  exact Attempts.run_append d ms later

theorem applyAll_of_taken (d : Draft) (ms : List Merged) :
    applyAll d (taken d ms) = ((applyAll d ms).1.filter Except.isOk, (applyAll d ms).2) := by
  rw [applyAll_eq, applyAll_eq, taken_eq]
  exact Attempts.run_taken (fun d m f d' => on_apply_error) d ms

/-- Events that fail might as well not have been there. A run that records failures and goes on
gives the responses of the events that were taken, in a run of these alone, and leaves the same draft
behind, so that everything later does the same. A step that fails leaves the draft as it was, and a
step in place does what it does to a draft that is passed on. -/
theorem applyAll_taken (d : Draft) (ms : List Merged) :
    applyAll d (taken d ms) = ((applyAll d ms).1.filter Except.isOk, (applyAll d ms).2) ∧
      (∀ later, ∃ results d',
        applyAll d (ms ++ later) = ((applyAll d ms).1 ++ results, d') ∧
        applyAll d (taken d ms ++ later)
          = ((applyAll d ms).1.filter Except.isOk ++ results, d')) ∧
      (∀ m f d', on d (apply m) = (.error f, d') → d' = d) ∧
      ∀ m, on d (apply m) = outcome d (d.apply m) := by
  have htaken := applyAll_of_taken d ms
  refine ⟨htaken, fun later => ⟨_, _, applyAll_append d ms later, ?_⟩,
    fun m f d' h => on_apply_error h, fun m => on_apply m d⟩
  rw [applyAll_append, htaken]

/-- What comes too early, opens a block twice or stops one that is not open is refused, and the text
of the open block is what it would be without. -/
example :
    let run := applyAll .blank
      [.event .messageStop,
        .event (.messageStart ⟨"m1", "claude", "assistant", ⟨.missing, .missing⟩⟩),
        .event (.blockStart (.ofNat 0) (.text "a")), .event (.blockStart (.ofNat 0) (.text "b")),
        .event (.blockStop (.ofNat 1)), .event (.blockDelta (.ofNat 0) (.text "c"))]
    run.1.map Except.isOk = [false, true, true, false, false, true] ∧
      run.2.content = [.text "ac"] := by
  decide +kernel

end ChatRelay.InPlace
