import ChatRelay.Proofs.Options
import ChatRelay.Proofs.Stream.Steps
import ChatRelay.Stream.Collecting

/-!
# What was collected tells what was done

A step of collecting either takes place or is refused, and `on_make` says once what that means: `Made`
lists what the steps that take place do, `Refuses` when and why the others are refused. A refused step
leaves everything as it was.

So a collection can be read off the steps that took place (`Tells`). Each finished call has its own
stretch of them: its start, the fragments of its input, and the close. The starts before it are
as many as the calls before it, and behind the last stretch there is at most one that was not closed,
the one of the call under way.
-/

namespace ChatRelay

namespace ToolStep

/-- Whether a step begins a call. -/
def starts : ToolStep → Bool
  | .start .. => true
  | _ => false

/-- The index that a step names. -/
def index : ToolStep → Number
  | .start index _ _ => index
  | .append index _ => index
  | .close index => index

/-- The step on an aggregate that is passed on. -/
def apply (a : Aggregate) : ToolStep → Except Violation (Aggregate × List Log.Entry)
  | .start index id name => (a.start index id name).map (·, [])
  | .append index fragment => (a.append index fragment).map (·, [])
  | .close index => a.close index

end ToolStep

/-- A call under way is spelled by its start and the fragments for its block, which make up its
text. -/
def OpenTool.Spelled (call : OpenTool) (steps : List ToolStep) : Prop :=
  ∃ fragments : List (Number × Text),
    steps = .start call.index call.id call.name :: fragments.map (fun f => .append f.1 f.2) ∧
      (∀ f ∈ fragments, call.index.sameValue f.1 = true) ∧
      call.partialJson = (fragments.map Prod.snd).flatten

theorem OpenTool.Spelled.start (index : Number) (id name : Text) :
    (⟨index, id, name, []⟩ : OpenTool).Spelled [.start index id name] :=
  ⟨[], rfl, nofun, rfl⟩

theorem OpenTool.Spelled.append {call : OpenTool} {steps : List ToolStep} (h : call.Spelled steps)
    {index : Number} (hsame : call.index.sameValue index = true) (fragment : Text) :
    ({ call with partialJson := call.partialJson ++ fragment } : OpenTool).Spelled
      (steps ++ [.append index fragment]) := by
  obtain ⟨fragments, rfl, hall, htext⟩ := h
  refine ⟨fragments ++ [(index, fragment)], ?_, ?_, ?_⟩
  · simp
  · intro f hf
    rcases List.mem_append.mp hf with hf | hf
    · exact hall f hf
    · rw [List.mem_singleton.mp hf]
      exact hsame
  · simp [htext]

/-- Counts are the same value only if they are equal. -/
theorem Number.IsCount.sameValue_iff {x y : Number} (hx : x.IsCount) (hy : y.IsCount) :
    x.sameValue y = true ↔ x = y := by
  have hnan : ∀ z : Number, z.IsCount → z ≠ .nan := by
    rintro z hz rfl
    cases hz.integer
  rw [Number.sameValue_iff, hx.plain, hy.plain]
  exact ⟨fun h => h.2.2, fun h => ⟨hnan x hx, hnan y hy, h⟩⟩

namespace Collecting

open Attempt

variable {c c' : Collection} {step : ToolStep} {v : Violation}

/-! ## One step -/

/-- The steps that are refused while a call is under way or none is, and why: one call is begun inside
of another, or a fragment or a stop is not for the call under way. A stop outside of a call is no
violation. -/
inductive Refuses : Option OpenTool → ToolStep → Violation → Prop
  | start (call : OpenTool) (index : Number) (id name : Text) :
      Refuses (some call) (.start index id name) (.toolAlreadyOpen call.id index id)
  | outside (index : Number) (fragment : Text) :
      Refuses none (.append index fragment) (.fragmentOutsideTool index)
  | append (call : OpenTool) (index : Number) (fragment : Text) :
      call.index.sameValue index = false →
      Refuses (some call) (.append index fragment) (.fragmentOfOtherBlock index call.index)
  | close (call : OpenTool) (index : Number) : call.index.sameValue index = false →
      Refuses (some call) (.close index) (.stopOfOtherBlock index call.index)

/-- What a step does that takes place. -/
inductive Made : Collection → ToolStep → Collection → Prop
  | start (finished : List ToolUse) (log : List Log.Entry) (index : Number) (id name : Text) :
      Made ⟨⟨none, finished⟩, log⟩ (.start index id name)
        ⟨⟨some ⟨index, id, name, []⟩, finished⟩, log⟩
  | append (call : OpenTool) (finished : List ToolUse) (log : List Log.Entry) (index : Number)
      (fragment : Text) : call.index.sameValue index = true →
      Made ⟨⟨some call, finished⟩, log⟩ (.append index fragment)
        ⟨⟨some { call with partialJson := call.partialJson ++ fragment }, finished⟩, log⟩
  | idle (finished : List ToolUse) (log : List Log.Entry) (index : Number) :
      Made ⟨⟨none, finished⟩, log⟩ (.close index) ⟨⟨none, finished⟩, log⟩
  | close (call : OpenTool) (finished : List ToolUse) (log : List Log.Entry) (index : Number) :
      call.index.sameValue index = true →
      Made ⟨⟨some call, finished⟩, log⟩ (.close index)
        ⟨⟨none, finished ++ [call.finished]⟩, log ++ call.input.2⟩

/-- A step takes place, or it is refused and leaves everything as it was. -/
theorem on_make (c : Collection) (step : ToolStep) :
    (∃ c', on c (make step) = (.ok (), c') ∧ Made c step c') ∨
      ∃ v, on c (make step) = (.error v, c) ∧ Refuses c.tools.pending step v := by
  obtain ⟨⟨pending, finished⟩, log⟩ := c
  cases step with
  | start index id name =>
      cases pending with
      | none => exact .inl ⟨_, rfl, .start finished log index id name⟩
      | some call => exact .inr ⟨_, rfl, .start call index id name⟩
  | append index fragment =>
      cases pending with
      | none => exact .inr ⟨_, rfl, .outside index fragment⟩
      | some call =>
          cases hsame : call.index.sameValue index with
          | true =>
              refine .inl ⟨_, ?_, .append call finished log index fragment hsame⟩
              simp [make, append, setPending, hsame]
          | false =>
              refine .inr ⟨_, ?_, .append call index fragment hsame⟩
              simp [make, append, hsame]
  | close index =>
      cases pending with
      | none => exact .inl ⟨_, rfl, .idle finished log index⟩
      | some call =>
          cases hsame : call.index.sameValue index with
          | true =>
              refine .inl ⟨_, ?_, .close call finished log index hsame⟩
              simp [make, close, setPending, OpenTool.finished, hsame]
          | false =>
              refine .inr ⟨_, ?_, .close call index hsame⟩
              simp [make, close, hsame]

/-- What takes place is not refused. -/
theorem Made.not_refused (h : Made c step c') : ¬ Refuses c.tools.pending step v := by
  intro hrefused
  cases h with
  | start | idle => cases hrefused
  | append call finished log index fragment hsame | close call finished log index hsame =>
      cases hrefused
      simp_all

theorem Refuses.unique {pending : Option OpenTool} {w : Violation} (h : Refuses pending step v)
    (h' : Refuses pending step w) : v = w := by
  cases h <;> cases h' <;> rfl

/-- Exactly the steps that are refused fail. -/
theorem on_make_error_iff (c : Collection) (step : ToolStep) (v : Violation) :
    (on c (make step)).1 = .error v ↔ Refuses c.tools.pending step v := by
  obtain ⟨c', hon, hmade⟩ | ⟨w, hon, hrefused⟩ := on_make c step
  · rw [hon]
    exact ⟨nofun, fun h => absurd h hmade.not_refused⟩
  · rw [hon]
    constructor
    · rintro ⟨⟩
      exact hrefused
    · intro h
      rw [h.unique hrefused]

/-- A step that fails changes nothing, neither the calls nor the log. -/
theorem on_make_failed (h : (on c (make step)).1 = .error v) : (on c (make step)).2 = c := by
  obtain ⟨c', hon, -⟩ | ⟨w, hon, -⟩ := on_make c step
  · rw [hon] at h
    cases h
  · rw [hon]

/-! ## The same step on an aggregate that is passed on -/

/-- What a step on an aggregate that is passed on comes to in place. -/
def outcome (c : Collection) :
    Except Violation (Aggregate × List Log.Entry) → Except Violation Unit × Collection
  | .ok (tools, entries) => (.ok (), ⟨tools, c.log ++ entries⟩)
  | .error v => (.error v, c)

/-- Where the indexes of blocks are counts, as those of events are, a step in place does what it does to
an aggregate that is passed on. -/
theorem on_make_eq (hstep : step.index.IsCount)
    (hpending : ∀ call, c.tools.pending = some call → call.index.IsCount) :
    on c (make step) = outcome c (step.apply c.tools) := by
  obtain ⟨⟨pending, finished⟩, log⟩ := c
  obtain ⟨c', hon, hmade⟩ | ⟨v, hon, hrefused⟩ := on_make ⟨⟨pending, finished⟩, log⟩ step
  · rw [hon]
    cases hmade with
    | start | idle => simp [ToolStep.apply, Aggregate.start, Aggregate.close, outcome, Except.map]
    | append call _ _ index fragment hsame =>
        obtain rfl := ((hpending call rfl).sameValue_iff hstep).mp hsame
        simp [ToolStep.apply, Aggregate.append, outcome, Except.map]
    | close call _ _ index hsame =>
        obtain rfl := ((hpending call rfl).sameValue_iff hstep).mp hsame
        simp [ToolStep.apply, Aggregate.close, outcome, OpenTool.finished]
  · rw [hon]
    have hother : ∀ call, pending = some call → call.index.sameValue step.index = false →
        call.index ≠ step.index := by
      intro call hcall hdiffers hsame
      rw [((hpending call hcall).sameValue_iff hstep).mpr hsame] at hdiffers
      cases hdiffers
    cases hrefused with
    | start | outside => rfl
    | append call index fragment hdiffers =>
        simp [ToolStep.apply, Aggregate.append, outcome, Except.map,
          show call.index ≠ index from hother call rfl hdiffers]
    | close call index hdiffers =>
        simp [ToolStep.apply, Aggregate.close, outcome,
          show call.index ≠ index from hother call rfl hdiffers]

/-! ## All steps -/

/-- The steps that take place when all are made one after another. -/
def taken (c : Collection) (steps : List ToolStep) : List ToolStep :=
  ((steps.zip (makeAll c steps).1).filter fun p => p.2.isOk).map Prod.fst

theorem makeAll_eq (c : Collection) (steps : List ToolStep) :
    makeAll c steps = Attempts.run (fun c step => on c (make step)) c steps := by
  induction steps generalizing c with
  | nil => rfl
  | cons step steps ih => simp only [makeAll, Attempts.run, ih]

theorem taken_eq (c : Collection) (steps : List ToolStep) :
    taken c steps = Attempts.taken (fun c step => on c (make step)) c steps := by
  rw [taken, makeAll_eq]
  rfl

theorem makeAll_append (c : Collection) (steps later : List ToolStep) :
    (makeAll c (steps ++ later)).2 = (makeAll (makeAll c steps).2 later).2 := by
  simp only [makeAll_eq, Attempts.run_append]

/-- What a step keeps that takes place holds of all steps that took place. -/
theorem makeAll_keeps {P : List ToolStep → Collection → Prop}
    (hstep : ∀ past c step c', P past c → Made c step c' → P (past ++ [step]) c')
    (past : List ToolStep) (hstart : P past c) (steps : List ToolStep) :
    P (past ++ taken c steps) (makeAll c steps).2 := by
  have hclean : Attempts.Clean fun c step => on c (make step) := by
    intro c step v c' hon
    exact (congrArg Prod.snd hon).symm.trans (on_make_failed (congrArg Prod.fst hon))
  rw [makeAll_eq, taken_eq]
  refine Attempts.run_keeps hclean ?_ past hstart steps
  intro past c step _ c' hpast hon
  obtain ⟨c'', hmake, hmade⟩ | ⟨v, hmake, -⟩ := on_make c step
  · cases hon.symm.trans hmake
    exact hstep past c step c' hpast hmade
  · cases hon.symm.trans hmake

theorem Made.finished_prefix (h : Made c step c') : c.tools.finished <+: c'.tools.finished := by
  cases h with
  | start | append | idle => exact List.prefix_rfl
  | close call finished log index hsame => exact List.prefix_append finished [call.finished]

/-- What is finished stays as it is, where it is. -/
theorem finished_prefix (c : Collection) (steps : List ToolStep) :
    c.tools.finished <+: (makeAll c steps).2.tools.finished :=
  makeAll_keeps (P := fun _ c' => c.tools.finished <+: c'.tools.finished)
    (fun _ _ _ _ hpast hmade => hpast.trans hmade.finished_prefix) [] List.prefix_rfl steps

/-! ## What the steps tell of the calls -/

/-- The steps that took place tell the calls of an aggregate. Each finished call is the one that was begun
after as many others as stand before it, with the text of its fragments up to its close; a call
under way is the one that was begun last. -/
structure Tells (done : List ToolStep) (tools : Aggregate) : Prop where
  counted : done.countP ToolStep.starts = tools.finished.length + tools.pending.toList.length
  finished : ∀ (k : Nat) (tool : ToolUse), tools.finished[k]? = some tool →
    ∃ (call : OpenTool) (before own : List ToolStep) (index : Number) (after : List ToolStep),
      done = before ++ own ++ .close index :: after ∧ before.countP ToolStep.starts = k ∧
        call.Spelled own ∧ call.index.sameValue index = true ∧
        tool = ⟨call.id, call.name, call.input.1⟩
  pending : ∀ call, tools.pending = some call →
    ∃ before own, done = before ++ own ∧ before.countP ToolStep.starts = tools.finished.length ∧
      call.Spelled own

theorem tells_empty : Tells [] .empty := ⟨rfl, nofun, nofun⟩

/-- What is told of the finished calls is told behind a further step as well. -/
theorem Tells.finished_concat {done : List ToolStep} {tools : Aggregate} (h : Tells done tools)
    (step : ToolStep) {k : Nat} {tool : ToolUse} (hk : tools.finished[k]? = some tool) :
    ∃ (call : OpenTool) (before own : List ToolStep) (index : Number) (after : List ToolStep),
      done ++ [step] = before ++ own ++ .close index :: after ∧
        before.countP ToolStep.starts = k ∧ call.Spelled own ∧
        call.index.sameValue index = true ∧ tool = ⟨call.id, call.name, call.input.1⟩ := by
  obtain ⟨call, before, own, index, after, hdone, hcount, hspelled, hsame, htool⟩ :=
    h.finished k tool hk
  refine ⟨call, before, own, index, after ++ [step], ?_, hcount, hspelled, hsame, htool⟩
  rw [hdone, List.append_assoc, List.cons_append]

theorem Tells.made {done : List ToolStep} (h : Tells done c.tools) (hmade : Made c step c') :
    Tells (done ++ [step]) c'.tools := by
  cases hmade with
  | start finished log index id name =>
      refine ⟨?_, fun k tool hk => h.finished_concat _ hk, ?_⟩
      · rw [List.countP_append, h.counted]
        rfl
      · rintro call ⟨⟩
        exact ⟨done, [.start index id name], rfl, h.counted, .start index id name⟩
  | append call finished log index fragment hsame =>
      refine ⟨?_, fun k tool hk => h.finished_concat _ hk, ?_⟩
      · rw [List.countP_append, h.counted]
        rfl
      · rintro longer ⟨⟩
        obtain ⟨before, own, rfl, hcount, hspelled⟩ := h.pending call rfl
        exact ⟨before, own ++ [.append index fragment], List.append_assoc .., hcount,
          hspelled.append hsame fragment⟩
  | idle finished log index =>
      refine ⟨?_, fun k tool hk => h.finished_concat _ hk, nofun⟩
      rw [List.countP_append, h.counted]
      rfl
  | close call finished log index hsame =>
      obtain ⟨before, own, rfl, hcount, hspelled⟩ := h.pending call rfl
      refine ⟨?_, ?_, nofun⟩
      · rw [List.countP_append, h.counted, List.length_append]
        rfl
      · intro k tool hk
        rw [List.getElem?_append] at hk
        split at hk
        · exact h.finished_concat _ hk
        · rw [List.getElem?_singleton] at hk
          split at hk
          · cases hk
            refine ⟨call, before, own, index, [], rfl, ?_, hspelled, hsame, rfl⟩
            have hcount : before.countP ToolStep.starts = finished.length := hcount
            omega
          · cases hk

theorem tells_makeAll (steps : List ToolStep) :
    Tells (taken .empty steps) (makeAll .empty steps).2.tools :=
  makeAll_keeps (P := fun past c => Tells past c.tools) (fun _ _ _ _ => Tells.made)
    [] tells_empty steps

theorem mem_of_mem_taken {steps : List ToolStep} (h : step ∈ taken c steps) : step ∈ steps :=
  Attempts.mem_of_mem_taken (taken_eq c steps ▸ h)

/-- The index of a call under way was named by the step that began it. -/
theorem exists_start {steps : List ToolStep} {call : OpenTool}
    (h : (makeAll .empty steps).2.tools.pending = some call) :
    ∃ step ∈ steps, step.index = call.index := by
  obtain ⟨before, own, hdone, -, fragments, rfl, -⟩ := (tells_makeAll steps).pending call h
  refine ⟨.start call.index call.id call.name, mem_of_mem_taken (c := .empty) ?_, rfl⟩
  rw [hdone]
  exact List.mem_append_right before List.mem_cons_self

/-- Whatever steps are made, and whatever indexes they name, the collection that they lead to is the one
that the steps tell that took place: at most one call is under way, and the finished calls are those that
were begun, in that order, each with the text of its own fragments. What is finished stays as it is. A
step fails for one reason, and then it changes nothing. For indexes of blocks this is what
`Aggregate` does. -/
theorem makeAll_collects (steps : List ToolStep) :
    let c := (makeAll .empty steps).2
    Tells (taken .empty steps) c.tools ∧
      (∀ later, c.tools.finished <+: (makeAll .empty (steps ++ later)).2.tools.finished) ∧
      (∀ step v, (on c (make step)).1 = .error v ↔ Refuses c.tools.pending step v) ∧
      (∀ step v, (on c (make step)).1 = .error v → (on c (make step)).2 = c) ∧
      ((∀ step ∈ steps, step.index.IsCount) → ∀ step, step.index.IsCount →
        on c (make step) = outcome c (step.apply c.tools)) := by
  intro c
  refine ⟨tells_makeAll steps, ?_, fun step v => on_make_error_iff c step v,
    fun step v => on_make_failed, ?_⟩
  · intro later
    rw [makeAll_append]
    exact finished_prefix c later
  · intro hsteps step hstep
    refine on_make_eq hstep fun call hcall => ?_
    obtain ⟨began, hmem, hindex⟩ := exists_start hcall
    exact hindex ▸ hsteps began hmem

/-- What is begun inside of a call and what is for another block is refused, and the call is finished as
if it had not been there. -/
example :
    let run := makeAll .empty
      [.start (.ofNat 0) "t1" "weather", .start (.ofNat 1) "t2" "time",
        .append (.ofNat 0) "\x7b\"city\":", .append (.ofNat 1) "1", .close (.ofNat 1),
        .append (.ofNat 0) "\"SF\"\x7d", .close (.ofNat 0), .close (.ofNat 0)]
    run.1.map Except.isOk = [true, false, true, false, false, true, true, true] ∧
      run.2.tools = ⟨none, [⟨"t1", "weather", [("city", .str "SF")]⟩]⟩ := by
  decide +kernel

end Collecting

end ChatRelay
