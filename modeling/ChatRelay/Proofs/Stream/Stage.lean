import ChatRelay.Stream.Flow

/-!
# Runs of a stage

`Flow.through` reads a source and closes the result in one recursion. Here the two are taken apart:
`Stage.run` reads a list of acts and says what the stage puts out and how far it has come, and
`Stage.close` adds what the end of the source brings. A run over a concatenation is a run over the
first part continued over the second one (`run_append`), which is where every prefix property of a
reading comes from.

Two general laws follow. Two stages in a row are one stage (`through_through`), and two stages whose
states can be kept in step give the same flow (`through_eq_of_simulation`).
-/

namespace ChatRelay

namespace Flow

variable {ε α : Type}

@[simp] theorem items_after (acts : List (Act ε α)) (flow : Flow ε α) :
    (flow.after acts).items = acts.filterMap Act.item? ++ flow.items := List.filterMap_append

@[simp] theorem effects_after (acts : List (Act ε α)) (flow : Flow ε α) :
    (flow.after acts).effects = acts.filterMap Act.effect? ++ flow.effects := List.filterMap_append

theorem after_after (first second : List (Act ε α)) (flow : Flow ε α) :
    (flow.after second).after first = flow.after (first ++ second) := by
  simp [after]

theorem andThen_done (flow : Flow ε α) : flow.andThen .done = flow := by
  obtain ⟨acts, failure⟩ := flow
  cases failure with
  | none => exact congrArg (Flow.mk · none) (List.append_nil acts)
  | some f => rfl

end Flow

@[simp] theorem Act.items_effects {ε α : Type} (effects : List ε) :
    (effects.map (Act.effect (α := α))).filterMap Act.item? = [] := by
  simp [List.filterMap_map, Function.comp_def, Act.item?]

@[simp] theorem Act.effects_effects {ε α : Type} (effects : List ε) :
    (effects.map (Act.effect (α := α))).filterMap Act.effect? = effects := by
  simp [List.filterMap_map, Function.comp_def, Act.effect?]

theorem Flow.effects_gives {ε α : Type} (effects : List ε) (a : α) :
    (⟨effects.map .effect ++ [.yield a], none⟩ : Flow ε α).effects = effects := by
  rw [Flow.effects, List.filterMap_append, Act.effects_effects]
  exact List.append_nil _

@[simp] theorem Act.items_yields {ε α : Type} (items : List α) :
    (items.map (Act.yield (ε := ε))).filterMap Act.item? = items := by
  rw [List.filterMap_map]
  exact List.filterMap_some

@[simp] theorem Act.items_logs {α : Type} (entries : List Log.Entry) :
    (Act.logs entries).filterMap (Act.item? (α := α)) = [] := by
  simp [Act.logs, List.filterMap_map, Function.comp_def, Act.item?]

/-- How far a stage has come: it waits in a state for the next item, or it has ended the result. -/
inductive Progress (σ : Type) where
  | running (state : σ)
  | ended (failure : Option Failure)

/-- The failure that has ended a result, if it has ended with one. -/
def Progress.failure {σ : Type} : Progress σ → Option Failure
  | .running _ => none
  | .ended f => f

/-- What a reaction puts out. -/
def Reaction.acts {ε σ β : Type} : Reaction ε σ β → List (Act ε β)
  | .next _ out => out
  | .stop out _ => out

/-- Two reactions that put out the same, and then end alike or go on in related states. -/
inductive Reaction.Agree {ε σ τ β : Type} (R : σ → τ → Prop) :
    Reaction ε σ β → Reaction ε τ β → Prop
  | next {s : σ} {t : τ} {out : List (Act ε β)} : R s t → Agree R (.next s out) (.next t out)
  | stop {out : List (Act ε β)} {f : Option Failure} : Agree R (.stop out f) (.stop out f)

theorem Reaction.Agree.refl {ε σ β : Type} (x : Reaction ε σ β) :
    Reaction.Agree (· = ·) x x := by
  cases x with
  | next s out => exact .next rfl
  | stop out f => exact .stop

theorem Reaction.Agree.imp {ε σ τ β : Type} {R S : σ → τ → Prop} {x : Reaction ε σ β}
    {y : Reaction ε τ β} (h : Reaction.Agree R x y) (himp : ∀ s t, R s t → S s t) :
    Reaction.Agree S x y := by
  cases h with
  | next hR => exact .next (himp _ _ hR)
  | stop => exact .stop

namespace Stage

variable {ε σ τ υ α β γ : Type}

/-- What a stage puts out while it reads a list of acts, and how far it comes. -/
def run (stage : Stage ε σ α β) : σ → List (Act ε α) → List (Act ε β) × Progress σ
  | s, [] => ([], .running s)
  | s, .effect e :: acts => (.effect e :: (stage.run s acts).1, (stage.run s acts).2)
  | s, .yield a :: acts =>
    match stage.react s a with
    | .next s out => (out ++ (stage.run s acts).1, (stage.run s acts).2)
    | .stop out failure => (out, .ended failure)

/-- What the end of the source adds to a run. -/
def close (stage : Stage ε σ α β) (failure : Option Failure) :
    List (Act ε β) × Progress σ → Flow ε β
  | (out, .ended f) => ⟨out, f⟩
  | (out, .running s) =>
    match failure with
    | none => (stage.finish s).after out
    | some f => ⟨out, some f⟩

/-! ## One act -/

@[simp] theorem run_nil (stage : Stage ε σ α β) (s : σ) :
    stage.run s [] = ([], .running s) := rfl

@[simp] theorem run_effect (stage : Stage ε σ α β) (s : σ) (e : ε) (acts : List (Act ε α)) :
    stage.run s (.effect e :: acts)
      = (.effect e :: (stage.run s acts).1, (stage.run s acts).2) := rfl

theorem run_yield_next {stage : Stage ε σ α β} {s s' : σ} {a : α} {out : List (Act ε β)}
    (h : stage.react s a = .next s' out) (acts : List (Act ε α)) :
    stage.run s (.yield a :: acts) = (out ++ (stage.run s' acts).1, (stage.run s' acts).2) := by
  rw [run, h]

theorem run_yield_stop {stage : Stage ε σ α β} {s : σ} {a : α} {out : List (Act ε β)}
    {f : Option Failure} (h : stage.react s a = .stop out f) (acts : List (Act ε α)) :
    stage.run s (.yield a :: acts) = (out, .ended f) := by
  rw [run, h]

/-- A run that waits behind an item has not ended at the item. -/
theorem run_yield_running {stage : Stage ε σ α β} {s t : σ} {a : α} {acts : List (Act ε α)}
    {out : List (Act ε β)} (h : stage.run s (.yield a :: acts) = (out, .running t)) :
    ∃ s' first rest, stage.react s a = .next s' first ∧
      stage.run s' acts = (rest, .running t) ∧ out = first ++ rest := by
  cases hreact : stage.react s a with
  | stop first f =>
      rw [run_yield_stop hreact] at h
      cases h
  | next s' first =>
      rw [run_yield_next hreact] at h
      obtain ⟨rfl, hend⟩ := Prod.mk.inj h
      exact ⟨s', first, (stage.run s' acts).1, rfl, by rw [← hend], rfl⟩

/-! ## Runs over a concatenation -/

/-- A run continued over more acts: one that waits goes on, one that has ended reads nothing. -/
def resume (stage : Stage ε σ α β) (b : List (Act ε α)) :
    List (Act ε β) × Progress σ → List (Act ε β) × Progress σ
  | (out, .running s) => (out ++ (stage.run s b).1, (stage.run s b).2)
  | (out, .ended f) => (out, .ended f)

theorem resume_append (stage : Stage ε σ α β) (b : List (Act ε α)) (out : List (Act ε β))
    (r : List (Act ε β) × Progress σ) :
    stage.resume b (out ++ r.1, r.2)
      = (out ++ (stage.resume b r).1, (stage.resume b r).2) := by
  obtain ⟨more, s | f⟩ := r
  · simp only [resume, List.append_assoc]
  · rfl

/-- Reading two lists of acts in turn is reading their concatenation. -/
theorem run_append (stage : Stage ε σ α β) (s : σ) (a b : List (Act ε α)) :
    stage.run s (a ++ b) = stage.resume b (stage.run s a) := by
  induction a generalizing s with
  | nil => rfl
  | cons act a ih =>
      cases act with
      | effect e =>
          rw [List.cons_append, run_effect, run_effect, ih]
          exact (stage.resume_append b [.effect e] (stage.run s a)).symm
      | yield x =>
          rw [List.cons_append]
          cases h : stage.react s x with
          | next t out => rw [run_yield_next h, run_yield_next h, ih, resume_append]
          | stop out f => rw [run_yield_stop h, run_yield_stop h]; rfl

/-- A run that waits is taken up by a run from the state in which it waits. -/
theorem run_trans {stage : Stage ε σ α β} {s t : σ} {a b : List (Act ε α)}
    {out more : List (Act ε β)} {p : Progress σ} (ha : stage.run s a = (out, .running t))
    (hb : stage.run t b = (more, p)) : stage.run s (a ++ b) = (out ++ more, p) := by
  rw [run_append, ha, resume, hb]

/-! ## What is read off a run -/

/-- What is read off the acts of a stage depends on the items of its source alone, if the effects of
the source show nothing of it. -/
theorem run_filterMap (stage : Stage ε σ α β) {q : Act ε β → Option γ}
    {acts : List (Act ε α)} (hq : ∀ e ∈ acts.filterMap Act.effect?, q (.effect e) = none) (s : σ) :
    (stage.run s acts).1.filterMap q
        = (stage.run s ((acts.filterMap Act.item?).map .yield)).1.filterMap q ∧
      (stage.run s acts).2 = (stage.run s ((acts.filterMap Act.item?).map .yield)).2 := by
  induction acts generalizing s with
  | nil => exact ⟨rfl, rfl⟩
  | cons act acts ih =>
      cases act with
      | effect e =>
          have hfirst : q (.effect e) = none := hq e List.mem_cons_self
          obtain ⟨hseen, hend⟩ := ih (fun e' he' => hq e' (List.mem_cons_of_mem e he')) s
          exact ⟨(List.filterMap_cons_none hfirst).trans hseen, hend⟩
      | yield a =>
          have hitems : (Act.yield a :: acts).filterMap Act.item?
              = a :: acts.filterMap Act.item? := rfl
          rw [hitems, List.map_cons]
          cases h : stage.react s a with
          | next t out =>
              obtain ⟨hseen, hend⟩ := ih hq t
              rw [run_yield_next h, run_yield_next h, List.filterMap_append,
                List.filterMap_append, hseen]
              exact ⟨rfl, hend⟩
          | stop out f =>
              rw [run_yield_stop h, run_yield_stop h]
              exact ⟨rfl, rfl⟩

/-! ## The flow of a run -/

/-- What a stage in some state makes of a source. -/
def read (stage : Stage ε σ α β) (s : σ) (flow : Flow ε α) : Flow ε β :=
  stage.close flow.failure (stage.run s flow.acts)

theorem close_append (stage : Stage ε σ α β) (failure : Option Failure) (out : List (Act ε β))
    (r : List (Act ε β) × Progress σ) :
    stage.close failure (out ++ r.1, r.2) = (stage.close failure r).after out := by
  obtain ⟨more, s | f⟩ := r
  · cases failure <;> simp [close, Flow.after]
  · rfl

theorem throughFrom_eq_close (stage : Stage ε σ α β) (failure : Option Failure) (s : σ)
    (acts : List (Act ε α)) :
    Flow.throughFrom stage.react stage.finish failure s acts
      = stage.close failure (stage.run s acts) := by
  induction acts generalizing s with
  | nil => cases failure <;> simp [Flow.throughFrom, close, Flow.after, Flow.fail]
  | cons act acts ih =>
      cases act with
      | effect e =>
          rw [Flow.throughFrom, ih, run_effect]
          exact (stage.close_append failure [.effect e] (stage.run s acts)).symm
      | yield a =>
          rw [Flow.throughFrom]
          cases h : stage.react s a with
          | next t out => rw [run_yield_next h, close_append, ← ih]
          | stop out f => rw [run_yield_stop h]; rfl

/-- The flow that a stage makes of a source is its reading from the first state on. -/
theorem through_eq_read (flow : Flow ε α) (stage : Stage ε σ α β) :
    flow.through stage = stage.read stage.start flow :=
  throughFrom_eq_close stage flow.failure stage.start flow.acts

/-- A stage that has no last word ends as far as it has come. -/
theorem close_of_done {stage : Stage ε σ α β} (h : ∀ s, stage.finish s = .done)
    (r : List (Act ε β) × Progress σ) : stage.close none r = ⟨r.1, r.2.failure⟩ := by
  obtain ⟨out, s | f⟩ := r
  · show (stage.finish s).after out = ⟨out, none⟩
    rw [h, Flow.after, Flow.done, List.append_nil]
  · rfl

/-- However the source ends, a stage that has no last word has put out the same by then. -/
theorem acts_close {stage : Stage ε σ α β} (h : ∀ s, stage.finish s = .done)
    (failure : Option Failure) (r : List (Act ε β) × Progress σ) :
    (stage.close failure r).acts = r.1 := by
  obtain ⟨out, s | f⟩ := r
  · cases failure with
    | none =>
        show ((stage.finish s).after out).acts = out
        rw [h]
        exact List.append_nil out
    | some f => rfl
  · rfl

/-- How a result fails is decided by how far the stage has come, not by what it has put out. -/
theorem failure_close (stage : Stage ε σ α β) (failure : Option Failure)
    (out out' : List (Act ε β)) (p : Progress σ) :
    (stage.close failure (out, p)).failure = (stage.close failure (out', p)).failure := by
  cases p with
  | running s => cases failure <;> rfl
  | ended f => rfl

/-- Reading something before a source, and then the source. -/
theorem read_after (stage : Stage ε σ α β) (s : σ) (acts : List (Act ε α)) (flow : Flow ε α) :
    stage.read s (flow.after acts) =
      match stage.run s acts with
      | (out, .running s') => (stage.read s' flow).after out
      | (out, .ended f) => ⟨out, f⟩ := by
  rw [read, Flow.after, run_append]
  obtain ⟨out, s' | f⟩ := stage.run s acts
  · exact stage.close_append flow.failure out (stage.run s' flow.acts)
  · rfl

theorem read_effect (stage : Stage ε σ α β) (s : σ) (e : ε) (acts : List (Act ε α))
    (failure : Option Failure) :
    stage.read s ⟨.effect e :: acts, failure⟩
      = (stage.read s ⟨acts, failure⟩).after [.effect e] :=
  stage.close_append failure [.effect e] (stage.run s acts)

theorem read_yield_next {stage : Stage ε σ α β} {s s' : σ} {a : α} {out : List (Act ε β)}
    (h : stage.react s a = .next s' out) (acts : List (Act ε α)) (failure : Option Failure) :
    stage.read s ⟨.yield a :: acts, failure⟩ = (stage.read s' ⟨acts, failure⟩).after out := by
  rw [read, run_yield_next h]
  exact stage.close_append failure out (stage.run s' acts)

theorem read_yield_stop {stage : Stage ε σ α β} {s : σ} {a : α} {out : List (Act ε β)}
    {f : Option Failure} (h : stage.react s a = .stop out f) (acts : List (Act ε α))
    (failure : Option Failure) : stage.read s ⟨.yield a :: acts, failure⟩ = ⟨out, f⟩ := by
  rw [read, run_yield_stop h]
  rfl

/-! ## Two stages in a row -/

/-- The stage that hands everything one stage puts out to a second one. -/
def andThen (first : Stage ε σ α β) (second : Stage ε τ β γ) : Stage ε (σ × τ) α γ where
  start := (first.start, second.start)
  react state a :=
    match first.react state.1 a with
    | .next s out =>
      match second.run state.2 out with
      | (more, .running t) => .next (s, t) more
      | (more, .ended f) => .stop more f
    | .stop out f => .stop (second.read state.2 ⟨out, f⟩).acts (second.read state.2 ⟨out, f⟩).failure
  finish state := second.read state.2 (first.finish state.1)

/-- An item that the first stage keeps to itself. -/
theorem andThen_silent {first : Stage ε σ α β} {s s' : σ} {a : α} (effects : List ε)
    (h : first.react s a = .next s' (effects.map .effect)) (second : Stage ε τ β γ) (t : τ) :
    (first.andThen second).react (s, t) a = .next (s', t) (effects.map .effect) := by
  have hrun : second.run t (effects.map .effect) = (effects.map .effect, .running t) := by
    clear h
    induction effects with
    | nil => rfl
    | cons e effects ih => rw [List.map_cons, run_effect, ih, List.map_cons]
  simp only [andThen, h, hrun]

/-- An item in whose place the first stage hands on another one. -/
theorem andThen_yield {first : Stage ε σ α β} {s s' : σ} {a : α} {b : β}
    (h : first.react s a = .next s' [.yield b]) {second : Stage ε τ β γ} {t : τ}
    {R : τ → υ → Prop} {r : Reaction ε υ γ} (hr : Reaction.Agree R (second.react t b) r) :
    Reaction.Agree (fun state u => state.1 = s' ∧ R state.2 u)
      ((first.andThen second).react (s, t) a) r := by
  simp only [andThen, h]
  cases hb : second.react t b with
  | next t' out =>
      rw [hb] at hr
      rw [run_yield_next hb]
      obtain ⟨hR⟩ := hr
      simpa using .next ⟨rfl, hR⟩
  | stop out f =>
      rw [hb] at hr
      rw [run_yield_stop hb]
      obtain ⟨⟩ := hr
      exact .stop

/-- An item at which the first stage ends, with nothing more to say, before a second stage that
has no last word. -/
theorem andThen_stop {first : Stage ε σ α β} {s : σ} {a : α} {f : Option Failure}
    (h : first.react s a = .stop [] f) {second : Stage ε τ β γ} {t : τ}
    (hfinish : second.finish t = .done) :
    (first.andThen second).react (s, t) a = .stop [] f := by
  simp only [andThen, h, read, run_nil, close]
  cases f with
  | none => simp [hfinish, Flow.after, Flow.done]
  | some f => rfl

theorem read_read (first : Stage ε σ α β) (second : Stage ε τ β γ) (s : σ) (t : τ)
    (flow : Flow ε α) :
    second.read t (first.read s flow) = (first.andThen second).read (s, t) flow := by
  obtain ⟨acts, failure⟩ := flow
  -- What the first stage puts out for one item is a run of the second one, which may end in it.
  induction acts generalizing s t with
  | nil => cases failure <;> rfl
  | cons act acts ih =>
      cases act with
      | effect e =>
          rw [read_effect, read_after, read_effect, ← ih]
          rfl
      | yield a =>
          cases h : first.react s a with
          | next s' out =>
              rw [read_yield_next h, read_after]
              cases ht : second.run t out with
              | mk more progress =>
                  cases progress with
                  | running t' =>
                      have hboth : (first.andThen second).react (s, t) a = .next (s', t') more := by
                        simp only [andThen, h, ht]
                      rw [read_yield_next hboth, ← ih]
                  | ended f =>
                      have hboth : (first.andThen second).react (s, t) a = .stop more f := by
                        simp only [andThen, h, ht]
                      rw [read_yield_stop hboth]
          | stop out f =>
              have hboth : (first.andThen second).react (s, t) a
                  = .stop (second.read t ⟨out, f⟩).acts (second.read t ⟨out, f⟩).failure := by
                simp only [andThen, h]
              rw [read_yield_stop h, read_yield_stop hboth]

/-- Two stages in a row are one stage. -/
theorem through_through (flow : Flow ε α) (first : Stage ε σ α β) (second : Stage ε τ β γ) :
    (flow.through first).through second = flow.through (first.andThen second) := by
  rw [through_eq_read, through_eq_read, through_eq_read]
  exact read_read first second first.start second.start flow

/-! ## Simulation -/

/-- Stages that react alike in related states make the same flow from related states on. -/
theorem read_eq_of_simulation {A : Stage ε σ α β} {B : Stage ε τ α β} {R : σ → τ → Prop}
    (hreact : ∀ s t a, R s t → Reaction.Agree R (A.react s a) (B.react t a))
    (hfinish : ∀ s t, R s t → A.finish s = B.finish t) {s : σ} {t : τ} (h : R s t)
    (flow : Flow ε α) : A.read s flow = B.read t flow := by
  obtain ⟨acts, failure⟩ := flow
  induction acts generalizing s t with
  | nil =>
      cases failure with
      | none =>
          show (A.finish s).after [] = (B.finish t).after []
          rw [hfinish s t h]
      | some f => rfl
  | cons act acts ih =>
      cases act with
      | effect e => rw [read_effect, read_effect, ih h]
      | yield a =>
          have hstep := hreact s t a h
          cases hA : A.react s a with
          | next s' out =>
              rw [hA] at hstep
              cases hB : B.react t a with
              | next t' out' =>
                  rw [hB] at hstep
                  obtain ⟨hnext⟩ := hstep
                  rw [read_yield_next hA, read_yield_next hB, ih hnext]
              | stop out' f => rw [hB] at hstep; cases hstep
          | stop out f =>
              rw [hA] at hstep
              cases hB : B.react t a with
              | next t' out' => rw [hB] at hstep; cases hstep
              | stop out' g =>
                  rw [hB] at hstep
                  obtain ⟨⟩ := hstep
                  rw [read_yield_stop hA, read_yield_stop hB]

/-- Stages that can be kept in step make the same flow of every source. -/
theorem through_eq_of_simulation {A : Stage ε σ α β} {B : Stage ε τ α β} {R : σ → τ → Prop}
    (hstart : R A.start B.start)
    (hreact : ∀ s t a, R s t → Reaction.Agree R (A.react s a) (B.react t a))
    (hfinish : ∀ s t, R s t → A.finish s = B.finish t) (flow : Flow ε α) :
    flow.through A = flow.through B := by
  rw [through_eq_read, through_eq_read]
  exact read_eq_of_simulation hreact hfinish hstart flow

/-! ## Where items and failures come from -/

/-- An item of the result was put out in the place of an item of the source, or at the end. -/
theorem mem_items_read {stage : Stage ε σ α β} {s : σ} {flow : Flow ε α} {b : β}
    (h : b ∈ (stage.read s flow).items) :
    (∃ t, ∃ a ∈ flow.items, b ∈ (stage.react t a).acts.filterMap Act.item?) ∨
      ∃ t, b ∈ (stage.finish t).items := by
  obtain ⟨acts, failure⟩ := flow
  induction acts generalizing s with
  | nil =>
      cases failure with
      | none => exact .inr ⟨s, by rwa [read, run_nil, close, Flow.items_after] at h⟩
      | some f => cases h
  | cons act acts ih =>
      cases act with
      | effect e =>
          rw [read_effect, Flow.items_after] at h
          exact ih h
      | yield a =>
          cases hreact : stage.react s a with
          | next s' out =>
              rw [read_yield_next hreact, Flow.items_after, List.mem_append] at h
              cases h with
              | inl hout => exact .inl ⟨s, a, List.mem_cons_self, by rwa [hreact]⟩
              | inr hrest =>
                  obtain ⟨t, x, hx, hb⟩ | hend := ih hrest
                  · exact .inl ⟨t, x, List.mem_cons_of_mem a hx, hb⟩
                  · exact .inr hend
          | stop out f =>
              rw [read_yield_stop hreact] at h
              exact .inl ⟨s, a, List.mem_cons_self, by rwa [hreact]⟩

/-- A failure of the result is one of the source, or comes from the stage, at an item or at the
end. -/
theorem failure_read {stage : Stage ε σ α β} {s : σ} {flow : Flow ε α} {f : Failure}
    (h : (stage.read s flow).failure = some f) :
    flow.failure = some f ∨ (∃ t, ∃ a ∈ flow.items, ∃ out, stage.react t a = .stop out (some f)) ∨
      ∃ t, (stage.finish t).failure = some f := by
  obtain ⟨acts, failure⟩ := flow
  induction acts generalizing s with
  | nil =>
      cases failure with
      | none => exact .inr (.inr ⟨s, h⟩)
      | some g => exact .inl h
  | cons act acts ih =>
      cases act with
      | effect e =>
          rw [read_effect] at h
          exact ih h
      | yield a =>
          cases hreact : stage.react s a with
          | next s' out =>
              rw [read_yield_next hreact] at h
              obtain hsource | ⟨t, x, hx, hstop⟩ | hend := ih h
              · exact .inl hsource
              · exact .inr (.inl ⟨t, x, List.mem_cons_of_mem a hx, hstop⟩)
              · exact .inr (.inr hend)
          | stop out g =>
              rw [read_yield_stop hreact] at h
              cases h
              exact .inr (.inl ⟨s, a, List.mem_cons_self, out, hreact⟩)

end Stage

end ChatRelay
