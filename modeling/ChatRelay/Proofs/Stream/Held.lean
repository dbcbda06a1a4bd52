import ChatRelay.Proofs.Stream.Stage
import ChatRelay.Stream.Reduction

/-!
# What leaving a stage raises

Leaving a source adds nothing to what its consumers are given: a stage over a source that may be left
early puts out what the stage itself does (`Flow.acts_through_held`). It is the stage itself as long as
leaving the source raises nothing (`Flow.through_hold`), and what leaving the stage raises is nothing but
what leaving the source raises (`Flow.LeftBy.through`).
-/

namespace ChatRelay

theorem Stage.react_held {ε σ α β : Type} (stage : Stage ε σ α β) (s : σ) (a : Held α) :
    stage.held.react s a = (stage.react s a.item).hold a.left := rfl

/-- Effects are not renamed. -/
theorem Act.effect_mem_map {ε α β : Type} {f : α → β} {e : ε} {acts : List (Act ε α)} :
    .effect e ∈ acts.map (Act.map f) ↔ .effect e ∈ acts := by
  constructor
  · intro h
    obtain ⟨act, hact, heq⟩ := List.mem_map.mp h
    cases act with
    | effect e' => cases heq; exact hact
    | yield a => cases heq
  · exact fun h => List.mem_map.mpr ⟨_, h, rfl⟩

/-- An item that has been renamed was an item before. -/
theorem Act.yield_mem_map {ε α β : Type} {f : α → β} {b : β} {acts : List (Act ε α)}
    (h : .yield b ∈ acts.map (Act.map f)) : ∃ a, .yield a ∈ acts ∧ f a = b := by
  obtain ⟨act, hact, heq⟩ := List.mem_map.mp h
  cases act with
  | effect e => cases heq
  | yield a => cases heq; exact ⟨a, hact, rfl⟩

namespace Flow

variable {ε ε' σ α β : Type} {P : Option Failure → Prop}

theorem bare_hold (left : Option Failure) (flow : Flow ε α) : (flow.hold left).bare = flow := by
  obtain ⟨acts, failure⟩ := flow
  have hsame (act : Act ε α) : Act.map Held.item (Act.map (Held.mk · left) act) = act := by
    cases act <;> rfl
  show (⟨(acts.map (Act.map (Held.mk · left))).map (Act.map Held.item), failure⟩ : Flow ε α) = _
  rw [List.map_map, show Act.map Held.item ∘ Act.map (Held.mk · left) = id from funext hsame,
    List.map_id]

theorem items_mapItems (f : α → β) (flow : Flow ε α) :
    (flow.mapItems f).items = flow.items.map f := by
  obtain ⟨acts, failure⟩ := flow
  show (acts.map (Act.map f)).filterMap Act.item? = (acts.filterMap Act.item?).map f
  induction acts with
  | nil => rfl
  | cons act acts ih =>
      cases act with
      | effect e => exact ih
      | yield a => exact congrArg (f a :: ·) ih

theorem items_bare (flow : Flow ε (Held α)) : flow.bare.items = flow.items.map Held.item :=
  items_mapItems Held.item flow

/-! ## What is given -/

theorem bare_after (acts : List (Act ε (Held α))) (flow : Flow ε (Held α)) :
    (flow.after acts).bare = flow.bare.after (acts.map (Act.map Held.item)) := by
  simp [bare, mapItems, after]

/-- Whatever leaving the source raises, a stage puts out the same. -/
theorem acts_through_held (flow : Flow ε (Held α)) (stage : Stage ε σ α β) :
    (flow.through stage.held).bare.acts = (flow.bare.through stage).acts := by
  obtain ⟨acts, failure⟩ := flow
  show (throughFrom stage.held.react stage.held.finish failure stage.start acts).bare.acts
    = (throughFrom stage.react stage.finish failure stage.start
        (acts.map (Act.map Held.item))).acts
  have hheld (left : Option Failure) (out : List (Act ε β)) :
      (out.map (Act.map (Held.mk · left))).map (Act.map Held.item) = out :=
    congrArg Flow.acts (bare_hold left ⟨out, none⟩)
  generalize stage.start = s
  induction acts generalizing s with
  | nil =>
      cases failure with
      | none => exact hheld none _
      | some f => rfl
  | cons act acts ih =>
      cases act with
      | effect e =>
          rw [throughFrom, bare_after]
          exact congrArg (Act.effect e :: ·) (ih s)
      | yield a =>
          rw [List.map_cons, Act.map, throughFrom, throughFrom, Stage.react_held]
          cases stage.react s a.item with
          | next s' out =>
              dsimp only [Reaction.hold]
              rw [bare_after, hheld, after, after, ih]
          | stop out f => exact hheld _ out

/-- Of two sources that differ only in how they end, a stage without a last word makes the same. -/
theorem acts_through_congr {stage : Stage ε σ α β} (hdone : ∀ s, stage.finish s = .done)
    {first second : Flow ε α} (h : first.acts = second.acts) :
    (first.through stage).acts = (second.through stage).acts := by
  rw [Stage.through_eq_read, Stage.through_eq_read, Stage.read, Stage.read, Stage.acts_close hdone,
    Stage.acts_close hdone, h]

/-! ## Leaving -/

/-- What leaving a source raises is of some kind, wherever it is left. -/
def LeftBy (P : Option Failure → Prop) (flow : Flow ε (Held α)) : Prop :=
  ∀ h, .yield h ∈ flow.acts → P h.left

theorem LeftBy.tail {failure : Option Failure} {act : Act ε (Held α)} {acts : List (Act ε (Held α))}
    (h : LeftBy P ⟨act :: acts, failure⟩) : LeftBy P ⟨acts, failure⟩ :=
  fun x hx => h x (List.mem_cons_of_mem act hx)

theorem LeftBy.after {flow : Flow ε (Held α)} (h : flow.LeftBy P) {acts : List (Act ε (Held α))}
    (hacts : ∀ x, .yield x ∈ acts → P x.left) : (flow.after acts).LeftBy P := by
  intro x hx
  rcases List.mem_append.mp hx with hx | hx
  · exact hacts x hx
  · exact h x hx

theorem left_of_mem_hold {left : Option Failure} {acts : List (Act ε α)} {x : Held α}
    (h : .yield x ∈ acts.map (Act.map (Held.mk · left))) : x.left = left := by
  obtain ⟨a, -, rfl⟩ := Act.yield_mem_map h
  rfl

theorem LeftBy.hold {left : Option Failure} (h : P left) (flow : Flow ε α) :
    (flow.hold left).LeftBy P := fun _ hx => left_of_mem_hold hx ▸ h

theorem LeftBy.mapItems {flow : Flow ε (Held α)} (h : flow.LeftBy P) (f : α → β) :
    (flow.mapItems (Held.map f)).LeftBy P := by
  intro x hx
  obtain ⟨y, hy, rfl⟩ := Act.yield_mem_map hx
  exact h y hy

theorem LeftBy.mapEffects {flow : Flow ε (Held α)} (h : flow.LeftBy P) (f : ε → ε') :
    (flow.mapEffects f).LeftBy P := by
  intro x hx
  obtain ⟨act, hact, heq⟩ := List.mem_map.mp hx
  cases act with
  | effect e => cases heq
  | yield y =>
      cases heq
      exact h x hact

/-- To leave a stage is to leave its source, unless the source has come to its end. -/
theorem LeftBy.through {flow : Flow ε (Held α)} (h : flow.LeftBy P) (hnone : P none)
    (stage : Stage ε σ α β) : (flow.through stage.held).LeftBy P := by
  obtain ⟨acts, failure⟩ := flow
  rw [Flow.through]
  generalize stage.held.start = s
  induction acts generalizing s with
  | nil =>
      cases failure with
      | none => exact .hold hnone (stage.finish s)
      | some f => exact fun x hx => by cases hx
  | cons act acts ih =>
      cases act with
      | effect e =>
          rw [throughFrom]
          exact (ih h.tail s).after fun x hx => by cases List.mem_singleton.mp hx
      | yield a =>
          have ha : P a.left := h a List.mem_cons_self
          rw [throughFrom, Stage.react_held]
          cases stage.react s a.item with
          | next s' out => exact (ih h.tail s').after fun x hx => left_of_mem_hold hx ▸ ha
          | stop out f => exact fun x hx => left_of_mem_hold hx ▸ ha

/-- A stage over a source that raises nothing when it is left is the stage itself. -/
theorem through_hold (flow : Flow ε α) (stage : Stage ε σ α β) :
    (flow.hold none).through stage.held = (flow.through stage).hold none := by
  obtain ⟨acts, failure⟩ := flow
  show throughFrom stage.held.react stage.held.finish failure stage.start
      (acts.map (Act.map (Held.mk · none)))
    = (throughFrom stage.react stage.finish failure stage.start acts).hold none
  have hafter (out : List (Act ε β)) (rest : Flow ε β) :
      (rest.after out).hold none = (rest.hold none).after (out.map (Act.map (Held.mk · none))) := by
    simp [Flow.after, Flow.hold, Flow.mapItems]
  generalize stage.start = s
  induction acts generalizing s with
  | nil => cases failure <;> rfl
  | cons act acts ih =>
      cases act with
      | effect e =>
          rw [throughFrom, hafter, ← ih]
          rfl
      | yield a =>
          rw [List.map_cons, Act.map, throughFrom, throughFrom, Stage.react_held]
          cases stage.react s a with
          | next s' out =>
              dsimp only [Reaction.hold]
              rw [hafter, ← ih]
          | stop out f =>
              dsimp only [Reaction.hold]
              rw [Option.or_none]
              rfl

end Flow

/-- What a stream that may be left early gives is what the stream gives, whatever leaving it raises. -/
theorem acts_reduceHeld (chunks : Flow Effect (Held Sse.Chunk)) :
    (reduceHeld chunks).bare.acts = (reduceChunks chunks.bare).acts := by
  have hstage {σ α β : Type} {stage : Stage Effect σ α β} (hdone : ∀ s, stage.finish s = .done)
      {flow : Flow Effect (Held α)} {source : Flow Effect α} (h : flow.bare.acts = source.acts) :
      (flow.through stage.held).bare.acts = (source.through stage).acts :=
    (flow.acts_through_held stage).trans (Flow.acts_through_congr hdone h)
  have hpayloads := chunks.acts_through_held Sse.payloads
  exact hstage (fun _ => rfl) (hstage (fun _ => rfl) (hstage (fun _ => rfl)
    (hstage (fun _ => rfl) hpayloads)))

/-- The responses of a stream that raises nothing when it is left are those of the stream, and leaving them
raises nothing either. -/
theorem reduceHeld_hold (chunks : Flow Effect Sse.Chunk) :
    reduceHeld (chunks.hold none) = (reduceChunks chunks).hold none := by
  rw [reduceHeld, Flow.through_hold, Flow.through_hold, Flow.through_hold, Flow.through_hold,
    Flow.through_hold]
  rfl

theorem Flow.LeftBy.reduceHeld {P : Option Failure → Prop} {chunks : Flow Effect (Held Sse.Chunk)}
    (h : chunks.LeftBy P) (hnone : P none) : (reduceHeld chunks).LeftBy P :=
  ((((h.through hnone _).through hnone _).through hnone _).through hnone _).through hnone _

end ChatRelay
