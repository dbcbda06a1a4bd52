import ChatRelay.Endpoint

/-!
# Transports

A transport carries the request of one turn to a model and brings back what the model answers: a
stream of responses, or a single one. What it streams is left open, it may give any responses in any
order, fail anywhere, and raise anything where it is left early. A single response is the last thing
that its flow gives (`Flow.Once`).

The endpoint, together with what the network does with the call, is a transport.
-/

namespace ChatRelay

namespace Flow

variable {ε ε' α β : Type}

/-- A source that is awaited: after its effects it gives one item, or it fails without any. -/
inductive Once : Flow ε α → Prop where
  | gives (effects : List ε) (a : α) : Once ⟨effects.map .effect ++ [.yield a], none⟩
  | fails (effects : List ε) (f : Failure) : Once ⟨effects.map .effect, some f⟩

theorem bindFrom_effects (failure : Option Failure) (f : α → Flow ε β) (effects : List ε)
    (acts : List (Act ε α)) :
    bindFrom failure f (effects.map .effect ++ acts)
      = (bindFrom failure f acts).after (effects.map .effect) := by
  induction effects with
  | nil => rfl
  | cons e effects ih => exact congrArg (Flow.after [.effect e]) ih

/-- What is awaited goes on with what comes of it. -/
theorem gives_bind (effects : List ε) (a : α) (f : α → Flow ε β) :
    (⟨effects.map .effect ++ [.yield a], none⟩ : Flow ε α) >>= f
      = (f a).after (effects.map .effect) := by
  have hlast : bindFrom none f [.yield a] = f a := by
    show (f a).andThen ⟨[], none⟩ = f a
    obtain ⟨acts, failure⟩ := f a
    cases failure with
    | none => simp [andThen, Flow.after]
    | some g => rfl
  show bindFrom none f (effects.map .effect ++ [.yield a]) = _
  rw [bindFrom_effects, hlast]

theorem fails_bind (effects : List ε) (g : Failure) (f : α → Flow ε β) :
    (⟨effects.map .effect, some g⟩ : Flow ε α) >>= f = ⟨effects.map .effect, some g⟩ := by
  have h := bindFrom_effects (some g) f effects []
  rw [List.append_nil] at h
  show bindFrom (some g) f (effects.map .effect) = _
  rw [h]
  simp [bindFrom, Flow.after]

theorem ofExcept_ok_bind (a : α) (f : α → Flow ε β) : (ofExcept (.ok a) : Flow ε α) >>= f = f a :=
  gives_bind [] a f

namespace Once

theorem one (a : α) : Once (one a : Flow ε α) := .gives [] a

theorem fail (f : Failure) : Once (fail f : Flow ε α) := .fails [] f

theorem perform (e : ε) : Once (perform e) := .gives [e] ()

theorem ofExcept (x : Except Failure α) : Once (ofExcept x : Flow ε α) := by
  cases x with
  | ok a => exact one a
  | error f => exact fail f

theorem after {flow : Flow ε α} (h : flow.Once) (effects : List ε) :
    Once (flow.after (effects.map .effect)) := by
  cases h with
  | gives more a =>
      have := gives (effects ++ more) a
      rwa [List.map_append, List.append_assoc] at this
  | fails more f =>
      have := fails (α := α) (effects ++ more) f
      rwa [List.map_append] at this

/-- A failure comes behind nothing but effects. -/
theorem acts_of_failure {flow : Flow ε α} (h : flow.Once) {f : Failure}
    (hf : flow.failure = some f) : ∃ effects : List ε, flow.acts = effects.map .effect := by
  cases h with
  | gives effects a => cases hf
  | fails effects g => exact ⟨effects, rfl⟩

theorem bind {flow : Flow ε α} (h : flow.Once) {f : α → Flow ε β} (hf : ∀ a, (f a).Once) :
    Once (flow >>= f) := by
  cases h with
  | gives effects a =>
      rw [gives_bind]
      exact (hf a).after effects
  | fails effects g =>
      rw [fails_bind]
      exact fails effects g

theorem map {flow : Flow ε α} (h : flow.Once) (f : α → β) : Once (f <$> flow) :=
  h.bind fun a => one (f a)

theorem rescue {flow : Flow ε α} (h : flow.Once) {other : Failure → Flow ε α}
    (hother : ∀ f, (other f).Once) : Once (flow.rescue other) := by
  cases hf : flow.failure with
  | none => simpa [Flow.rescue, hf] using h
  | some f =>
      obtain ⟨effects, hacts⟩ := h.acts_of_failure hf
      simpa [Flow.rescue, hf, hacts] using (hother f).after effects

theorem mapEffects {flow : Flow ε α} (h : flow.Once) (f : ε → ε') : Once (flow.mapEffects f) := by
  cases h with
  | gives effects a =>
      have := gives (effects.map f) a
      rw [List.map_map] at this
      rw [Flow.mapEffects, List.map_append, List.map_map]
      exact this
  | fails effects g =>
      have := fails (α := α) (effects.map f) g
      rw [List.map_map] at this
      rw [Flow.mapEffects, List.map_map]
      exact this

theorem gather (flow : Flow ε α) : Once flow.gather := by
  have heffects {only : Act ε α → Option (Act ε (List α))}
      (heffect : ∀ e, only (.effect e) = some (.effect e)) (hyield : ∀ a, only (.yield a) = none) :
      ∃ effects : List ε, flow.acts.filterMap only = effects.map .effect := by
    induction flow.acts with
    | nil => exact ⟨[], rfl⟩
    | cons act acts ih =>
        obtain ⟨effects, ih⟩ := ih
        cases act with
        | effect e => exact ⟨e :: effects, by rw [List.filterMap_cons, heffect, ih]; rfl⟩
        | yield a => exact ⟨effects, by rw [List.filterMap_cons, hyield, ih]⟩
  have hgives {only : Act ε α → Option (Act ε (List α))}
      (heffect : ∀ e, only (.effect e) = some (.effect e)) (hyield : ∀ a, only (.yield a) = none) :
      Once ⟨flow.acts.filterMap only ++ [.yield flow.items], none⟩ := by
    obtain ⟨effects, hacts⟩ := heffects heffect hyield
    exact hacts ▸ gives effects flow.items
  have hfails {only : Act ε α → Option (Act ε (List α))}
      (heffect : ∀ e, only (.effect e) = some (.effect e)) (hyield : ∀ a, only (.yield a) = none)
      (f : Failure) : Once ⟨flow.acts.filterMap only, some f⟩ := by
    obtain ⟨effects, hacts⟩ := heffects heffect hyield
    exact hacts ▸ fails effects f
  rw [Flow.gather]
  cases flow.failure with
  | none => exact hgives (fun _ => rfl) (fun _ => rfl)
  | some f => exact hfails (fun _ => rfl) (fun _ => rfl) f

end Once

end Flow

/-- What the transport of a turn does with a request to a model. -/
structure Transport where
  responses : (model : Text) → (request : Json) → Flow Effect (Held Response)
  complete : (model : Text) → (request : Json) → Flow Effect Response
  complete_once : ∀ model request, (complete model request).Once

/-- The responses that a transport streams, to a consumer that reads them all. -/
def Transport.stream (t : Transport) (model : Text) (request : Json) : Flow Effect Response :=
  (t.responses model request).bare

namespace Endpoint

theorem bodyText_once (body : Option ByteFlow) : (bodyText body).Once := (Flow.Once.gather _).map _

theorem errorText_once (body : Option ByteFlow) : (errorText body).Once :=
  (bodyText_once body).rescue fun _ => (Flow.Once.perform _).bind fun _ => .one []

theorem post_once (e : Endpoint) (model : Text) (d : Delivery) (request : Json) (answer : Answer) :
    (e.post model d request answer).Once := by
  refine (Flow.Once.ofExcept _).bind fun token => (Flow.Once.ofExcept _).bind fun entry =>
    (Flow.Once.perform _).bind fun _ => (Flow.Once.perform _).bind fun _ =>
      (Flow.Once.perform _).bind fun _ => ?_
  cases answer with
  | failed f => exact .fail f
  | responded status body =>
      dsimp only
      split
      · exact .one body
      · exact (errorText_once body).bind fun text => .fail _

theorem complete_once (e : Endpoint) (model : Text) (request : Json) (answer : Answer) :
    (e.complete model request answer).Once := by
  rw [complete]
  split
  · exact .fail _
  · exact (post_once ..).bind fun body => (bodyText_once body).bind fun text => .ofExcept _

/-- The scope under which the endpoint logs. -/
def scope : Text := "vertex"

/-- The endpoint as the transport of a turn whose call the network answers in a given way. -/
def transport (e : Endpoint) (answer : Answer) : Transport where
  responses model request := (e.stream model request answer).mapEffects (Effect.within scope)
  complete model request := (e.complete model request answer).mapEffects (Effect.within scope)
  complete_once model request := (complete_once e model request answer).mapEffects _

end Endpoint

end ChatRelay
