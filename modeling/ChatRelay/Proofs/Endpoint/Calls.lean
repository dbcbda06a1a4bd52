import ChatRelay.Proofs.Endpoint
import ChatRelay.Proofs.Endpoint.Leaving
import ChatRelay.Proofs.Result
import ChatRelay.Proofs.Stream.Pace

/-!
# The call of a request

A request with a token becomes one call, whatever the network answers to it, and what fails behind the
call is never blamed on the request (`Flow.Asks`). That leaves nothing but the parts behind the call
to be looked at: they are calm, they call nobody and fail for reasons of their own (`Flow.Calm`).
-/

namespace ChatRelay

/-- A failure for which the request is blamed. -/
def Failure.BlamesRequest (f : Failure) : Prop := f.code? = some (Text.ofString "INVALID_REQUEST")

/-- What fails outside of the relay blames nobody. -/
theorem Failure.not_blames_outside {f : Failure} (h : f.report? = none) : ¬ f.BlamesRequest := by
  rw [BlamesRequest, code?, h]
  nofun

theorem Failure.not_blames_of_code {f : Failure} (code : Text) (h : f.code? = some code)
    (hcode : code ≠ "INVALID_REQUEST") : ¬ f.BlamesRequest := by
  intro hblames
  exact hcode (Option.some.inj (h.symm.trans hblames))

/-- What is raised, if anything is, does not blame the request. -/
def Blameless (raised : Option Failure) : Prop := ∀ f, raised = some f → ¬ f.BlamesRequest

theorem blameless_none : Blameless none := fun f hf => by cases hf

/-- What a stream may fail with. -/
inductive Failure.OfStream : Failure → Prop
  | violation (v : Violation) : OfStream (.violation v)
  | unsupported (u : Unsupported) : OfStream (.unsupported u)
  | vendor (type message : Text) : OfStream (.vendor type message)

theorem Failure.OfStream.not_blames {f : Failure} (h : f.OfStream) : ¬ f.BlamesRequest := by
  cases h with
  | violation v =>
      have hcode : (Failure.violation v).code? = some (Text.ofString "STREAM_PROTOCOL_VIOLATION") := by
        cases v <;> rfl
      exact not_blames_of_code _ hcode (by decide)
  | unsupported u =>
      have hcode : (Failure.unsupported u).code? = some (Text.ofString "UNSUPPORTED_CONTENT") := by
        cases u <;> rfl
      exact not_blames_of_code _ hcode (by decide)
  | vendor type message =>
      have hcode : (Failure.vendor type message).code? = some (Text.ofString "STREAM_ERROR_EVENT") := rfl
      exact not_blames_of_code _ hcode (by decide)

/-! ## Parts that call nobody -/

section

variable {α β σ : Type}

/-- A flow that calls nobody and whose failure does not blame the request. -/
structure Flow.Calm (flow : Flow Effect α) : Prop where
  calls : ∀ c, .effect (.call c) ∉ flow.acts
  failure : Blameless flow.failure

namespace Flow.Calm

variable {flow : Flow Effect α}

theorem one (a : α) : Calm (one a) := ⟨by simp [Flow.one], nofun⟩

theorem done : Calm (.done : Flow Effect α) := ⟨fun _ => List.not_mem_nil, nofun⟩

theorem fail {f : Failure} (h : ¬ f.BlamesRequest) : Calm (fail f : Flow Effect α) := by
  refine ⟨by simp [Flow.fail], ?_⟩
  rintro g ⟨⟩
  exact h

theorem perform {e : Effect} (h : ∀ c, e ≠ .call c) : Calm (perform e) := by
  refine ⟨fun c hc => ?_, nofun⟩
  simp only [Flow.perform, List.mem_cons, Act.effect.injEq, reduceCtorEq, List.not_mem_nil,
    or_self, or_false] at hc
  exact h c hc.symm

theorem after (h : flow.Calm) {acts : List (Act Effect α)} (hacts : ∀ c, .effect (.call c) ∉ acts) :
    (flow.after acts).Calm := by
  refine ⟨fun c hc => ?_, h.failure⟩
  rcases List.mem_append.mp hc with hc | hc
  · exact hacts c hc
  · exact h.calls c hc

theorem tail {failure : Option Failure} {act : Act Effect α} {acts : List (Act Effect α)}
    (h : Calm ⟨act :: acts, failure⟩) : Calm ⟨acts, failure⟩ :=
  ⟨fun c hc => h.calls c (List.mem_cons_of_mem act hc), h.failure⟩

theorem andThen {first second : Flow Effect α} (h : first.Calm) (hsecond : second.Calm) :
    (first.andThen second).Calm := by
  rw [Flow.andThen]
  split
  · exact h
  · exact hsecond.after h.calls

theorem bindFrom {failure : Option Failure} (hfailure : Blameless failure) {f : α → Flow Effect β} {acts : List (Act Effect α)} (hacts : ∀ c, .effect (.call c) ∉ acts)
    (hf : ∀ a, .yield a ∈ acts → (f a).Calm) : (Flow.bindFrom failure f acts).Calm := by
  induction acts with
  | nil => exact ⟨fun c => List.not_mem_nil, hfailure⟩
  | cons act acts ih =>
      have hrest := ih (fun c hc => hacts c (List.mem_cons_of_mem act hc))
        (fun a ha => hf a (List.mem_cons_of_mem act ha))
      cases act with
      | effect e =>
          refine hrest.after fun c hc => ?_
          cases List.mem_singleton.mp hc
          exact hacts c List.mem_cons_self
      | yield a => exact (hf a List.mem_cons_self).andThen hrest

theorem bind (h : flow.Calm) {f : α → Flow Effect β} (hf : ∀ a, .yield a ∈ flow.acts → (f a).Calm) :
    (flow >>= f).Calm := bindFrom h.failure h.calls hf

theorem map (h : flow.Calm) (f : α → β) : (f <$> flow).Calm := h.bind fun a _ => one (f a)

theorem mapItems (h : flow.Calm) (f : α → β) : (flow.mapItems f).Calm :=
  ⟨fun c hc => h.calls c (Act.effect_mem_map.mp hc), h.failure⟩

theorem rescue (h : flow.Calm) {other : Failure → Flow Effect α} (hother : ∀ f, (other f).Calm) :
    (flow.rescue other).Calm := by
  rw [Flow.rescue]
  split
  · exact h
  · exact (hother _).after h.calls

theorem gather (h : flow.Calm) : flow.gather.Calm := by
  have heffects {only : Act Effect α → Option (Act Effect (List α))}
      (heffect : ∀ e, only (.effect e) = some (.effect e)) (hyield : ∀ a, only (.yield a) = none)
      (c : Call) : .effect (.call c) ∉ flow.acts.filterMap only := by
    intro hc
    obtain ⟨act, hact, heq⟩ := List.mem_filterMap.mp hc
    cases act with
    | effect e =>
        rw [heffect] at heq
        cases heq
        exact h.calls c hact
    | yield a =>
        rw [hyield] at heq
        cases heq
  rw [Flow.gather]
  split
  · refine ⟨fun c hc => ?_, fun f hf => by cases hf⟩
    rcases List.mem_append.mp hc with hc | hc
    · exact heffects (fun _ => rfl) (fun _ => rfl) c hc
    · cases List.mem_singleton.mp hc
  · rename_i f hf
    refine ⟨heffects (fun _ => rfl) (fun _ => rfl), ?_⟩
    rintro g ⟨⟩
    exact h.failure f hf

end Flow.Calm

/-- A stage that does so as far as it depends on the stage. -/
structure Stage.Calm (stage : Stage Effect σ α β) : Prop where
  calls : ∀ s a c, .effect (.call c) ∉ (stage.react s a).acts
  failure : ∀ s a out f, stage.react s a = .stop out (some f) → ¬ f.BlamesRequest
  finish : ∀ s, (stage.finish s).Calm

/-- The stage over a source that is left early raises nothing but what it or the source raises. -/
theorem Flow.Calm.through {stage : Stage Effect σ α β} {flow : Flow Effect (Held α)} (h : flow.Calm)
    (hleft : flow.LeftBy Blameless) (hstage : stage.Calm) : (flow.through stage.held).Calm := by
  rw [Stage.through_eq_read]
  generalize stage.held.start = s
  obtain ⟨acts, failure⟩ := flow
  induction acts generalizing s with
  | nil =>
      cases failure with
      | none => exact ((hstage.finish s).mapItems _).after fun c => List.not_mem_nil
      | some f => exact ⟨fun c => List.not_mem_nil, h.failure⟩
  | cons act acts ih =>
      cases act with
      | effect e =>
          rw [Stage.read_effect]
          refine (ih s h.tail hleft.tail).after fun c hc => ?_
          cases List.mem_singleton.mp hc
          exact h.calls c List.mem_cons_self
      | yield a =>
          have hheld := Stage.react_held stage s a
          have hcalls := hstage.calls s a.item
          cases hreact : stage.react s a.item with
          | next s' out =>
              rw [hreact] at hheld hcalls
              rw [Stage.read_yield_next hheld]
              exact (ih s' h.tail hleft.tail).after fun c hc => hcalls c (Act.effect_mem_map.mp hc)
          | stop out f =>
              rw [hreact] at hheld hcalls
              rw [Stage.read_yield_stop hheld]
              refine ⟨fun c hc => hcalls c (Act.effect_mem_map.mp hc), fun g hg => ?_⟩
              cases f with
              | none => exact hleft a List.mem_cons_self g hg
              | some f' =>
                  cases hg
                  exact hstage.failure s a.item out g hreact

end

/-- What is awaited and then fails gives nothing. -/
theorem Flow.Once.yields_nothing {ε α β : Type} {flow : Flow ε α} (h : flow.Once) (g : α → Failure)
    (b : β) : .yield b ∉ (flow >>= fun a => (Flow.fail (g a) : Flow ε β)).acts := by
  have heffects (effects : List ε) : Act.yield b ∉ effects.map Act.effect := by
    simp
  cases h with
  | gives effects a =>
      rw [gives_bind]
      intro hb
      rcases List.mem_append.mp hb with hb | hb
      · exact heffects effects hb
      · cases hb
  | fails effects f =>
      rw [fails_bind]
      exact heffects effects

theorem Flow.perform_bind {ε β : Type} (e : ε) (f : Unit → Flow ε β) :
    perform e >>= f = (f ()).after [.effect e] := gives_bind [e] () f

/-! ## The stages of a stream -/

theorem Sse.calm_payloads : Sse.payloads.Calm where
  calls s a c hc := by
    obtain ⟨t, -, ht⟩ := List.mem_map.mp hc
    cases ht
  failure s a out f h := by cases h
  finish s := by
    refine ⟨fun c hc => ?_, nofun⟩
    obtain ⟨t, -, ht⟩ := List.mem_map.mp hc
    cases ht

theorem Sse.calm_untilDone : Sse.untilDone.Calm where
  calls s payload c := by
    rw [Sse.untilDone]
    dsimp only
    split <;> simp [Reaction.acts]
  failure s payload out f h := by
    rw [Sse.untilDone] at h
    dsimp only at h
    split at h <;> cases h
  finish s := .done

theorem calm_decodeEvents : decodeEvents.Calm where
  calls s payload c := by
    rw [decodeEvents]
    dsimp only
    split <;> simp [Reaction.acts, Act.logs]
  failure s payload out f h := by
    rw [decodeEvents] at h
    dsimp only at h
    split at h
    · cases h
      exact (Failure.OfStream.violation _).not_blames
    all_goals cases h
  finish s := .done

theorem calm_windows {σ α : Type} (splitter : Splitter σ α) : splitter.windows.Calm where
  calls s item c := by
    rw [Splitter.windows]
    dsimp only
    split <;> simp [Reaction.acts]
  failure s item out f h := by
    rw [Splitter.windows] at h
    dsimp only at h
    split at h <;> cases h
  finish s := .done

theorem Merged.absorb_error {tools : Option Aggregate} {e : Event} {f : Failure}
    (h : absorb tools e = .error f) : f.OfStream := by
  unfold absorb at h
  split at h
  · cases h
  · split at h
    · split at h
      · cases h
      · cases h
        exact .violation _
    · cases h
      exact .vendor _ _
    · cases h
      exact .violation _

theorem Merged.merge_error {previous : Merged} {e : Event} {f : Failure}
    (h : previous.merge e = .error f) : f.OfStream := by
  unfold merge at h
  split at h
  · split at h
    · cases h
    · cases h
      exact .violation _
  · split at h
    · cases h
    · cases h
      exact .violation _
  · exact absorb_error h

theorem Merged.mergeAll_error {previous : Merged} {window : List Event} {f : Failure}
    (h : (mergeAll previous window).2 = .error f) : f.OfStream := by
  induction window generalizing previous with
  | nil => cases h
  | cons e window ih =>
      rw [mergeAll] at h
      split at h
      · rename_i g hmerge
        cases h
        exact merge_error hmerge
      · exact ih h

namespace Draft

variable {d : Draft} {f : Failure}

theorem requireStarted_error {type : Text} (h : d.requireStarted type = .error f) :
    f.OfStream := by
  rw [requireStarted] at h
  split at h
  · cases h
  · cases h
    exact .violation _

theorem lift_error {α : Type} {x : Except Violation α} (h : lift x = .error f) : f.OfStream := by
  cases x with
  | ok a => cases h
  | error v =>
      cases h
      exact .violation v

theorem applyEvent_error {e : Event} (h : d.applyEvent e = .error f) : f.OfStream := by
  cases e with
  | messageStart | ping | unknown => cases h
  | error type message =>
      cases h
      exact .vendor type message
  | messageStop | messageDelta =>
      obtain hstarted | ⟨d', -, hrest⟩ := Except.bind_eq_error h
      · exact requireStarted_error hstarted
      · cases hrest
  | blockStart index block =>
      obtain hstarted | ⟨d', -, hrest⟩ := Except.bind_eq_error h
      · exact requireStarted_error hstarted
      cases block with
      | text t =>
          obtain hopen | ⟨d'', -, hrest⟩ := Except.bind_eq_error hrest
          · exact lift_error hopen
          · cases hrest
      | _ =>
          cases hrest
          exact .unsupported _
  | blockDelta index delta =>
      obtain hstarted | ⟨d', -, hrest⟩ := Except.bind_eq_error h
      · exact requireStarted_error hstarted
      cases delta with
      | text t =>
          obtain happend | ⟨d'', -, hrest⟩ := Except.bind_eq_error hrest
          · exact lift_error happend
          · cases hrest
      | _ =>
          cases hrest
          exact .unsupported _
  | blockStop index =>
      obtain hstarted | ⟨d', -, hrest⟩ := Except.bind_eq_error h
      · exact requireStarted_error hstarted
      · obtain hclose | ⟨d'', -, hrest⟩ := Except.bind_eq_error hrest
        · exact lift_error hclose
        · cases hrest

theorem apply_error {m : Merged} (h : d.apply m = .error f) : f.OfStream := by
  cases m with
  | event e => exact applyEvent_error h
  | tools a =>
      obtain hstarted | ⟨d', -, hrest⟩ := Except.bind_eq_error h
      · exact requireStarted_error hstarted
      · cases hrest

end Draft

theorem calm_respondToWindows : respondToWindows.Calm where
  calls draft window c := by
    rw [respondToWindows]
    dsimp only
    split
    · simp [Reaction.acts, Act.logs]
    · split
      · simp [Reaction.acts, Act.logs]
      · simp only [Reaction.acts, Act.logs]
        split <;> simp
  failure draft window out f h := by
    rw [respondToWindows] at h
    dsimp only at h
    split at h
    · rename_i g hmerged
      cases h
      exact (Merged.mergeAll_error hmerged).not_blames
    · split at h
      · rename_i g happly
        cases h
        exact (Draft.apply_error happly).not_blames
      · cases h
  finish s := .done

theorem Flow.Calm.reduceHeld {chunks : Flow Effect (Held Sse.Chunk)} (h : chunks.Calm)
    (hleft : chunks.LeftBy Blameless) : (reduceHeld chunks).Calm := by
  have hpayloads := hleft.through blameless_none Sse.payloads
  have hdone := hpayloads.through blameless_none Sse.untilDone
  have hevents := hdone.through blameless_none decodeEvents
  have hwindows := hevents.through blameless_none toolSplitter.windows
  exact ((((h.through hleft Sse.calm_payloads).through hpayloads Sse.calm_untilDone).through hdone
    calm_decodeEvents).through hevents (calm_windows _)).through hwindows calm_respondToWindows

/-! ## Calls -/

section

variable {α β : Type}

/-- What a flow asks the network for: nothing, or one call, which is logged before. What comes behind
the call is calm. -/
inductive Flow.Asks : Option Call → Flow Effect α → Prop
  | nothing {flow : Flow Effect α} : flow.Calm → Asks none flow
  | call (entry : Log.Entry) (c : Call) {rest : Flow Effect α} : rest.Calm →
      Asks (some c) (rest.after [.effect (.log entry), .effect (.call c)])

theorem Flow.Asks.bind {call : Option Call} {flow : Flow Effect α} (h : flow.Asks call)
    {f : α → Flow Effect β} (hf : ∀ a, .yield a ∈ flow.acts → (f a).Calm) :
    (flow >>= f).Asks call := by
  cases h with
  | nothing h => exact .nothing (h.bind hf)
  | call entry c h =>
      exact .call entry c (h.bind fun a ha => hf a (List.mem_append_right _ ha))

end

/-- An answer as it comes from the network: what has failed has failed outside of the relay, and a body
comes in chunks, at a pace of its source. -/
inductive Answer.Arrives : Answer → Prop
  | failed {f : Failure} : f.report? = none → Arrives (.failed f)
  | empty (status : Nat) : Arrives (.responded status none)
  | body (status : Nat) {b : Body (List UInt8)} (pace : Nat → Nat) :
      (∀ f, b.failure = some f → f.report? = none) → Arrives (.responded status (some (b.paced pace)))

namespace Body

variable {α : Type} {body : Body α}

theorem calm_paced (h : ∀ f, body.failure = some f → f.report? = none) (pace : Nat → Nat) :
    (body.paced pace).Calm := by
  have hfollows := body.follows_paced pace
  refine ⟨fun c hc => ?_, fun f hf => Failure.not_blames_outside (h f (hfollows.failure f hf))⟩
  cases hfollows.polls _ hc

theorem left_paced (h : ∀ f, body.failure = some f → f.report? = none) (pace : Nat → Nat) :
    (body.paced pace).LeftBy Blameless := fun chunk hchunk f hf =>
  Failure.not_blames_outside (h f ((body.follows_paced pace).left chunk hchunk f hf))

end Body

theorem Answer.Arrives.leftBy {answer : Answer} (h : answer.Arrives) : answer.LeftBy Blameless := by
  cases h with
  | failed hf => exact fun status body hanswer => by cases hanswer
  | empty status => exact fun status body hanswer => by cases hanswer
  | body status pace hb =>
      rintro status body ⟨⟩
      exact Body.left_paced hb pace

/-- The credentials of the machine fail outside of the relay. -/
def TokenSource.Outside (tokens : TokenSource) : Prop :=
  ∀ f, tokens = .credentials (.error f) → f.report? = none

theorem TokenSource.Outside.not_blames {tokens : TokenSource} (h : tokens.Outside) {f : Failure}
    (hf : tokens.token = .error f) : ¬ f.BlamesRequest := by
  unfold token at hf
  split at hf
  · cases hf
  · cases hf
    exact Failure.not_blames_outside (h f rfl)
  · split at hf
    · cases hf
    · cases hf
      exact Failure.not_blames_of_code "ACCESS_TOKEN_UNAVAILABLE" rfl (by decide)

namespace Endpoint

variable {e : Endpoint} {model : Text} {d : Delivery} {request : Json} {answer : Answer}

/-- The call of a request, if there is a token for it. -/
def call? (e : Endpoint) (model : Text) (d : Delivery) (request : Json) : Option Call :=
  e.tokens.token.toOption.map fun token => ⟨e.url model d, expectsStream request, token, request⟩

theorem call?_body {c : Call} (h : e.call? model d request = some c) : c.body = request := by
  obtain ⟨token, -, rfl⟩ := Option.map_eq_some_iff.mp h
  rfl

theorem isSome_call? {token : Text} (h : e.tokens.token = .ok token) :
    (e.call? model d request).isSome := by
  rw [call?, h]
  rfl

theorem calm_bodyText {body : Option ByteFlow} (h : (body.getD .done).Calm) : (bodyText body).Calm :=
  (h.mapItems Held.item).gather.map _

theorem calm_errorText {body : Option ByteFlow} (h : (body.getD .done).Calm) :
    (errorText body).Calm :=
  (calm_bodyText h).rescue fun f => (Flow.Calm.perform fun c h => by cases h).bind fun _ _ => .one []

/-- What becomes of an answer: a body if it is a success. -/
def received (url : Text) : Answer → Flow Effect (Option ByteFlow)
  | .failed f => .fail f
  | .responded status body =>
    if isSuccess status then .one body
    else errorText body >>= fun text => .fail (.status status text url)

theorem calm_received (url : Text) (hanswer : answer.Arrives) :
    (received url answer).Calm ∧
      ∀ body, .yield body ∈ (received url answer).acts → (body.getD .done).Calm := by
  have hresponded (status : Nat) {body : Option ByteFlow} (hbody : (body.getD .done).Calm) :
      (received url (.responded status body)).Calm ∧
        ∀ b, .yield b ∈ (received url (.responded status body)).acts → (b.getD .done).Calm := by
    rw [received]
    split
    · refine ⟨.one body, fun b hb => ?_⟩
      cases List.mem_singleton.mp hb
      exact hbody
    · refine ⟨(calm_errorText hbody).bind fun text _ => .fail ?_, fun b hb => ?_⟩
      · exact Failure.not_blames_of_code "VERTEX_API_ERROR" rfl (by decide)
      · exact absurd hb ((errorText_once body).yields_nothing _ b)
  cases hanswer with
  | failed hf => exact ⟨.fail (Failure.not_blames_outside hf), fun body hbody => by cases hbody⟩
  | empty status => exact hresponded status .done
  | body status pace hb => exact hresponded status (Body.calm_paced hb pace)

/-- With a token, and if it can be told in the log, a request is sent. -/
theorem post_eq {token : Text} {entry : Log.Entry} (htoken : e.tokens.token = .ok token)
    (hentry : requestEntry (e.url model d) request = .ok entry) :
    e.post model d request answer
      = (Flow.perform .poll >>= fun _ => received (e.url model d) answer).after
          [.effect (.log entry),
            .effect (.call ⟨e.url model d, expectsStream request, token, request⟩)] := by
  cases answer with
  | failed | responded =>
      rw [post, htoken, hentry, Flow.ofExcept_ok_bind, Flow.ofExcept_ok_bind]
      simp only [Flow.perform_bind, Flow.after_after]
      rfl

theorem asks_post (htokens : e.tokens.Outside)
    (htold : ∃ entry, requestEntry (e.url model d) request = .ok entry) (hanswer : answer.Arrives) :
    (e.post model d request answer).Asks (e.call? model d request) ∧
      ∀ body, .yield body ∈ (e.post model d request answer).acts → (body.getD .done).Calm := by
  rw [call?]
  cases htoken : e.tokens.token with
  | error f =>
      have hpost : e.post model d request answer = .fail f := by
        cases answer with
        | failed | responded =>
            rw [post, htoken]
            exact Flow.fails_bind [] f _
      rw [hpost]
      exact ⟨.nothing (.fail (htokens.not_blames htoken)), fun body hbody => by cases hbody⟩
  | ok token =>
      obtain ⟨entry, hentry⟩ := htold
      obtain ⟨hcalm, hbodies⟩ := calm_received (e.url model d) hanswer
      rw [post_eq htoken hentry]
      refine ⟨.call entry _ ((Flow.Calm.perform fun c h => by cases h).bind fun _ _ => hcalm), ?_⟩
      intro body hbody
      rw [Flow.perform_bind, Flow.after_after] at hbody
      rcases List.mem_append.mp hbody with hbody | hbody
      · simp at hbody
      · exact hbodies body hbody

theorem readAnswer_error {text : Text} {f : Failure} (h : readAnswer text = .error f) :
    ¬ f.BlamesRequest := by
  rw [readAnswer] at h
  split at h
  · cases h
    exact Failure.not_blames_outside rfl
  · split at h
    · cases h
    · cases h
      exact Failure.not_blames_of_code "INVALID_RESPONSE" rfl (by decide)

theorem asks_complete (htokens : e.tokens.Outside)
    (htold : ∃ entry, requestEntry (e.url model .whole) request = .ok entry)
    (hanswer : answer.Arrives) (hrequest : expectsStream request = false) :
    (e.complete model request answer).Asks (e.call? model .whole request) := by
  obtain ⟨hpost, hbodies⟩ := asks_post htokens htold hanswer
  rw [complete, if_neg (by simp [hrequest])]
  refine hpost.bind fun body hbody => (calm_bodyText (hbodies body hbody)).bind fun text _ => ?_
  cases hread : readAnswer text with
  | ok r => exact .one r
  | error f =>
      exact .fail (readAnswer_error hread)

theorem asks_stream (htokens : e.tokens.Outside)
    (htold : ∃ entry, requestEntry (e.url model .streamed) request = .ok entry)
    (hanswer : answer.Arrives) (hrequest : expectsStream request = true) :
    (e.stream model request answer).Asks (e.call? model .streamed request) := by
  obtain ⟨hpost, hbodies⟩ := asks_post htokens htold hanswer
  rw [stream, if_pos hrequest]
  refine hpost.bind fun body hbody => ?_
  cases body with
  | none => exact .fail (Failure.not_blames_of_code "EMPTY_STREAM" rfl (by decide))
  | some body =>
      obtain ⟨status, hbrought⟩ := mem_post hbody
      have hleft : body.LeftBy Blameless := hanswer.leftBy status body hbrought
      exact ((hbodies _ hbody).mapItems _).reduceHeld (hleft.mapItems Sse.Chunk.bytes)

end Endpoint

end ChatRelay
