import ChatRelay.Proofs.Turn.Asking

/-!
# What has come of a turn

Most effects of a turn pass and leave nothing behind, they log or they call. Besides them there is at
most one commit, and it is the one of the plan. So the effects alone tell what has come of a turn
(`Outcome`): which response was handed over, and that nothing was stored but the exchange, under the
thread of the turn.
-/

namespace ChatRelay

theorem TurnEffect.handedOver_append (first second : List TurnEffect) :
    handedOver (first ++ second) = handedOver first ++ handedOver second := List.filterMap_append

namespace Turn

open TurnEffect

/-- An effect that hands nothing over and stores nothing. -/
inductive Passing : TurnEffect → Prop
  | log (entry : Log.Entry) : Passing (.log entry)
  | call (c : Call) : Passing (.call c)

/-- What the effects of a turn with a message tell: the response that was handed over, if one was, and
that the threads are those before with the exchange recorded. -/
structure Outcome (threads : Threads) (threadId : Text) (message : Message)
    (effects : List TurnEffect) (reply : Option Response) : Prop where
  handedOver : handedOver effects = reply.toList
  keys : ∀ key history, .store key history ∈ effects → key = threadId
  stored : stored effects threads = recorded threads threadId message reply

namespace Outcome

variable {threads : Threads} {threadId : Text} {message : Message} {effects : List TurnEffect}
  {reply : Option Response}

theorem of_passing (h : ∀ e ∈ effects, Passing e) : Outcome threads threadId message effects none := by
  refine ⟨List.filterMap_eq_nil_iff.mpr fun e he => ?_, fun key history hstore => ?_, ?_⟩
  · cases h e he <;> rfl
  · cases h _ hstore
  · induction effects with
    | nil => rfl
    | cons e effects ih =>
        obtain ⟨he, heffects⟩ := List.forall_mem_cons.mp h
        cases he <;> exact ih heffects

theorem after_passing (h : Outcome threads threadId message effects reply)
    {before : List TurnEffect} (hbefore : ∀ e ∈ before, Passing e) :
    Outcome threads threadId message (before ++ effects) reply := by
  have hpassed : Outcome threads threadId message before none := of_passing hbefore
  refine ⟨?_, fun key history hstore => ?_, ?_⟩
  · rw [handedOver_append, hpassed.handedOver]
    exact h.handedOver
  · rcases List.mem_append.mp hstore with hstore | hstore
    · cases hbefore _ hstore
    · exact h.keys key history hstore
  · have hsame : TurnEffect.stored before threads = threads := hpassed.stored
    rw [TurnEffect.stored, List.foldl_append]
    show TurnEffect.stored effects (TurnEffect.stored before threads) = _
    rw [hsame]
    exact h.stored

theorem before_passing (h : Outcome threads threadId message effects reply)
    {after : List TurnEffect} (hafter : ∀ e ∈ after, Passing e) :
    Outcome threads threadId message (effects ++ after) reply := by
  have hpassed (ts : Threads) : Outcome ts threadId message after none := of_passing hafter
  refine ⟨?_, fun key history hstore => ?_, ?_⟩
  · rw [handedOver_append, h.handedOver, (hpassed threads).handedOver]
    exact List.append_nil _
  · rcases List.mem_append.mp hstore with hstore | hstore
    · exact h.keys key history hstore
    · cases hafter _ hstore
  · rw [TurnEffect.stored, List.foldl_append]
    show TurnEffect.stored after (TurnEffect.stored effects threads) = _
    rw [h.stored]
    exact (hpassed _).stored

theorem commit (defaults : Options) (input : ChatRequest) (stream : Bool) (r : Response) :
    Outcome threads threadId message
      ((planned defaults threads threadId input stream message).commit r) (some r) := by
  rw [Plan.commit, planned]
  dsimp only
  cases hcontent : r.content.isEmpty with
  | true =>
      refine ⟨rfl, fun key history hstore => ?_, ?_⟩
      · simp at hstore
      · simp [TurnEffect.stored, recorded, hcontent]
  | false =>
      refine ⟨rfl, fun key history hstore => ?_, ?_⟩
      · simp at hstore
        exact hstore.1
      · simp [TurnEffect.stored, recorded, hcontent]

end Outcome

/-! ## Turns -/

theorem attendFrom_passing {α : Type} {signal : Signal} {failure : Option Failure}
    {acts : List (Act Effect α)} (m : Moment) :
    ∀ e ∈ (attendFrom signal failure m acts).effects, Passing e := by
  induction acts generalizing m with
  | nil => exact fun e he => by cases he
  | cons act acts ih =>
      cases act with
      | yield a => exact ih m.step
      | effect e =>
          cases e with
          | log entry => exact List.forall_mem_cons.mpr ⟨.log entry, ih m.step⟩
          | call c => exact List.forall_mem_cons.mpr ⟨.call c, ih m.step⟩
          | poll =>
              rw [attendFrom]
              split
              · exact fun e he => by cases he
              · exact ih m.step

theorem passing_of_increments {shown : List (Act TurnEffect ChatEvent)}
    (h : ∀ act ∈ shown, Increment act) : ∀ e ∈ shown.filterMap Act.effect?, Passing e := by
  intro e he
  obtain ⟨act, hact, heffect⟩ := List.mem_filterMap.mp he
  cases h act hact with
  | log entry => cases heffect; exact .log entry
  | call c => cases heffect; exact .call c
  | token | toolUse | debug => cases heffect

section

variable (relay : Relay) (transport : Transport) (threads : Threads) (threadId : Text)
  (input : ChatRequest) (signal : Signal) {message : Message}

/-- A turn that is answered as a whole returns the response that it has handed over, or it fails and
has handed over none. -/
theorem complete_outcome (hmessage : input.userMessage = .ok message) :
    (∃ r, (complete relay transport threads threadId input signal).outcome = ([r], none) ∧
      Outcome threads threadId message
        (complete relay transport threads threadId input signal).effects (some r)) ∨
    ∃ f, (complete relay transport threads threadId input signal).outcome = ([], some f) ∧
      Outcome threads threadId message
        (complete relay transport threads threadId input signal).effects none := by
  rw [complete, plan_eq _ _ _ _ _ _ hmessage, Flow.ofExcept_ok_bind]
  have hcommit (r : Response) :
      Outcome threads threadId message
        ((planned relay.defaults threads threadId input false message).commit r) (some r) :=
    .commit relay.defaults input false r
  generalize planned relay.defaults threads threadId input false message = p at *
  have hpassing : ∀ e ∈ (attend signal (transport.complete p.model p.request.toJson)).effects,
      Passing e := attendFrom_passing .start
  have hawaited := attend_awaited signal (transport.complete_once p.model p.request.toJson)
  generalize attend signal (transport.complete p.model p.request.toJson) = source at *
  cases hawaited with
  | gives effects r quiet =>
      rw [Flow.effects_gives] at hpassing
      rw [Flow.gives_bind]
      refine .inl ⟨r, ?_, ?_⟩
      · rw [Flow.outcome_after]
        exact Flow.outcome_after (p.commit r) (.one r)
      · have hend : (⟨(p.commit r).map .effect ++ [.yield r], none⟩
            : Flow TurnEffect Response).effects = p.commit r := Flow.effects_gives _ r
        rw [Flow.effects_after, Act.effects_effects, hend]
        exact (hcommit r).after_passing hpassing
  | fails effects f quiet =>
      rw [Flow.fails_bind]
      refine .inr ⟨f, ?_, .of_passing ?_⟩
      · have hfail : (⟨effects.map .effect, some f⟩ : Flow TurnEffect Response)
            = (Flow.fail f).after (effects.map .effect) := by
          rw [Flow.after, Flow.fail, List.append_nil]
        rw [hfail]
        exact Flow.outcome_after effects (.fail f)
      · exact hpassing

theorem Ending.outcome (view : View) (hmessage : input.userMessage = .ok message)
    (ending : Ending) :
    Outcome threads threadId message
      (ending.flow view (completion relay threads threadId input) (close view)).effects
      ending.reply? := by
  cases ending with
  | finished r =>
      have hcompletion : completion relay threads threadId input r
          = (planned relay.defaults threads threadId input true message).commit r := by
        unfold completion
        rw [plan_eq _ _ _ _ _ _ hmessage]
      obtain ⟨entry, heffects⟩ := Ending.effects_finished view
        (completion relay threads threadId input) (close view) r
      rw [heffects, hcompletion]
      exact (Outcome.commit relay.defaults input true r).before_passing
        (List.forall_mem_singleton.mpr (.log _))
  | stopped => exact .of_passing fun e he => by cases he
  | unfinished => exact .of_passing (List.forall_mem_singleton.mpr (.log _))
  | failed moment f =>
      obtain ⟨entry, heffects⟩ := close_effects view moment f
      rw [Ending.flow, heffects]
      exact .of_passing (List.forall_mem_singleton.mpr (.log entry))

/-- A streamed turn whose client is told that the model has finished has handed over a response, and any
other one none. -/
theorem run_outcome (hmessage : input.userMessage = .ok message) :
    ∃ reply : Option Response,
      ((∃ stopReason,
          .done .stop stopReason ∈ (run relay transport threads threadId input signal).items)
        ↔ reply.isSome) ∧
      Outcome threads threadId message (run relay transport threads threadId input signal).effects
        reply := by
  have hshown := passing_of_increments (course_shown relay transport threads threadId input signal)
  have hending := Ending.outcome relay threads threadId input ⟨relay.debugging, threadId, signal⟩
    hmessage (course relay transport threads threadId input signal).ending
  have hparting : ∀ e ∈ ((course relay transport threads threadId input signal).parting.flow
      (close ⟨relay.debugging, threadId, signal⟩)).effects, Passing e := by
    intro e he
    obtain ⟨entry, rfl⟩ := Parting.effects_log _ _ e he
    exact .log entry
  refine ⟨_, told_stop_iff, ?_⟩
  rw [run, respond_eq_course, Flow.effects_after, Course.effects_told]
  exact (hending.before_passing hparting).after_passing hshown

end

end Turn

end ChatRelay
