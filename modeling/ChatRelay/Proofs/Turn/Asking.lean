import ChatRelay.Proofs.Endpoint.Calls
import ChatRelay.Proofs.Options
import ChatRelay.Proofs.Turn.Exchange

/-!
# What a turn asks of its endpoint

A request of a client that says something has a message of the user, and then its turn has a plan
(`plan_eq`): what the thread holds and that message. Nothing in the plan can be refused before the
call, so the turn makes the one call of its plan, whether it is streamed or not and whenever its
client wants it to stop, and it is never told that its request was invalid (`complete_asks`,
`run_asks`).
-/

namespace ChatRelay

/-! ## What is planned -/

theorem Request.get?_stream (r : Request) : r.toJson.get? "stream" = r.stream := by
  rw [toJson, Json.get?_object_skip (by decide), Json.get?_object_skip (by decide),
    Json.get?_object_skip (by decide)]
  refine Json.get?_object_here ?_ _
  simp only [List.forall_mem_cons]
  decide

theorem Request.get?_tools (r : Request) : r.toJson.get? "tools" = r.tools := by
  rw [toJson, Json.get?_object_skip (by decide), Json.get?_object_skip (by decide),
    Json.get?_object_skip (by decide), Json.get?_object_skip (by decide),
    Json.get?_object_skip (by decide), Json.get?_object_skip (by decide),
    Json.get?_object_skip (by decide), Json.get?_object_skip (by decide),
    Json.get?_object_skip (by decide)]
  exact Json.get?_object_here (fun field h => by cases h) _

theorem Tool.mem_distinct {ts : List Tool} {t : Tool} (h : t ∈ distinct ts) : t ∈ ts := by
  induction ts using List.reverseRecOn with
  | nil => exact h
  | append_singleton ts u ih =>
      rw [distinct_concat] at h
      rcases mem_put h with rfl | h
      · exact List.mem_append_right ts List.mem_cons_self
      · exact List.mem_append_left [u] (ih h)

/-- The tools that are configured are defined: none of them is `null`. -/
def Options.Defined (o : Options) : Prop := ∀ tools, o.tools = some tools → ⟨.null⟩ ∉ tools

namespace Turn

section

variable (defaults : Options) (threads : Threads) (threadId : Text) (input : ChatRequest)
  (stream : Bool) (message : Message)

/-- The plan of a turn with a message of the user. -/
def planned : Plan :=
  let messages := threads.messages threadId ++ [message]
  let options := (clientOptions input).above defaults
  ⟨threadId, messages, options.modelName,
    .build (some (Message.listToJson messages)) options (input.system.map .str)
      (some (.bool stream))⟩

theorem plan_eq (h : input.userMessage = .ok message) :
    plan defaults threads threadId input stream
      = .ok (planned defaults threads threadId input stream message) := by
  rw [plan, h]
  rfl

theorem expectsStream_planned :
    Endpoint.expectsStream (planned defaults threads threadId input stream message).request.toJson
      = stream := by
  rw [Endpoint.expectsStream, Request.get?_stream]
  cases stream <;> rfl

theorem messages_planned :
    (planned defaults threads threadId input stream message).request.toJson.get? "messages"
      = some (Message.listToJson (threads.messages threadId ++ [message])) :=
  Request.get?_messages _

theorem tools_planned (hdefaults : defaults.Defined) (tools : Json)
    (h : (planned defaults threads threadId input stream message).request.toJson.get? "tools"
      = some tools) : ∃ list, tools = .arr list ∧ .null ∉ list := by
  rw [Request.get?_tools] at h
  obtain ⟨united, hunited, htools⟩ := Option.bind_eq_some_iff.mp h
  cases united with
  | nil => cases htools
  | cons t ts =>
      cases htools
      refine ⟨_, rfl, fun hnull => ?_⟩
      obtain ⟨tool, hmem, hdefinition⟩ := List.mem_map.mp hnull
      obtain rfl : tool = ⟨.null⟩ := congrArg Tool.mk hdefinition
      have hgiven : (Tool.unite none defaults.tools).getD [] = t :: ts :=
        congrArg (·.getD []) hunited
      rw [Tool.getD_unite] at hgiven
      have hdistinct : ⟨.null⟩ ∈ Tool.distinct (defaults.tools.getD [] ++ []) := hgiven ▸ hmem
      have hmember := Tool.mem_distinct hdistinct
      rw [List.append_nil] at hmember
      cases hdefault : defaults.tools with
      | none => rw [hdefault] at hmember; cases hmember
      | some list =>
          rw [hdefault] at hmember
          exact hdefaults list hdefault hmember

end

end Turn

/-! ## Flows under a turn -/

namespace Flow

variable {α : Type}

theorem Calm.within {flow : Flow Effect α} (h : flow.Calm) (scope : Text) :
    (flow.mapEffects (Effect.within scope)).Calm := by
  refine ⟨fun c hc => ?_, h.failure⟩
  obtain ⟨act, hact, heq⟩ := List.mem_map.mp hc
  cases act with
  | yield a => cases heq
  | effect e =>
      cases e with
      | call c' =>
          cases heq
          exact h.calls c hact
      | log entry | poll => cases heq

theorem Asks.within {call : Option Call} {flow : Flow Effect α} (h : flow.Asks call) (scope : Text) :
    (flow.mapEffects (Effect.within scope)).Asks call := by
  cases h with
  | nothing h => exact .nothing (h.within scope)
  | call entry c h => exact .call (entry.within scope) c (h.within scope)

end Flow

namespace TurnEffect

theorem calls_append (first second : List TurnEffect) :
    calls (first ++ second) = calls first ++ calls second := List.filterMap_append

theorem calls_commit (p : Turn.Plan) (r : Response) : calls (p.commit r) = [] := by
  rw [Turn.Plan.commit]
  split <;> rfl

end TurnEffect

namespace Turn

open TurnEffect

section

variable {α : Type} {call : Option Call}

theorem attendFrom_calm (signal : Signal) {failure : Option Failure} {acts : List (Act Effect α)}
    (h : Flow.Calm ⟨acts, failure⟩) (m : Moment) :
    calls (attendFrom signal failure m acts).effects = [] ∧
      ∀ f, (attendFrom signal failure m acts).failure = some f → ¬ f.BlamesRequest := by
  induction acts generalizing m with
  | nil => exact ⟨rfl, h.failure⟩
  | cons act acts ih =>
      have hrest := h.tail
      cases act with
      | yield a => exact ih hrest m.step
      | effect e =>
          cases e with
          | log entry => exact ih hrest m.step
          | call c => exact absurd List.mem_cons_self (h.calls c)
          | poll =>
              rw [attendFrom]
              split
              · refine ⟨rfl, ?_⟩
                rintro f ⟨⟩
                exact Failure.not_blames_outside rfl
              · exact ih hrest m.step

/-- What is awaited makes the call of its source, whatever the signal does. -/
theorem attend_asks (signal : Signal) {source : Flow Effect α} (h : source.Asks call) :
    calls (attend signal source).effects = call.toList ∧
      ∀ f, (attend signal source).failure = some f → ¬ f.BlamesRequest := by
  cases h with
  | nothing h => exact attendFrom_calm signal h .start
  | call entry c h =>
      obtain ⟨hcalls, hfailure⟩ := attendFrom_calm signal h Moment.start.step.step
      exact ⟨congrArg (c :: ·) hcalls, hfailure⟩

/-- The course of responses makes the call of their source too. -/
theorem courseFrom_calm (view : View) {failure : Option Failure}
    {acts : List (Act Effect (Held Response))} (h : Flow.Calm ⟨acts, failure⟩) (m : Moment) :
    calls ((courseFrom view failure m acts).shown.filterMap Act.effect?) = [] ∧
      ∀ moment f, (courseFrom view failure m acts).ending = .failed moment f →
        ¬ f.BlamesRequest := by
  induction acts generalizing m with
  | nil =>
      refine ⟨rfl, fun moment f hf => ?_⟩
      cases failure with
      | none => cases hf
      | some g =>
          cases hf
          exact h.failure f rfl
  | cons act acts ih =>
      have hrest := h.tail
      cases act with
      | effect e =>
          cases e with
          | log entry => exact ih hrest m.step
          | call c => exact absurd List.mem_cons_self (h.calls c)
          | poll =>
              rw [courseFrom]
              split
              · refine ⟨rfl, ?_⟩
                rintro moment f ⟨⟩
                exact Failure.not_blames_outside rfl
              · exact ih hrest m.step
      | yield r =>
          rw [courseFrom]
          split
          · exact ⟨rfl, fun moment f hf => by cases hf⟩
          · split
            · exact ⟨rfl, fun moment f hf => by cases hf⟩
            · have hlater := ih hrest (m.step.receive (ChatEvent.ofIncrement view.debugging r.item).length)
              refine ⟨?_, hlater.2⟩
              have hnone (events : List ChatEvent) :
                  (events.map Act.yield).filterMap (Act.effect? (ε := TurnEffect)) = [] := by
                simp [Act.effect?]
              dsimp only [Course.after]
              rw [List.filterMap_append, hnone]
              exact hlater.1

theorem courseFrom_asks {view : View} {source : Flow Effect (Held Response)} (h : source.Asks call)
    (m : Moment) :
    calls ((courseFrom view source.failure m source.acts).shown.filterMap Act.effect?)
        = call.toList ∧
      ∀ moment f, (courseFrom view source.failure m source.acts).ending = .failed moment f →
        ¬ f.BlamesRequest := by
  cases h with
  | nothing h => exact courseFrom_calm view h m
  | call entry c h =>
      obtain ⟨hcalls, hfailure⟩ := courseFrom_calm view h m.step.step
      exact ⟨congrArg (c :: ·) hcalls, hfailure⟩

theorem Ending.calls_flow {view : View} {complete : Response → List TurnEffect}
    (hcomplete : ∀ r, calls (complete r) = []) (ending : Ending) :
    calls (ending.flow view complete (close view)).effects = [] := by
  cases ending with
  | finished r =>
      obtain ⟨entry, heffects⟩ := Ending.effects_finished view complete (close view) r
      rw [heffects, calls_append, hcomplete]
      rfl
  | stopped | unfinished => rfl
  | failed moment f =>
      obtain ⟨entry, heffects⟩ := close_effects view moment f
      exact congrArg calls heffects

/-- An error is told with the code of its failure. -/
theorem code_of_failureEvents {signal : Signal} {m : Moment} {f : Failure} {message : Text}
    {code : Option Text} (h : .error message code ∈ failureEvents signal m f) :
    code = some (f.code?.getD "CHAT_STREAM_FAILED") := by
  rw [failureEvents] at h
  split at h
  · cases List.mem_singleton.mp h
  · rcases List.mem_cons.mp h with h | h
    · cases h
      rfl
    · cases List.mem_singleton.mp h

/-- An ending tells an error only if the turn has failed. -/
theorem Ending.error_flow {view : View} {complete : Response → List TurnEffect} {ending : Ending}
    {message : Text} {code : Option Text}
    (h : .error message code ∈ (ending.flow view complete (close view)).items) :
    ∃ moment f, ending = .failed moment f ∧ code = some (f.code?.getD "CHAT_STREAM_FAILED") := by
  cases ending with
  | finished r =>
      rw [Ending.items_finished] at h
      simp at h
  | stopped => simp [Ending.flow, Flow.items, Act.item?] at h
  | unfinished => simp [Ending.flow, Turn.unfinished, Flow.items, Act.item?] at h
  | failed moment f =>
      rw [Ending.flow, close_items] at h
      exact ⟨moment, f, rfl, code_of_failureEvents h⟩

/-- The code of a failure that is told blames the request only if the failure does. -/
theorem invalidRequest_of_code {f : Failure}
    (h : some (Text.ofString "INVALID_REQUEST") = some (f.code?.getD "CHAT_STREAM_FAILED")) :
    f.BlamesRequest := by
  cases hown : f.code? with
  | none =>
      rw [hown] at h
      exact absurd (Option.some.inj h) (by decide)
  | some code =>
      rw [hown] at h
      exact hown.trans h.symm

end

/-! ## Turns -/

section

variable {relay : Relay} {transport : Transport} {threads : Threads} {threadId : Text}
  {input : ChatRequest} (signal : Signal) {message : Message} {call : Option Call}

theorem complete_asks (hmessage : input.userMessage = .ok message)
    (h : (transport.complete
        (planned relay.defaults threads threadId input false message).model
        (planned relay.defaults threads threadId input false message).request.toJson).Asks call) :
    calls (complete relay transport threads threadId input signal).effects = call.toList ∧
      ∀ f, (complete relay transport threads threadId input signal).failure = some f →
        ¬ f.BlamesRequest := by
  obtain ⟨hcalls, hfailure⟩ := attend_asks signal h
  rw [complete, plan_eq _ _ _ _ _ _ hmessage, Flow.ofExcept_ok_bind]
  generalize planned relay.defaults threads threadId input false message = p at *
  have hawaited := attend_awaited signal (transport.complete_once p.model p.request.toJson)
  generalize attend signal (transport.complete p.model p.request.toJson) = source at *
  cases hawaited with
  | gives effects r quiet =>
      have hend : calls (⟨(p.commit r).map .effect ++ [.yield r], none⟩
          : Flow TurnEffect Response).effects = [] :=
        (congrArg calls (Flow.effects_gives _ r)).trans (calls_commit p r)
      rw [Flow.effects_gives] at hcalls
      rw [Flow.gives_bind, Flow.effects_after, calls_append, Act.effects_effects, hend,
        List.append_nil]
      exact ⟨hcalls, fun f hf => by cases hf⟩
  | fails effects f quiet =>
      rw [Flow.fails_bind]
      exact ⟨hcalls, hfailure⟩

theorem course_asks (hmessage : input.userMessage = .ok message)
    (h : (transport.responses
        (planned relay.defaults threads threadId input true message).model
        (planned relay.defaults threads threadId input true message).request.toJson).Asks call) :
    calls ((course relay transport threads threadId input signal).shown.filterMap Act.effect?)
        = call.toList ∧
      ∀ moment f, (course relay transport threads threadId input signal).ending = .failed moment f →
        ¬ f.BlamesRequest := by
  unfold course
  rw [plan_eq _ _ _ _ _ _ hmessage]
  exact courseFrom_asks h _

theorem run_asks (hmessage : input.userMessage = .ok message)
    (h : (transport.responses
        (planned relay.defaults threads threadId input true message).model
        (planned relay.defaults threads threadId input true message).request.toJson).Asks call)
    (hleft : ∀ model request, (transport.responses model request).LeftBy Blameless) :
    calls (run relay transport threads threadId input signal).effects = call.toList ∧
      ∀ text, .error text (some (Text.ofString "INVALID_REQUEST"))
        ∉ (run relay transport threads threadId input signal).items := by
  obtain ⟨hcalls, hfailure⟩ := course_asks signal hmessage h
  have hcompletion (r : Response) : calls (completion relay threads threadId input r) = [] := by
    unfold completion
    rw [plan_eq _ _ _ _ _ _ hmessage]
    exact calls_commit _ r
  constructor
  · have hparting : calls ((course relay transport threads threadId input signal).parting.flow
        (close ⟨relay.debugging, threadId, signal⟩)).effects = [] :=
      Parting.filterMap_effects _ (fun _ => rfl) _
    rw [run, respond_eq_course, Flow.effects_after, Course.effects_told, calls_append, calls_append,
      calls_append, hcalls, Ending.calls_flow hcompletion, hparting]
    exact List.append_nil _
  · intro text herror
    rw [items_run] at herror
    rcases List.mem_append.mp herror with hseen | hparting
    · rcases List.mem_cons.mp hseen with hsession | hseen
      · cases hsession
      rcases List.mem_append.mp hseen with hshown | hending
      · obtain ⟨act, hact, hitem⟩ := List.mem_filterMap.mp hshown
        have hincrement := course_shown relay transport threads threadId input signal act hact
        cases hincrement <;> cases hitem
      · obtain ⟨moment, f, hfailed, hcode⟩ := Ending.error_flow hending
        exact hfailure moment f hfailed (invalidRequest_of_code hcode)
    · cases hleaving : (course relay transport threads threadId input signal).parting with
      | none =>
          rw [hleaving] at hparting
          cases hparting
      | some p =>
          rw [hleaving] at hparting
          obtain ⟨⟨model, request, r, hr, hraised⟩, -⟩ := course_parting _ _ _ _ _ _ hleaving
          exact hleft model request r hr p.2 hraised
            (invalidRequest_of_code (code_of_failureEvents hparting))

end

end Turn

namespace Endpoint

variable {e : Endpoint} {answer : Answer} {defaults : Options}

theorem asks_planned_whole (htokens : e.tokens.Outside) (hanswer : answer.Arrives)
    (hdefaults : defaults.Defined) (threads : Threads) (threadId : Text) (input : ChatRequest)
    (message : Message) :
    let p := Turn.planned defaults threads threadId input false message
    ((e.transport answer).complete p.model p.request.toJson).Asks
      (e.call? p.model .whole p.request.toJson) := by
  have htold := exists_requestEntry (Turn.messages_planned defaults threads threadId input false message)
    (Turn.tools_planned defaults threads threadId input false message hdefaults)
  exact (asks_complete htokens (htold _) hanswer (Turn.expectsStream_planned ..)).within scope

theorem asks_planned_streamed (htokens : e.tokens.Outside) (hanswer : answer.Arrives)
    (hdefaults : defaults.Defined) (threads : Threads) (threadId : Text) (input : ChatRequest)
    (message : Message) :
    let p := Turn.planned defaults threads threadId input true message
    ((e.transport answer).responses p.model p.request.toJson).Asks
      (e.call? p.model .streamed p.request.toJson) := by
  have htold := exists_requestEntry (Turn.messages_planned defaults threads threadId input true message)
    (Turn.tools_planned defaults threads threadId input true message hdefaults)
  exact (asks_stream htokens (htold _) hanswer (Turn.expectsStream_planned ..)).within scope

end Endpoint

end ChatRelay
