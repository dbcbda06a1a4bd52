import ChatRelay.Proofs.Reply.Answer
import ChatRelay.Proofs.Stream.Stage
import ChatRelay.Proofs.Text.Encoding
import ChatRelay.Proofs.Text.Utf8
import ChatRelay.Transport

/-!
# Calls that are answered as a whole

A call that does not stream comes to what the text of its answer says, once there is a token, the
request can be told in the log, and a successful answer has arrived to its end
(`Endpoint.outcome_complete`). So its outcome depends on the bytes of the answer only, and not on the
chunks in which they come, the status, or the request.

The text decides between three outcomes (`Endpoint.complete_answer`): an answer gives its response,
other JSON fails as a response of the wrong shape, and what is no JSON fails with the error of the
reader, which has no code. A response that came back, written as JSON and brought by another call,
comes back again.
-/

namespace ChatRelay

/-! ## What is awaited -/

namespace Flow

variable {ε α β : Type}

/-- What comes of a flow, apart from its effects. -/
def outcome (flow : Flow ε α) : List α × Option Failure := (flow.items, flow.failure)

theorem outcome_after (effects : List ε) (flow : Flow ε α) :
    (flow.after (effects.map .effect)).outcome = flow.outcome := by
  refine Prod.ext ?_ rfl
  show (flow.after (effects.map .effect)).items = flow.items
  rw [items_after, Act.items_effects, List.nil_append]

theorem Once.outcome_bind {flow : Flow ε α} (h : flow.Once) {a : α}
    (ha : flow.outcome = ([a], none)) (f : α → Flow ε β) :
    (flow >>= f).outcome = (f a).outcome := by
  cases h with
  | gives effects b =>
      obtain ⟨hb, -⟩ := Prod.mk.inj ((outcome_after effects (Flow.one b)).symm.trans ha)
      cases hb
      rw [gives_bind, outcome_after]
  | fails effects g => cases (Prod.mk.inj ha).2

theorem outcome_gather {flow : Flow ε α} (h : flow.failure = none) :
    flow.gather.outcome = ([flow.items], none) := by
  rw [gather, h]
  refine Prod.ext ?_ rfl
  show List.filterMap Act.item? (_ ++ [_]) = [flow.items]
  rw [List.filterMap_append, List.filterMap_filterMap, List.filterMap_eq_nil_iff.mpr]
  · rfl
  · intro act _
    cases act <;> rfl

end Flow

/-! ## What a call needs -/

/-- The network answers with a success, and the body arrives to its end as these bytes. A missing
body has none. -/
inductive Answer.Brings : Answer → List UInt8 → Prop
  | mk {status : Nat} {body : Option ByteFlow} {bytes : List UInt8} :
      Endpoint.isSuccess status = true → (body.getD .done).failure = none →
      (body.getD .done).bare.items.flatten = bytes → Brings (.responded status body) bytes

namespace Endpoint

variable {e : Endpoint} {model : Text} {request : Json} {answer : Answer} {bytes : List UInt8}

/-- The text that the bytes of a body are read as. -/
def textOf (bytes : List UInt8) : Text := Utf8.decode (withoutMark bytes)

/-- An endpoint can send a request for a whole answer: there is a token, and the request does not
ask for a stream, has a list of messages, and if it has tools, a list of them without `null`. -/
structure Sends (e : Endpoint) (request : Json) : Prop where
  token : ∃ token, e.tokens.token = .ok token
  whole : expectsStream request = false
  messages : ∃ messages, request.get? "messages" = some (.arr messages)
  tools : ∀ tools, request.get? "tools" = some tools → ∃ list, tools = .arr list ∧ .null ∉ list

theorem toolNames_ok {tools : List Json} (h : .null ∉ tools) :
    ∃ names, toolNames tools = .ok names := by
  induction tools with
  | nil => exact ⟨[], rfl⟩
  | cons tool tools ih =>
      obtain ⟨hne, htools⟩ := not_or.mp (mt List.mem_cons.mpr h)
      obtain ⟨names, hnames⟩ := ih htools
      refine ⟨(tool.get? "name").getD .null :: names, ?_⟩
      rw [toolNames, hnames]
      · rfl
      · exact fun hnull => hne hnull.symm

/-- What is logged about a request that has a list of messages, and tools without `null` if it has any. -/
theorem exists_requestEntry {messages : List Json}
    (hmessages : request.get? "messages" = some (.arr messages))
    (htools : ∀ tools, request.get? "tools" = some tools → ∃ list, tools = .arr list ∧ .null ∉ list)
    (url : Text) : ∃ entry, requestEntry url request = .ok entry := by
  have hcount : messageCount request = .ok (Json.arr messages).length? := by
    rw [messageCount, hmessages]
  have hnames : ∃ names, requestTools request = .ok names := by
    rw [requestTools]
    cases hgiven : request.get? "tools" with
    | none => exact ⟨[], rfl⟩
    | some tools =>
        obtain ⟨list, rfl, hlist⟩ := htools tools hgiven
        exact toolNames_ok hlist
  obtain ⟨names, hnames⟩ := hnames
  exact ⟨_, by rw [requestEntry, hcount, hnames]; rfl⟩

theorem Sends.told (h : e.Sends request) (url : Text) :
    ∃ entry, requestEntry url request = .ok entry := by
  obtain ⟨messages, hmessages⟩ := h.messages
  exact exists_requestEntry hmessages h.tools url

/-! ## The outcome of a call -/

theorem outcome_post (h : e.Sends request) {status : Nat} {body : Option ByteFlow}
    (hstatus : isSuccess status = true) :
    (e.post model .whole request (.responded status body)).outcome = ([body], none) := by
  obtain ⟨token, htoken⟩ := h.token
  obtain ⟨entry, hentry⟩ := h.told (e.url model .whole)
  rw [post, htoken, hentry]
  refine ((Flow.Once.one token).outcome_bind rfl _).trans ?_
  refine ((Flow.Once.one entry).outcome_bind rfl _).trans ?_
  refine ((Flow.Once.perform _).outcome_bind rfl _).trans ?_
  refine ((Flow.Once.perform _).outcome_bind rfl _).trans ?_
  refine ((Flow.Once.perform _).outcome_bind rfl _).trans ?_
  rw [if_pos hstatus]
  rfl

theorem outcome_bodyText {body : Option ByteFlow} (h : (body.getD .done).failure = none) :
    (bodyText body).outcome = ([textOf (body.getD .done).bare.items.flatten], none) := by
  have hgather : (body.getD .done).bare.gather.outcome = ([(body.getD .done).bare.items], none) :=
    Flow.outcome_gather h
  exact (Flow.Once.gather _).outcome_bind hgather _

/-- A call comes to what the text of its answer says. -/
theorem outcome_complete (h : e.Sends request) (hanswer : answer.Brings bytes) :
    (e.complete model request answer).outcome
      = (Flow.ofExcept (readAnswer (textOf bytes)) : Flow Effect Response).outcome := by
  obtain ⟨hstatus, hbody, rfl⟩ := hanswer
  rw [complete, if_neg (by simp [h.whole]), (post_once ..).outcome_bind (outcome_post h hstatus),
    (bodyText_once _).outcome_bind (outcome_bodyText hbody)]

/-! ## Answers -/

/-- A text is JSON that stands for a response. -/
def Answered (t : Text) (r : Response) : Prop :=
  ∃ ms, Json.parse? t = some (.obj ms) ∧ Response.Answers ms r

theorem readAnswer_eq_ok {t : Text} {r : Response} : readAnswer t = .ok r ↔ Answered t r := by
  rw [readAnswer, Answered]
  cases Json.parse? t with
  | none => simp
  | some v =>
      simp only [Option.some.injEq]
      rw [← Response.check_eq_accept_iff, ← Checked.toExcept_eq_ok_iff]
      cases (Response.check [] (some v)).toExcept <;> simp

theorem readAnswer_shape {t : Text} {v : Json} (ht : Json.parse? t = some v)
    (h : ∀ r, ¬ Answered t r) : ∃ issues, readAnswer t = .error (.responseShape issues) := by
  cases hread : readAnswer t with
  | ok r => exact absurd (readAnswer_eq_ok.mp hread) (h r)
  | error f =>
      simp only [readAnswer, ht] at hread
      split at hread
      · cases hread
      · cases hread
        exact ⟨_, rfl⟩

theorem readAnswer_notJson {t : Text} (h : Json.parse? t = none) :
    readAnswer t = .error .bodyNotJson := by
  rw [readAnswer, h]

/-- The bytes of a written object begin with a brace, so they are read as its text. -/
theorem textOf_render (ms : Json.Members) :
    textOf (Utf8.encode (Json.obj ms).render) = (Json.obj ms).render := by
  have hmark : withoutMark (Utf8.encode (Json.obj ms).render) = Utf8.encode (Json.obj ms).render := by
    obtain ⟨rest, hrest⟩ : ∃ rest : Text, (Json.obj ms).render = 0x7B :: rest := ⟨_, rfl⟩
    rw [hrest, Utf8.encode, Text.points_unit rfl, List.flatMap_cons]
    refine if_neg fun hmark => ?_
    cases (List.cons.inj hmark).1
  rw [textOf, hmark, Utf8.decode_eq_text, Utf8.text_encode (Json.printed_render _).paired]
  intro hhead
  cases hhead

/-- A response that was read is read off its written form. -/
theorem Answered.written {t : Text} {r : Response} (h : Answered t r)
    (hnumbers : Json.AllNumbers Json.ReadsBack r.toJson) :
    Answered (textOf (Utf8.encode r.toJson.render)) r := by
  obtain ⟨ms, ht, hanswers⟩ := h
  obtain ⟨ms', hms', hagain⟩ := hanswers.again
  have hsettled := hanswers.settled (Json.settled_of_parse? ht)
  have hparse := Json.parse?_render hsettled hnumbers
  rw [hms'] at hparse ⊢
  rw [textOf_render]
  exact ⟨ms', hparse, hagain⟩

/-! ## The three outcomes -/

theorem complete_returned_iff (h : e.Sends request) (hanswer : answer.Brings bytes) {r : Response} :
    (e.complete model request answer).outcome = ([r], none) ↔ Answered (textOf bytes) r := by
  rw [outcome_complete h hanswer, ← readAnswer_eq_ok]
  cases readAnswer (textOf bytes) with
  | ok r' => simp [Flow.ofExcept, Flow.outcome, Flow.items, Flow.one, Act.item?]
  | error f => simp [Flow.ofExcept, Flow.outcome, Flow.items, Flow.fail]

theorem complete_failed (h : e.Sends request) (hanswer : answer.Brings bytes) {f : Failure}
    (hread : readAnswer (textOf bytes) = .error f) :
    (e.complete model request answer).outcome = ([], some f) := by
  rw [outcome_complete h hanswer, hread]
  rfl

/-- A call gives the response that its answer stands for, and only that, and another call that is
brought the response as JSON gives it again. An answer that stands for none is reported as a response
of the wrong shape exactly if it is JSON; what is no JSON fails with an error that has no code. -/
theorem complete_answer (h : e.Sends request) (hanswer : answer.Brings bytes) :
    (∀ r, (e.complete model request answer).outcome = ([r], none) ↔ Answered (textOf bytes) r) ∧
    (∀ r, (e.complete model request answer).outcome = ([r], none) →
      Json.AllNumbers Json.ReadsBack r.toJson →
      ∀ (e' : Endpoint) model' request' answer', e'.Sends request' →
        answer'.Brings (Utf8.encode r.toJson.render) →
        (e'.complete model' request' answer').outcome = ([r], none)) ∧
    ((∀ r, ¬ Answered (textOf bytes) r) →
      ∃ f : Failure, (e.complete model request answer).outcome = ([], some f) ∧
        (f.name = "AdapterError" ∧ f.code? = some "INVALID_RESPONSE" ↔
          Json.parse? (textOf bytes) ≠ none) ∧
        (Json.parse? (textOf bytes) = none → f.name = "SyntaxError" ∧ f.code? = none)) := by
  refine ⟨fun r => complete_returned_iff h hanswer, ?_, fun hnone => ?_⟩
  · intro r hfirst hnumbers e' model' request' answer' h' hanswer'
    have hread : Answered (textOf bytes) r := (complete_returned_iff h hanswer).mp hfirst
    exact (complete_returned_iff h' hanswer').mpr (hread.written hnumbers)
  · cases hjson : Json.parse? (textOf bytes) with
    | none =>
        refine ⟨.bodyNotJson, complete_failed h hanswer (readAnswer_notJson hjson), ?_, ?_⟩
        · refine ⟨fun hcode => ?_, fun hne => absurd rfl hne⟩
          cases hcode.2
        · exact fun _ => ⟨rfl, rfl⟩
    | some v =>
        obtain ⟨issues, hread⟩ := readAnswer_shape hjson hnone
        refine ⟨.responseShape issues, complete_failed h hanswer hread, ?_, nofun⟩
        exact ⟨fun _ => nofun, fun _ => ⟨rfl, rfl⟩⟩

/-- An endpoint with a token. -/
def usEast : Endpoint := ⟨"test-project", "us-east5", none, .fixed "test-token"⟩

/-- A request for a whole answer. -/
def hiRequest : Json :=
  .obj [("anthropic_version", .str "v"), ("max_tokens", Json.ofNat 100),
    ("messages", .arr [.obj [("content", .str "Hi"), ("role", .str "user")]]),
    ("stream", .bool false)]

theorem usEast_sends : usEast.Sends hiRequest where
  token := ⟨_, rfl⟩
  whole := rfl
  messages := ⟨_, rfl⟩
  tools := nofun

/-- An answer whose body is a text. -/
def bodyOf (t : Text) : Answer := .responded 200 (some ((Flow.one (Utf8.encode t)).hold none))

theorem bodyOf_brings (t : Text) : (bodyOf t).Brings (Utf8.encode t) :=
  .mk rfl rfl (List.append_nil _)

/-- An answer with members that are not read, without a stop sequence, and with the reserved key in
the input of a tool call. -/
def cityAnswer : Json.Members :=
  [("id", .str "m1"), ("type", .str "message"), ("role", .str "assistant"), ("model", .str "m"),
    ("content", .arr [.obj [("type", .str "text"), ("text", .str "Hello"), ("extra", .null)],
      .obj [("type", .str "tool_use"), ("id", .str "t1"), ("name", .str "Weather"),
        ("input", .obj [("__proto__", .null), ("city", .str "Paris")])]]),
    ("stop_reason", .str "tool_use"), ("more", .arr []),
    ("usage", .obj [("input_tokens", Json.ofNat 3), ("output_tokens", Json.ofNat 1)])]

/-- The response that it stands for. -/
def cityResponse : Response where
  id := "m1"
  type := .value "message"
  role := "assistant"
  model := "m"
  content := [.text "Hello", .toolUse ⟨"t1", "Weather", [("city", .str "Paris")]⟩]
  stopReason := .value "tool_use"
  stopSequence := .null
  usage := ⟨.value (Number.ofNat 3), .value (Number.ofNat 1)⟩

theorem answered_cityAnswer :
    Answered (textOf (Utf8.encode (Json.obj cityAnswer).render)) cityResponse := by
  have hparse : Json.parse? (Json.obj cityAnswer).render = some (.obj cityAnswer) := by
    decide +kernel
  rw [textOf_render, ← readAnswer_eq_ok, readAnswer, hparse]
  rfl

theorem readsBack_cityResponse : Json.AllNumbers Json.ReadsBack cityResponse.toJson := by
  have hcounts : Json.ReadsBack (Number.ofNat 3) ∧ Json.ReadsBack (Number.ofNat 1) := by
    decide +kernel
  simp [cityResponse, Response.toJson, Usage.toJson, Json.object, Field.toJson?, Block.toJson,
    ToolUse.toJson, hcounts]

theorem not_answered_nothing (r : Response) :
    ¬ Answered (textOf (Utf8.encode (Json.obj []).render)) r := by
  rw [textOf_render]
  rintro ⟨ms, hms, hanswers⟩
  have hparse : Json.parse? (Json.obj []).render = some (.obj []) := by decide +kernel
  cases hparse.symm.trans hms
  cases hanswers with
  | mk hid => cases hid

theorem complete_answer_city :
    (usEast.complete "m" hiRequest (bodyOf (Json.obj cityAnswer).render)).outcome
        = ([cityResponse], none) ∧
      (usEast.complete "m" hiRequest (bodyOf cityResponse.toJson.render)).outcome
        = ([cityResponse], none) ∧
      ∃ f : Failure, (usEast.complete "m" hiRequest (bodyOf (Json.obj []).render)).outcome
        = ([], some f) ∧ f.name = "AdapterError" ∧ f.code? = some "INVALID_RESPONSE" := by
  obtain ⟨hreturned, hagain, -⟩ := @complete_answer usEast "m" hiRequest _ _ usEast_sends
    (bodyOf_brings (Json.obj cityAnswer).render)
  obtain ⟨-, -, hfails⟩ := @complete_answer usEast "m" hiRequest _ _ usEast_sends
    (bodyOf_brings (Json.obj []).render)
  have hfirst := (hreturned cityResponse).mpr answered_cityAnswer
  obtain ⟨f, houtcome, hshape, -⟩ := hfails not_answered_nothing
  have hjson : Json.parse? (textOf (Utf8.encode (Json.obj []).render)) ≠ none := by
    rw [textOf_render]
    decide +kernel
  exact ⟨hfirst, hagain _ hfirst readsBack_cityResponse usEast "m" hiRequest _ usEast_sends
    (bodyOf_brings _), f, houtcome, hshape.mpr hjson⟩

/-- A successful answer that is no JSON is not reported as a response of the wrong shape. -/
theorem notJson_not_invalidResponse :
    usEast.Sends hiRequest ∧ (bodyOf "not json").Brings (Utf8.encode "not json") ∧
      (∀ r, ¬ Answered (textOf (Utf8.encode "not json")) r) ∧
      ¬ ∃ f : Failure, (usEast.complete "m" hiRequest (bodyOf "not json")).outcome = ([], some f) ∧
        f.code? = some "INVALID_RESPONSE" := by
  have hnone : Json.parse? (textOf (Utf8.encode "not json")) = none := by decide +kernel
  refine ⟨usEast_sends, bodyOf_brings _, ?_, ?_⟩
  · rintro r ⟨ms, hms, -⟩
    cases hnone.symm.trans hms
  · rintro ⟨f, houtcome, hcode⟩
    rw [complete_failed usEast_sends (bodyOf_brings _) (readAnswer_notJson hnone)] at houtcome
    cases houtcome
    cases hcode

end Endpoint

end ChatRelay
