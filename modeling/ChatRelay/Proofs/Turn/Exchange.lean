import ChatRelay.Proofs.Text.Cutting
import ChatRelay.Proofs.Turn.Storing

/-!
# Exchanges

What a completed turn adds to its thread is an exchange, the message of the user and the reply. A
turn writes what it has read with one exchange behind it, or it writes nothing
(`respond_exchange`, `complete_exchange`).

So a history is a list of exchanges, and two things are known of it. It is a conversation: the user
begins, the speakers take turns, and every message is of a kind that its speaker may send
(`conversation_history`). And an endpoint that takes no empty text finds fault with it only for a
reply in which a block of text was left empty (`not_sendable_iff`), since that block is told again
as it came.
-/

namespace ChatRelay

/-- A message of the user and the reply to it, which is not empty. -/
structure Exchange where
  input : ChatRequest
  message : Message
  reply : Response
  said : input.userMessage = .ok message
  answered : reply.content ≠ []

namespace Exchange

/-- The two messages of an exchange. -/
def messages (e : Exchange) : List Message := [e.message, e.reply.toMessage]

@[simp] theorem length_messages (e : Exchange) : e.messages.length = 2 := rfl

/-- The messages of exchanges in order. -/
def history (es : List Exchange) : List Message := es.flatMap messages

theorem history_append (es more : List Exchange) :
    history (es ++ more) = history es ++ history more := List.flatMap_append

theorem history_single (e : Exchange) : history [e] = e.messages := List.append_nil _

theorem length_history (es : List Exchange) : (history es).length = 2 * es.length := by
  induction es with
  | nil => rfl
  | cons e es ih =>
      have hcons : history (e :: es) = e.messages ++ history es := rfl
      rw [hcons, List.length_append, ih, length_messages, List.length_cons]
      omega

end Exchange

/-! ## What a request says -/

namespace Json

variable {key : Text} {name : String} {fields : List (String × Option Json)}

theorem get?_object_skip (h : Text.ofString name ≠ key) (value : Option Json) :
    (object ((name, value) :: fields)).get? key = (object fields).get? key := by
  cases value with
  | none => rfl
  | some v => exact if_neg h

theorem get?_object_absent (h : ∀ field ∈ fields, Text.ofString field.1 ≠ key) :
    (object fields).get? key = none := by
  induction fields with
  | nil => rfl
  | cons field fields ih =>
      obtain ⟨hfield, hfields⟩ := List.forall_mem_cons.mp h
      rw [get?_object_skip hfield, ih hfields]

/-- A member of an object is what is written under its name, if that is written once. -/
theorem get?_object_here (h : ∀ field ∈ fields, Text.ofString field.1 ≠ Text.ofString name)
    (value : Option Json) : (object ((name, value) :: fields)).get? name = value := by
  cases value with
  | none =>
      show (object fields).get? name = none
      exact get?_object_absent h
  | some v => exact if_pos rfl

end Json

theorem Request.get?_messages (r : Request) : r.toJson.get? "messages" = r.messages := by
  rw [toJson, Json.get?_object_skip (by decide)]
  refine Json.get?_object_here ?_ _
  simp only [List.forall_mem_cons]
  decide

theorem Request.get?_system (r : Request) : r.toJson.get? "system" = r.system := by
  rw [toJson, Json.get?_object_skip (by decide), Json.get?_object_skip (by decide),
    Json.get?_object_skip (by decide), Json.get?_object_skip (by decide)]
  refine Json.get?_object_here ?_ _
  simp only [List.forall_mem_cons]
  decide

/-! ## What a turn writes -/

namespace Turn

open TurnEffect

section

variable (relay : Relay) (transport : Transport) (threads : Threads) (threadId : Text)
  (input : ChatRequest) (signal : Signal)

theorem record_exchange (r : Response) :
    record threads threadId input r = [] ∨
      ∃ e : Exchange, e.input = input ∧ e.reply = r ∧
        record threads threadId input r = [(threadId, threads.messages threadId ++ e.messages)] := by
  rw [record]
  cases hmessage : input.userMessage with
  | error f => exact .inl rfl
  | ok message =>
      by_cases hcontent : r.content = []
      · simp [hcontent]
      · refine .inr ⟨⟨input, message, r, hmessage, hcontent⟩, rfl, rfl, ?_⟩
        simp [hcontent, Exchange.messages]

theorem respond_exchange :
    writes (respond relay transport threads threadId input signal).effects = [] ∨
      ∃ e : Exchange, e.input = input ∧
        e.reply ∈ streamed relay transport threads threadId input ∧
        writes (respond relay transport threads threadId input signal).effects
          = [(threadId, threads.messages threadId ++ e.messages)] := by
  have hwrites : writes (respond relay transport threads threadId input signal).effects
      = _ := run_writes
  rw [hwrites]
  cases hending : (course relay transport threads threadId input signal).ending with
  | finished r =>
      have hfind := (course_finished hending).2.1
      obtain hnone | ⟨e, hinput, rfl, hrecord⟩ := record_exchange threads threadId input r
      · exact .inl hnone
      · exact .inr ⟨e, hinput, List.mem_of_find?_eq_some hfind, hrecord⟩
  | stopped | unfinished | failed => exact .inl rfl

theorem complete_exchange :
    writes (complete relay transport threads threadId input signal).effects = [] ∨
      ∃ e : Exchange, e.input = input ∧
        Returned relay transport threads threadId input signal e.reply ∧
        writes (complete relay transport threads threadId input signal).effects
          = [(threadId, threads.messages threadId ++ e.messages)] := by
  obtain ⟨r, hreturned, -, hwrites⟩ | ⟨-, hnone⟩ :=
    complete_cases relay transport threads threadId input signal
  · rw [hwrites]
    obtain hnone | ⟨e, hinput, hreply, hrecord⟩ := record_exchange threads threadId input r
    · exact .inl hnone
    · exact .inr ⟨e, hinput, (hreturned e.reply).mpr hreply, hrecord⟩
  · exact .inl hnone

end

/-! ## Where the reply comes from -/

section

variable {relay : Relay} {transport : Transport} {threads : Threads} {threadId : Text}
  {input : ChatRequest} {signal : Signal} {r : Response}

theorem mem_of_streamed (h : r ∈ streamed relay transport threads threadId input) :
    ∃ model request, r ∈ (transport.stream model request).items := by
  rw [streamed] at h
  split at h
  · cases h
  · exact ⟨_, _, h⟩

theorem mem_of_attendFrom {failure : Option Failure} {m : Moment} {acts : List (Act Effect Response)}
    (h : r ∈ (attendFrom signal failure m acts).items) : r ∈ acts.filterMap Act.item? := by
  induction acts generalizing m with
  | nil => exact h
  | cons act acts ih =>
      cases act with
      | effect e =>
          cases e with
          | log entry | call c => exact ih h
          | poll =>
              rw [attendFrom] at h
              split at h
              · cases h
              · exact ih h
      | yield a =>
          rcases List.mem_cons.mp h with rfl | hlater
          · exact List.mem_cons_self
          · exact List.mem_cons_of_mem _ (ih hlater)

theorem mem_of_returned (h : Returned relay transport threads threadId input signal r) :
    ∃ model request, r ∈ (transport.complete model request).items := by
  obtain ⟨p, -, hr⟩ := h
  exact ⟨_, _, mem_of_attendFrom hr⟩

end

end Turn

/-! ## Conversations -/

/-- Whether a block is the result of a tool. -/
def RequestBlock.isResult : RequestBlock → Bool
  | .toolResult _ _ _ => true
  | _ => false

/-- What a user may send: a text that is trimmed and says something, or results of tools and behind
them at most one text that says something. -/
inductive Content.FromUser : Content → Prop
  | text {t : Text} : t.trim = t → t ≠ [] → FromUser (.text t)
  | results {results : List RequestBlock} {text : Option Text} : results ≠ [] →
      (∀ b ∈ results, b.isResult) → (∀ t, text = some t → t.trim ≠ []) →
      FromUser (.blocks (results ++ (text.map RequestBlock.text).toList))

/-- Whether a message is of a kind that its speaker may send. -/
def Message.Proper (m : Message) : Prop :=
  match m.role with
  | .user => m.content.FromUser
  | .assistant => ∃ bs, m.content = .blocks bs ∧ bs ≠ []

/-- The speaker at a place of a conversation. -/
def Role.atPlace (i : Nat) : Role := if i % 2 = 0 then .user else .assistant

/-- Messages that are spoken in turns, the user first, and each of its speaker's kind. -/
structure Conversation (ms : List Message) : Prop where
  speakers : ∀ (i : Nat) (m : Message), ms[i]? = some m → m.role = .atPlace i
  contents : ∀ m ∈ ms, m.Proper

theorem ChatRequest.userMessage_proper {input : ChatRequest} {m : Message}
    (h : input.userMessage = .ok m) : m.role = .user ∧ m.content.FromUser := by
  have htrimmed {t : Text} (ht : input.input.bind Text.trimmed? = some t) :
      t.trim = t ∧ t ≠ [] := by
    obtain ⟨given, -, hgiven⟩ := Option.bind_eq_some_iff.mp ht
    obtain ⟨rfl, hne⟩ := Text.trimmed?_eq_some.mp hgiven
    exact ⟨Text.trim_trim given, hne⟩
  rw [userMessage] at h
  split at h
  · cases h
  · rename_i t _ ht
    cases h
    exact ⟨rfl, .text (htrimmed ht).1 (htrimmed ht).2⟩
  · rename_i b bs hresults
    cases h
    refine ⟨rfl, .results (List.cons_ne_nil b bs) ?_ ?_⟩
    · rw [← hresults]
      intro b hb
      obtain ⟨result, -, rfl⟩ := List.mem_map.mp hb
      rfl
    · intro t ht
      rw [(htrimmed ht).1]
      exact (htrimmed ht).2

theorem Role.atPlace_add_even {n : Nat} (h : n % 2 = 0) (i : Nat) :
    atPlace (n + i) = atPlace i := by
  have hmod : (n + i) % 2 = i % 2 := by omega
  rw [atPlace, hmod, atPlace]

namespace Conversation

theorem nil : Conversation [] := by
  constructor
  · intro i m h
    cases h
  · intro m h
    cases h

/-- A conversation goes on when both have spoken equally often. -/
theorem append {ms more : List Message} (h : Conversation ms) (heven : ms.length % 2 = 0)
    (hmore : Conversation more) : Conversation (ms ++ more) := by
  constructor
  · intro i m hm
    by_cases hi : i < ms.length
    · rw [List.getElem?_append_left hi] at hm
      exact h.speakers i m hm
    · rw [List.getElem?_append_right (Nat.le_of_not_lt hi)] at hm
      have hplace := Role.atPlace_add_even heven (i - ms.length)
      rw [Nat.add_sub_cancel' (Nat.le_of_not_lt hi)] at hplace
      rw [hplace]
      exact hmore.speakers _ m hm
  · intro m hm
    rcases List.mem_append.mp hm with hm | hm
    · exact h.contents m hm
    · exact hmore.contents m hm

theorem head {ms : List Message} (h : Conversation ms) (hne : ms ≠ []) :
    ms.head?.map Message.role = some .user := by
  cases ms with
  | nil => exact absurd rfl hne
  | cons m ms => exact congrArg some (h.speakers 0 m rfl)

theorem said {input : ChatRequest} {m : Message} (h : input.userMessage = .ok m) :
    Conversation [m] := by
  obtain ⟨hrole, hcontent⟩ := input.userMessage_proper h
  constructor
  · intro i m' hm
    cases i with
    | zero =>
        cases hm
        exact hrole
    | succ i => cases hm
  · intro m' hm
    rw [List.mem_singleton.mp hm, Message.Proper, hrole]
    exact hcontent

theorem exchange (e : Exchange) : Conversation e.messages := by
  have hreply : e.reply.content.map Block.toRequest ≠ [] := by simp [e.answered]
  obtain ⟨hrole, hcontent⟩ := e.input.userMessage_proper e.said
  constructor
  · intro i m hm
    match i with
    | 0 =>
        cases hm
        exact hrole
    | 1 =>
        cases hm
        rfl
    | i + 2 => cases hm
  · intro m hm
    rcases List.mem_cons.mp hm with rfl | hm
    · rw [Message.Proper, hrole]
      exact hcontent
    · rw [List.mem_singleton.mp hm]
      exact ⟨_, rfl, hreply⟩

end Conversation

theorem even_length_history (es : List Exchange) : (Exchange.history es).length % 2 = 0 := by
  rw [Exchange.length_history]
  omega

theorem conversation_history (es : List Exchange) : Conversation (Exchange.history es) := by
  induction es with
  | nil => exact .nil
  | cons e es ih => exact (Conversation.exchange e).append (by simp) ih

/-! ## Texts that say nothing -/

/-- The text of a block that is one. -/
def RequestBlock.text? : RequestBlock → Option Text
  | .text t => some t
  | _ => none

/-- The texts of a content: the one that it is, or those of its blocks. -/
def Content.texts : Content → List Text
  | .text t => [t]
  | .blocks bs => bs.filterMap RequestBlock.text?

/-- A message that an endpoint takes which refuses empty content, empty texts, and a user who says
nothing. -/
structure Message.Sendable (m : Message) : Prop where
  content : m.content ≠ .blocks []
  texts : [] ∉ m.content.texts
  user : m.role = .user → ∀ t ∈ m.content.texts, t.trim ≠ []

/-- Whether a reply has a block that is no tool call and has no text. -/
def Response.HasEmptyText (r : Response) : Prop :=
  ∃ b ∈ r.content, b.tool? = none ∧ b.textPart = []

theorem Content.FromUser.texts {c : Content} (h : c.FromUser) : ∀ t ∈ c.texts, t.trim ≠ [] := by
  cases h with
  | @text t htrim hne =>
      intro s hs
      rw [List.mem_singleton.mp hs, htrim]
      exact hne
  | @results results text hne hresults htext =>
      have hnone : results.filterMap RequestBlock.text? = [] := by
        rw [List.filterMap_eq_nil_iff]
        intro b hb
        have hresult := hresults b hb
        cases b with
        | toolResult id content isError => rfl
        | text t | image mediaType data | toolUse call => cases hresult
      intro s hs
      rw [Content.texts, List.filterMap_append, hnone, List.nil_append] at hs
      cases text with
      | none => cases hs
      | some t =>
          rw [List.mem_singleton.mp hs]
          exact htext t rfl

theorem Content.FromUser.ne_empty {c : Content} (h : c.FromUser) : c ≠ .blocks [] := by
  cases h with
  | text htrim hne => nofun
  | results hne hresults htext =>
      intro heq
      injection heq with heq
      exact hne (List.append_eq_nil_iff.mp heq).1

/-- What a user says is always taken. -/
theorem ChatRequest.userMessage_sendable {input : ChatRequest} {m : Message}
    (h : input.userMessage = .ok m) : m.Sendable := by
  obtain ⟨-, hcontent⟩ := input.userMessage_proper h
  have htexts := hcontent.texts
  exact ⟨hcontent.ne_empty, fun hmem => htexts [] hmem rfl, fun _ => htexts⟩

theorem Block.text?_toRequest (b : Block) :
    b.toRequest.text? = some [] ↔ b.tool? = none ∧ b.textPart = [] := by
  rw [Block.toRequest]
  cases b.tool? with
  | none => simp [RequestBlock.text?]
  | some tool => simp [RequestBlock.text?]

theorem Response.mem_texts_toMessage (r : Response) :
    [] ∈ r.toMessage.content.texts ↔ r.HasEmptyText := by
  have htexts : r.toMessage.content.texts
      = (r.content.map Block.toRequest).filterMap RequestBlock.text? := rfl
  rw [htexts, List.filterMap_map, List.mem_filterMap]
  simp only [Function.comp_apply, Block.text?_toRequest]
  rfl

/-- A reply is taken when it is told again, but for texts in it that were left empty. -/
theorem Exchange.reply_sendable (e : Exchange) :
    e.reply.toMessage.Sendable ↔ ¬ e.reply.HasEmptyText := by
  rw [← e.reply.mem_texts_toMessage]
  constructor
  · exact fun h => h.texts
  · intro h
    refine ⟨?_, h, nofun⟩
    intro hempty
    injection hempty with hempty
    exact e.answered (List.map_eq_nil_iff.mp hempty)

/-- A message that goes out with exchanges and a message of the user is refused only if it is a
reply with an empty text. -/
theorem not_sendable_iff {es : List Exchange} {input : ChatRequest} {message : Message}
    (h : input.userMessage = .ok message) {m : Message}
    (hm : m ∈ Exchange.history es ++ [message]) :
    ¬ m.Sendable ↔ ∃ e ∈ es, m = e.reply.toMessage ∧ e.reply.HasEmptyText := by
  constructor
  · intro hrefused
    rcases List.mem_append.mp hm with hm | hm
    · obtain ⟨e, he, hm⟩ := List.mem_flatMap.mp hm
      rcases List.mem_cons.mp hm with rfl | hm
      · exact absurd (ChatRequest.userMessage_sendable e.said) hrefused
      · rw [List.mem_singleton.mp hm] at hrefused ⊢
        exact ⟨e, he, rfl, Classical.not_not.mp (mt e.reply_sendable.mpr hrefused)⟩
    · rw [List.mem_singleton.mp hm] at hrefused
      exact absurd (ChatRequest.userMessage_sendable h) hrefused
  · rintro ⟨e, -, rfl, hempty⟩ hsendable
    exact e.reply_sendable.mp hsendable hempty

/-- Exchanges and a message of the user are taken exactly if no reply has an empty text. -/
theorem sendable_iff {es : List Exchange} {input : ChatRequest} {message : Message}
    (h : input.userMessage = .ok message) :
    (∀ m ∈ Exchange.history es ++ [message], m.Sendable) ↔ ∀ e ∈ es, ¬ e.reply.HasEmptyText := by
  constructor
  · intro hall e he
    have hmem : e.reply.toMessage ∈ Exchange.history es :=
      List.mem_flatMap.mpr ⟨e, he, by simp [Exchange.messages]⟩
    exact e.reply_sendable.mp (hall _ (List.mem_append_left _ hmem))
  · intro hnone m hm
    refine Classical.not_not.mp fun hrefused => ?_
    obtain ⟨e, he, -, hempty⟩ := (not_sendable_iff h hm).mp hrefused
    exact hnone e he hempty

end ChatRelay
