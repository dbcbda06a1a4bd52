import ChatRelay.ChatModel
import ChatRelay.Proofs.Prompt.Parts
import ChatRelay.Proofs.Reply.Block

/-!
# Replies in a later prompt

An answer of the model is taken apart into a text and a list of tool calls, and a prompt that
repeats it puts the two together again. `SaysInAll` reads both off the blocks of the answer. What
comes back is the text in front, unless there is none, and behind it every call with its id, its
name and its arguments (`toConversation_reply`). Only the place of a text among the calls is lost.

A call is refused only if it has no id (`callBlock_eq_ok`).
-/

namespace ChatRelay

open List (Forall₂)

/-- Texts and calls, with all texts in a row and all calls in a row. -/
inductive SaysInAll : List Block → Text → List ToolUse → Prop
  | nil : SaysInAll [] [] []
  | text {b bs t text tools} : b.IsText t → SaysInAll bs text tools →
      SaysInAll (b :: bs) (t ++ text) tools
  | call {b bs tool text tools} : b.IsCall tool → SaysInAll bs text tools →
      SaysInAll (b :: bs) text (tool :: tools)

theorem SaysInAll.text_eq {bs : List Block} {text : Text} {tools : List ToolUse}
    (h : SaysInAll bs text tools) : bs.flatMap Block.textPart = text := by
  induction h with
  | nil => rfl
  | text hb _ ih => rw [List.flatMap_cons, hb.textPart, ih]
  | call hb _ ih => rw [List.flatMap_cons, Block.textPart_of_tool hb.tool?, ih, List.nil_append]

theorem SaysInAll.tools_eq {bs : List Block} {text : Text} {tools : List ToolUse}
    (h : SaysInAll bs text tools) : bs.filterMap Block.tool? = tools := by
  induction h with
  | nil => rfl
  | text hb _ ih => rw [List.filterMap_cons_none hb.tool?, ih]
  | call hb _ ih => rw [List.filterMap_cons_some hb.tool?, ih]

namespace Prompt

theorem callBlock_eq_ok {call : ToolCall} {b : RequestBlock} :
    callBlock call = .ok b ↔ (call.id.map Json.isSaid).getD false = true ∧ b = .toolUse call := by
  rw [callBlock]
  by_cases hid : (call.id.map Json.isSaid).getD false = true
  · rw [if_pos hid]
    constructor
    · intro h
      cases h
      exact ⟨hid, rfl⟩
    · rintro ⟨-, rfl⟩
      rfl
  · rw [if_neg hid]
    constructor
    · intro h
      split at h <;> cases h
    · intro h
      exact absurd h.1 hid

/-- The blocks of calls are the calls, each of which has an id. -/
theorem mapM_callBlock {calls : List ToolCall} {blocks : List RequestBlock} :
    calls.mapM callBlock = .ok blocks ↔
      (∀ call ∈ calls, (call.id.map Json.isSaid).getD false = true) ∧
        blocks = calls.map .toolUse := by
  have hcall : (fun call b => callBlock call = .ok b)
      = fun call b => (call.id.map Json.isSaid).getD false = true ∧ RequestBlock.toolUse call = b := by
    funext call b
    exact propext (callBlock_eq_ok.trans (and_congr_right' eq_comm))
  rw [Except.mapM_eq_ok, hcall, List.forall₂_and_left, ← List.forall₂_map_left_iff,
    List.forall₂_eq_eq_eq, eq_comm]

theorem assistantContent_eq_ok {content : Json} {calls : List ToolCall} {c : Content}
    (hcalls : calls ≠ []) :
    assistantContent content calls = .ok c ↔
      (∀ call ∈ calls, (call.id.map Json.isSaid).getD false = true) ∧
        c = .blocks ((Content.text (extractText content)).toBlocks ++ calls.map .toolUse) := by
  have hcontent : assistantContent content calls
      = (calls.mapM callBlock).map fun blocks =>
          .blocks ((Content.text (extractText content)).toBlocks ++ blocks) := by
    cases calls with
    | nil => exact absurd rfl hcalls
    | cons call rest =>
        rw [assistantContent]
        · cases (call :: rest).mapM callBlock <;> rfl
        · exact List.cons_ne_nil call rest
  rw [hcontent, Except.map_eq_ok]
  constructor
  · rintro ⟨blocks, hblocks, rfl⟩
    obtain ⟨hids, rfl⟩ := mapM_callBlock.mp hblocks
    exact ⟨hids, rfl⟩
  · rintro ⟨hids, rfl⟩
    exact ⟨_, mapM_callBlock.mpr ⟨hids, rfl⟩, rfl⟩

theorem toConversation_assistant (content : Json) (calls : List ToolCall) :
    toConversation [.assistant content calls]
      = (assistantContent content calls).map fun c => (none, [⟨.assistant, c⟩]) := by
  rw [toConversation_single, convert?]
  cases assistantContent content calls <;> rfl

/-- An answer whose calls have ids can be sent back, as its text and behind it its calls. -/
theorem toConversation_reply {r : Response} {text : Text} {tools : List ToolUse}
    (h : SaysInAll r.content text tools) (hids : ∀ tool ∈ tools, tool.id ≠ []) :
    ∃ content, toConversation [r.generation.toPrompt] = .ok (none, [⟨.assistant, content⟩]) ∧
      (tools = [] → content = .text text) ∧
      (tools ≠ [] → content = .blocks ((if text = [] then [] else [.text text]) ++
        tools.map fun tool =>
          .toolUse ⟨some (.str tool.id), some (.str tool.name), some (.obj tool.input)⟩)) := by
  have hprompt : r.generation.toPrompt = .assistant (.str text) (tools.map ToolUse.toCall) := by
    rw [Generation.toPrompt, Response.generation, Response.text, h.text_eq, h.tools_eq]
  rw [hprompt, toConversation_assistant]
  cases tools with
  | nil => exact ⟨.text text, rfl, fun _ => rfl, fun hne => absurd rfl hne⟩
  | cons tool tools =>
      have hcalls : (tool :: tools).map ToolUse.toCall ≠ [] := List.cons_ne_nil _ _
      have hsaid : ∀ call ∈ (tool :: tools).map ToolUse.toCall,
          (call.id.map Json.isSaid).getD false = true := by
        intro call hcall
        obtain ⟨tool', htool', rfl⟩ := List.mem_map.mp hcall
        have hid := hids tool' htool'
        simpa [ToolUse.toCall, Json.isSaid] using hid
      rw [(assistantContent_eq_ok hcalls).mpr ⟨hsaid, rfl⟩]
      refine ⟨_, rfl, fun hnil => absurd hnil (List.cons_ne_nil _ _), fun _ => ?_⟩
      rw [List.map_map]
      cases text <;> rfl

/-- A reply with texts between its calls, one of them empty. -/
def mixedReply : Response :=
  ⟨"id", .value "message", "assistant", "model",
    [.text "Let me ", .toolUse ⟨"t1", "weather", [("place", .str "SF")]⟩, .text [], .text "look.",
      .toolUse ⟨"t2", "clock", []⟩], .value "tool_use", .null, ⟨.missing, .missing⟩⟩

theorem saysInAll_mixedReply : SaysInAll mixedReply.content "Let me look."
    [⟨"t1", "weather", [("place", .str "SF")]⟩, ⟨"t2", "clock", []⟩] := by
  have htext : ("Let me look." : Text) = ("Let me " : Text) ++ ([] ++ (("look." : Text) ++ [])) := by
    decide
  rw [htext]
  exact .text (Block.isText_text _) (.call (Block.isCall_toolUse _) (.text (Block.isText_text _)
    (.text (Block.isText_text _) (.call (Block.isCall_toolUse _) .nil))))

theorem toConversation_reply_mixed :
    SaysInAll mixedReply.content "Let me look."
      [⟨"t1", "weather", [("place", .str "SF")]⟩, ⟨"t2", "clock", []⟩] ∧
    toConversation [mixedReply.generation.toPrompt] = .ok (none, [⟨.assistant,
      .blocks [.text "Let me look.",
        .toolUse ⟨some (.str "t1"), some (.str "weather"), some (.obj [("place", .str "SF")])⟩,
        .toolUse ⟨some (.str "t2"), some (.str "clock"), some (.obj [])⟩]⟩]) := by
  refine ⟨saysInAll_mixedReply, ?_⟩
  obtain ⟨content, hcontent, -, hcalls⟩ :=
    toConversation_reply saysInAll_mixedReply (by decide)
  rw [hcontent, hcalls (List.cons_ne_nil _ _)]
  rfl

end Prompt

end ChatRelay
