import ChatRelay.Reply.Format

/-!
# What a block says

A block of a message is a text or the call of a tool, which is a matter of how it is written: its
type says which of the two it is, and other members may stand beside those that are read. `IsText`
and `IsCall` are these two readings of the written form. What a client or a later prompt is told
of a block is stated with them.
-/

namespace ChatRelay.Block

/-- A block that is written as a text. -/
structure IsText (b : Block) (t : Text) : Prop where
  type : b.toJson.get? "type" = some (.str "text")
  text : b.toJson.get? "text" = some (.str t)

/-- A block that is written as the call of a tool. -/
structure IsCall (b : Block) (tool : ToolUse) : Prop where
  type : b.toJson.get? "type" = some (.str "tool_use")
  id : b.toJson.get? "id" = some (.str tool.id)
  name : b.toJson.get? "name" = some (.str tool.name)
  input : b.toJson.get? "input" = some (.obj tool.input)

variable {b : Block} {t : Text} {tool : ToolUse}

theorem isText_text (t : Text) : (text t).IsText t := ⟨rfl, rfl⟩

theorem isCall_toolUse (tool : ToolUse) : (toolUse tool).IsCall tool := ⟨rfl, rfl, rfl, rfl⟩

theorem IsText.textPart (h : b.IsText t) : b.textPart = t := by
  obtain ⟨htype, htext⟩ := h
  cases b with
  | text s =>
      have hs : some (Json.str s) = some (.str t) := htext
      cases hs
      rfl
  | toolUse tool => cases htype
  | other given =>
      have htype : given.get? "type" = some (.str "text") := htype
      have htext : given.get? "text" = some (.str t) := htext
      rw [Block.textPart, if_pos htype, htext]
      rfl

theorem IsCall.tool? (h : b.IsCall tool) : b.tool? = some tool := by
  obtain ⟨htype, hid, hname, hinput⟩ := h
  cases b with
  | text t => cases htype
  | toolUse tool' =>
      obtain ⟨id, name, input⟩ := tool'
      have hid : some (Json.str id) = some (.str tool.id) := hid
      have hname : some (Json.str name) = some (.str tool.name) := hname
      have hinput : some (Json.obj input) = some (.obj tool.input) := hinput
      cases hid
      cases hname
      cases hinput
      rfl
  | other given =>
      have htype : given.get? "type" = some (.str "tool_use") := htype
      have hid : given.get? "id" = some (.str tool.id) := hid
      have hname : given.get? "name" = some (.str tool.name) := hname
      have hinput : given.get? "input" = some (.obj tool.input) := hinput
      rw [Block.tool?, htype, hid, hname, hinput]
      exact if_pos rfl

theorem isCall_of_tool? (h : b.tool? = some tool) : b.IsCall tool := by
  cases b with
  | text t => cases h
  | toolUse tool' =>
      cases h
      exact isCall_toolUse tool
  | other given =>
      rw [Block.tool?] at h
      split at h
      case h_1 type id name input htype hid hname hinput =>
        split at h
        case isTrue heq =>
          cases h
          exact ⟨heq ▸ htype, hid, hname, hinput⟩
        case isFalse => cases h
      case h_2 => cases h

/-- The type tells a text from a call. -/
theorem IsText.tool? (h : b.IsText t) : b.tool? = none := by
  cases htool : b.tool? with
  | none => rfl
  | some tool =>
      have htype := (isCall_of_tool? htool).type
      rw [h.type] at htype
      cases htype

theorem textPart_of_tool (h : b.tool? = some tool) : b.textPart = [] := by
  have htype := (isCall_of_tool? h).type
  cases b with
  | text t => cases h
  | toolUse tool => rfl
  | other given =>
      refine if_neg fun htext => ?_
      rw [show given.get? "type" = some (.str "tool_use") from htype] at htext
      cases htext

end ChatRelay.Block
