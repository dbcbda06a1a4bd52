import Mathlib.Data.List.Chain
import Mathlib.Data.List.Forall2
import Mathlib.Data.List.Induction
import ChatRelay.Proofs.Prompt.Replies

/-!
# Runs of a conversation

Neighbouring messages of a prompt with the same speaker are one message of the conversation. So the
messages of a conversation are the maximal runs of the prompt (`Runs`), each folded into one
(`Run.Folds`): a run of one message keeps the content that this message has alone, a longer run has
the blocks of all its members in a row. System messages have no part in the conversation, wherever
they stand.

A conversation grows at its end, where a message either goes on with the last run or begins a new
one. `Folded.add` is this step; the law for whole prompts is an induction from the back.
-/

namespace ChatRelay

open List (Forall₂)

def PromptMessage.speaker? : PromptMessage → Option Role
  | .human _ => some .user
  | .tool _ _ _ => some .user
  | .assistant _ _ => some .assistant
  | .system _ => none
  | .other _ => none

/-- A content and its blocks. A text is one block, or none if it says nothing. -/
inductive Content.HasBlocks : Content → List RequestBlock → Prop
  | empty : HasBlocks (.text []) []
  | text {t : Text} : t ≠ [] → HasBlocks (.text t) [.text t]
  | blocks (bs : List RequestBlock) : HasBlocks (.blocks bs) bs

theorem Content.hasBlocks_toBlocks (c : Content) : c.HasBlocks c.toBlocks := by
  cases c with
  | text t =>
      cases t with
      | nil => exact .empty
      | cons u t => exact .text (List.cons_ne_nil u t)
  | blocks bs => exact .blocks bs

namespace Prompt

/-- A message that has a content of its own if it stands alone. -/
def Converts (role : Role) (m : PromptMessage) (c : Content) : Prop :=
  toConversation [m] = .ok (none, [⟨role, c⟩])

/-- Messages in a row with one speaker. -/
structure Run where
  role : Role
  messages : List PromptMessage

/-- The maximal runs of a prompt without its system messages. -/
structure Runs (prompt : List PromptMessage) (runs : List Run) : Prop where
  whole : runs.flatMap Run.messages = prompt.filter fun m => !m.isSystem
  nonempty : ∀ run ∈ runs, run.messages ≠ []
  spoken : ∀ run ∈ runs, ∀ m ∈ run.messages, m.speaker? = some run.role
  maximal : (runs.map Run.role).IsChain (· ≠ ·)

/-- The message that a run is folded into. -/
inductive Run.Folds : Run → Message → Prop
  | one {role : Role} {m : PromptMessage} {c : Content} : Converts role m c →
      Folds ⟨role, [m]⟩ ⟨role, c⟩
  | several {role : Role} {ms : List PromptMessage} {contents : List Content}
      {blocks : List (List RequestBlock)} : 1 < ms.length → Forall₂ (Converts role) ms contents →
      Forall₂ Content.HasBlocks contents blocks → Folds ⟨role, ms⟩ ⟨role, .blocks blocks.flatten⟩

theorem Run.Folds.role_eq {run : Run} {message : Message} (h : run.Folds message) :
    message.role = run.role := by
  cases h <;> rfl

/-- A run that is folded goes on with one more message. -/
theorem Run.Folds.extend {run : Run} {message : Message} (h : run.Folds message) {m : PromptMessage}
    {c : Content} (hm : Converts run.role m c) :
    Run.Folds ⟨run.role, run.messages ++ [m]⟩
      ⟨run.role, .blocks (message.content.toBlocks ++ c.toBlocks)⟩ := by
  cases h with
  | @one role first content hfirst =>
      have hblocks : content.toBlocks ++ c.toBlocks = [content.toBlocks, c.toBlocks].flatten := by
        simp
      rw [hblocks]
      exact .several (by simp) (.cons hfirst (.cons hm .nil))
        (.cons content.hasBlocks_toBlocks (.cons c.hasBlocks_toBlocks .nil))
  | @several role ms contents blocks hlength hcontents hblocks =>
      have hflatten : (Content.blocks blocks.flatten).toBlocks ++ c.toBlocks
          = (blocks ++ [c.toBlocks]).flatten := by
        simp [Content.toBlocks]
      rw [hflatten]
      refine .several ?_ (List.rel_append hcontents (.cons hm .nil))
        (List.rel_append hblocks (.cons c.hasBlocks_toBlocks .nil))
      exact Nat.lt_of_lt_of_le hlength (by simp)

/-! ## What a message becomes -/

/-- A content without a block of text that says nothing. -/
def Clean (c : Content) : Prop := ∀ bs, c = .blocks bs → RequestBlock.text [] ∉ bs

theorem Clean.toBlocks {c : Content} (h : Clean c) : RequestBlock.text [] ∉ c.toBlocks := by
  cases c with
  | text t => cases t <;> simp [Content.toBlocks]
  | blocks bs => exact h bs rfl

theorem clean_userContent {content : Json} {c : Content} (h : userContent content = .ok c) :
    Clean c := by
  rintro bs rfl
  cases content with
  | null | bool | num | str | obj => cases h
  | arr parts =>
      obtain ⟨blocks, hblocks⟩ := userContent_eq_ok h
      rw [userContent_eq hblocks] at h
      split at h
      case isTrue =>
        cases h
        simp
      case isFalse => cases h

theorem clean_assistantContent {content : Json} {calls : List ToolCall} {c : Content}
    (h : assistantContent content calls = .ok c) : Clean c := by
  by_cases hcalls : calls = []
  · subst hcalls
    cases h
    rintro bs ⟨⟩
  · obtain ⟨-, rfl⟩ := (assistantContent_eq_ok hcalls).mp h
    rintro bs ⟨⟩ hmem
    rcases List.mem_append.mp hmem with htext | hcall
    · have hclean : Clean (.text (extractText content)) := by rintro bs ⟨⟩
      exact hclean.toBlocks htext
    · obtain ⟨call, -, hcall⟩ := List.mem_map.mp hcall
      cases hcall

/-- What is known of a message that has been converted. A system message is dropped, any other one
is said by its speaker. -/
theorem convert?_eq_ok {m : PromptMessage} {next : Option Message} (h : convert? m = .ok next) :
    (m.isSystem = true ∧ next = none) ∨
      ∃ message, next = some message ∧ m.isSystem = false ∧ m.speaker? = some message.role ∧
        Clean message.content := by
  cases m with
  | system content =>
      cases h
      exact .inl ⟨rfl, rfl⟩
  | human content =>
      obtain ⟨c, hcontent, hnext⟩ := Except.bind_eq_ok h
      cases hnext
      exact .inr ⟨_, rfl, rfl, rfl, clean_userContent hcontent⟩
  | assistant content calls =>
      obtain ⟨c, hcontent, hnext⟩ := Except.bind_eq_ok h
      cases hnext
      exact .inr ⟨_, rfl, rfl, rfl, clean_assistantContent hcontent⟩
  | tool callId content isError =>
      cases h
      refine .inr ⟨_, rfl, rfl, rfl, ?_⟩
      rintro bs ⟨⟩
      simp
  | other type => cases h

theorem converts_of_convert? {m : PromptMessage} {message : Message}
    (h : convert? m = .ok (some message)) : Converts message.role m message.content := by
  rw [Converts, toConversation_single, h]
  cases m with
  | system content => cases h
  | human | assistant | tool | other => rfl

/-! ## One more message -/

theorem addMessage_same {front : List Message} {last next : Message} (h : last.role = next.role) :
    addMessage (front ++ [last]) next
      = front ++ [⟨last.role, .blocks (last.content.toBlocks ++ next.content.toBlocks)⟩] := by
  rw [addMessage, List.getLast?_concat]
  dsimp only
  rw [if_pos h, List.dropLast_concat]

theorem addMessage_other {front : List Message} {last next : Message} (h : last.role ≠ next.role) :
    addMessage (front ++ [last]) next = (front ++ [last]) ++ [next] := by
  rw [addMessage, List.getLast?_concat]
  exact if_neg h

section

variable {prompt : List PromptMessage} {runs : List Run} {run : Run} {m : PromptMessage}

theorem Runs.skip (h : Runs prompt runs) (hm : m.isSystem = true) : Runs (prompt ++ [m]) runs := by
  refine ⟨?_, h.nonempty, h.spoken, h.maximal⟩
  rw [h.whole, List.filter_append, List.filter_cons_of_neg (by rw [hm]; decide), List.filter_nil,
    List.append_nil]

theorem filter_said (hm : m.isSystem = false) :
    (prompt ++ [m]).filter (fun m => !m.isSystem) = prompt.filter (fun m => !m.isSystem) ++ [m] := by
  rw [List.filter_append, List.filter_cons_of_pos (by rw [hm]; rfl), List.filter_nil]

/-- A message of another speaker begins a new run. -/
theorem Runs.begin (h : Runs prompt runs) (hm : m.isSystem = false) {role : Role}
    (hspeaker : m.speaker? = some role) (hlast : ∀ run ∈ runs.getLast?, run.role ≠ role) :
    Runs (prompt ++ [m]) (runs ++ [⟨role, [m]⟩]) := by
  constructor
  · rw [List.flatMap_append, h.whole, filter_said hm]
    rfl
  · exact List.forall_mem_append.mpr
      ⟨h.nonempty, List.forall_mem_singleton.mpr (List.cons_ne_nil m [])⟩
  · exact List.forall_mem_append.mpr
      ⟨h.spoken, List.forall_mem_singleton.mpr (List.forall_mem_singleton.mpr hspeaker)⟩
  · rw [List.map_append, List.isChain_append]
    refine ⟨h.maximal, .singleton _, ?_⟩
    intro role' hrole' role'' hrole''
    rw [List.getLast?_map] at hrole'
    obtain ⟨run, hrun, rfl⟩ := Option.map_eq_some_iff.mp hrole'
    cases hrole''
    exact hlast run hrun

/-- A message of the same speaker goes on with the last run. -/
theorem Runs.goOn (h : Runs prompt (runs ++ [run])) (hm : m.isSystem = false)
    (hspeaker : m.speaker? = some run.role) :
    Runs (prompt ++ [m]) (runs ++ [⟨run.role, run.messages ++ [m]⟩]) := by
  have hwhole := h.whole
  obtain ⟨hnonempty, -⟩ := List.forall_mem_append.mp h.nonempty
  obtain ⟨hspoken, hrun⟩ := List.forall_mem_append.mp h.spoken
  constructor
  · rw [filter_said hm, ← hwhole]
    simp
  · exact List.forall_mem_append.mpr ⟨hnonempty, by simp⟩
  · refine List.forall_mem_append.mpr ⟨hspoken, List.forall_mem_singleton.mpr ?_⟩
    exact List.forall_mem_append.mpr
      ⟨List.forall_mem_singleton.mp hrun, List.forall_mem_singleton.mpr hspeaker⟩
  · have hmaximal := h.maximal
    rw [List.map_append] at hmaximal ⊢
    exact hmaximal

end

/-- The messages of a conversation so far are the runs of the prompt so far. -/
structure Folded (prompt : List PromptMessage) (messages : List Message) : Prop where
  runs : ∃ runs, Runs prompt runs ∧ Forall₂ Run.Folds runs messages
  clean : ∀ message ∈ messages, Clean message.content

theorem forall₂_concat {α β : Type} {R : α → β → Prop} {xs : List α} {ys : List β} {y : β}
    (h : Forall₂ R xs (ys ++ [y])) : ∃ front x, xs = front ++ [x] ∧ Forall₂ R front ys ∧ R x y := by
  rw [← List.forall₂_reverse_iff, List.reverse_append] at h
  obtain ⟨x, front, hx, hfront, hxs⟩ := List.forall₂_cons_right_iff.mp h
  refine ⟨front.reverse, x, ?_, ?_, hx⟩
  · rw [← List.reverse_cons, ← hxs, List.reverse_reverse]
  · rw [← List.forall₂_reverse_iff, List.reverse_reverse]
    exact hfront

theorem Folded.add {prompt : List PromptMessage} {messages : List Message}
    (h : Folded prompt messages) {m : PromptMessage} {next : Message}
    (hnext : convert? m = .ok (some next)) : Folded (prompt ++ [m]) (addMessage messages next) := by
  have hconverts := converts_of_convert? hnext
  obtain ⟨-, hnone⟩ | ⟨_, hsome, hsystem, hspeaker, hclean⟩ := convert?_eq_ok hnext
  · cases hnone
  cases hsome
  obtain ⟨runs, hruns, hfolds⟩ := h.runs
  rcases List.eq_nil_or_concat messages with rfl | ⟨front, last, rfl⟩
  · -- The first message begins the first run.
    cases hfolds
    refine ⟨⟨_, hruns.begin hsystem hspeaker (by simp), .cons (.one hconverts) .nil⟩, ?_⟩
    exact List.forall_mem_singleton.mpr hclean
  · rw [List.concat_eq_append] at h hfolds ⊢
    obtain ⟨front', run, rfl, hfront, hrun⟩ := forall₂_concat hfolds
    obtain ⟨hcleanFront, hcleanLast⟩ := List.forall_mem_append.mp h.clean
    have hrole := hrun.role_eq
    by_cases hsame : last.role = next.role
    · have hspeaker' : m.speaker? = some run.role := by rw [hspeaker, ← hrole, hsame]
      rw [← hsame, hrole] at hconverts
      rw [addMessage_same hsame, hrole]
      refine ⟨⟨_, hruns.goOn hsystem hspeaker', ?_⟩, ?_⟩
      · exact List.rel_append hfront (.cons (hrun.extend hconverts) .nil)
      · refine List.forall_mem_append.mpr ⟨hcleanFront, List.forall_mem_singleton.mpr ?_⟩
        rintro bs ⟨⟩
        rw [List.mem_append, not_or]
        exact ⟨(List.forall_mem_singleton.mp hcleanLast).toBlocks, hclean.toBlocks⟩
    · rw [addMessage_other hsame]
      refine ⟨⟨_, hruns.begin hsystem hspeaker ?_, ?_⟩, ?_⟩
      · intro run' hrun'
        rw [List.getLast?_concat] at hrun'
        cases hrun'
        rw [← hrole]
        exact hsame
      · exact List.rel_append hfolds (.cons (.one hconverts) .nil)
      · exact List.forall_mem_append.mpr ⟨h.clean, List.forall_mem_singleton.mpr hclean⟩

/-! ## Whole prompts -/

/-- A conversation and one more message of the prompt. -/
def step (messages : List Message) (m : PromptMessage) : Except Failure (List Message) :=
  (convert? m).map fun next => next.elim messages (addMessage messages)

theorem conversation_eq (prompt : List PromptMessage) :
    conversation prompt = prompt.foldlM step [] := by
  rw [conversation]
  congr 1
  funext messages m
  rw [step]
  cases convert? m with
  | error f => rfl
  | ok next => cases next <;> rfl

theorem foldlM_cons_error {m : PromptMessage} {f : Failure} (h : convert? m = .error f)
    (prompt : List PromptMessage) (messages : List Message) :
    (m :: prompt).foldlM step messages = .error f := by
  rw [List.foldlM_cons, step, h]
  rfl

theorem foldlM_cons_ok {m : PromptMessage} {next : Option Message} (h : convert? m = .ok next)
    (prompt : List PromptMessage) (messages : List Message) :
    (m :: prompt).foldlM step messages
      = prompt.foldlM step (next.elim messages (addMessage messages)) := by
  rw [List.foldlM_cons, step, h]
  rfl

theorem folded_conversation {prompt : List PromptMessage} {messages : List Message}
    (h : conversation prompt = .ok messages) : Folded prompt messages := by
  rw [conversation_eq] at h
  -- From the back, since it is the last message of a conversation that a further one meets.
  induction prompt using List.reverseRecOn generalizing messages with
  | nil =>
      cases h
      exact ⟨⟨[], ⟨rfl, by simp, by simp, .nil⟩, .nil⟩, by simp⟩
  | append_singleton prompt m ih =>
      rw [List.foldlM_append] at h
      obtain ⟨before, hprompt, h⟩ := Except.bind_eq_ok h
      obtain ⟨after, hstep, hafter⟩ := Except.bind_eq_ok h
      cases hafter
      have hbefore := ih hprompt
      obtain ⟨next, hnext, rfl⟩ := Except.map_eq_ok.mp hstep
      obtain ⟨hsystem, rfl⟩ | ⟨message, rfl, -⟩ := convert?_eq_ok hnext
      · obtain ⟨runs, hruns, hfolds⟩ := hbefore.runs
        exact ⟨⟨runs, hruns.skip hsystem, hfolds⟩, hbefore.clean⟩
      · exact hbefore.add hnext

/-- A conversation fails with the first of its messages that fails. -/
theorem foldlM_eq_error {prompt : List PromptMessage} {messages : List Message} {f : Failure} :
    prompt.foldlM step messages = .error f ↔
      ∃ before m after, prompt = before ++ m :: after ∧ convert? m = .error f ∧
        ∀ m' ∈ before, ∃ next, convert? m' = .ok next := by
  induction prompt generalizing messages with
  | nil => simp [pure, Except.pure]
  | cons m prompt ih =>
      cases hm : convert? m with
      | error f' =>
          rw [foldlM_cons_error hm]
          constructor
          · rintro ⟨⟩
            exact ⟨[], m, prompt, rfl, hm, by simp⟩
          · rintro ⟨before, m', after, hprompt, hm', hbefore⟩
            cases before with
            | nil =>
                cases hprompt
                rw [hm] at hm'
                cases hm'
                rfl
            | cons first before =>
                cases hprompt
                obtain ⟨next, hnext⟩ := hbefore m List.mem_cons_self
                rw [hm] at hnext
                cases hnext
      | ok next =>
          rw [foldlM_cons_ok hm, ih]
          constructor
          · rintro ⟨before, m', after, rfl, hm', hbefore⟩
            exact ⟨m :: before, m', after, rfl, hm', List.forall_mem_cons.mpr ⟨⟨next, hm⟩, hbefore⟩⟩
          · rintro ⟨before, m', after, hprompt, hm', hbefore⟩
            cases before with
            | nil =>
                cases hprompt
                rw [hm] at hm'
                cases hm'
            | cons first before =>
                cases hprompt
                exact ⟨before, m', after, rfl, hm', (List.forall_mem_cons.mp hbefore).2⟩

theorem foldlM_filter (prompt : List PromptMessage) (messages : List Message) :
    (prompt.filter fun m => !m.isSystem).foldlM step messages = prompt.foldlM step messages := by
  induction prompt generalizing messages with
  | nil => rfl
  | cons m prompt ih =>
      cases hsystem : m.isSystem with
      | true =>
          have hm : convert? m = .ok none := by
            cases m with
            | system content => rfl
            | human | assistant | tool | other => cases hsystem
          rw [List.filter_cons_of_neg (by rw [hsystem]; decide), foldlM_cons_ok hm]
          exact ih messages
      | false =>
          rw [List.filter_cons_of_pos (by rw [hsystem]; rfl)]
          cases hm : convert? m with
          | error f => rw [foldlM_cons_error hm, foldlM_cons_error hm]
          | ok next => rw [foldlM_cons_ok hm, foldlM_cons_ok hm, ih]

theorem toConversation_eq {prompt : List PromptMessage}
    (h : prompt.countP PromptMessage.isSystem ≤ 1) :
    toConversation prompt = (conversation prompt).map fun messages =>
      (systemText prompt, messages) := by
  rw [toConversation, ← List.countP_eq_length_filter]
  exact if_neg (Nat.not_lt.mpr h)

theorem toConversation_single_eq_error {m : PromptMessage} {f : Failure} :
    toConversation [m] = .error f ↔ convert? m = .error f := by
  rw [toConversation_single]
  cases convert? m <;> simp [Except.map]

theorem toConversation_single_eq_ok {m : PromptMessage} :
    (∃ result, toConversation [m] = .ok result) ↔ ∃ next, convert? m = .ok next := by
  rw [toConversation_single]
  cases convert? m <;> simp [Except.map]

/-- A prompt fails with what its first failing message fails with alone. -/
theorem toConversation_eq_error {prompt : List PromptMessage} {f : Failure}
    (h : prompt.countP PromptMessage.isSystem ≤ 1) :
    toConversation prompt = .error f ↔
      ∃ before m after, prompt = before ++ m :: after ∧ m.isSystem = false ∧
        toConversation [m] = .error f ∧ ∀ m' ∈ before, ∃ result, toConversation [m'] = .ok result := by
  have hconversation : toConversation prompt = .error f ↔ conversation prompt = .error f := by
    rw [toConversation_eq h]
    cases conversation prompt <;> simp [Except.map]
  simp only [hconversation, conversation_eq, foldlM_eq_error, toConversation_single_eq_error,
    toConversation_single_eq_ok]
  constructor
  · rintro ⟨before, m, after, hprompt, hm, hbefore⟩
    have hsystem : m.isSystem = false := by
      cases m with
      | system content => cases hm
      | human | assistant | tool | other => rfl
    exact ⟨before, m, after, hprompt, hsystem, hm, hbefore⟩
  · rintro ⟨before, m, after, hprompt, -, hm, hbefore⟩
    exact ⟨before, m, after, hprompt, hm, hbefore⟩

theorem toConversation_several {prompt : List PromptMessage}
    (h : 1 < prompt.countP PromptMessage.isSystem) :
    toConversation prompt = .error .severalSystemMessages := by
  rw [toConversation, ← List.countP_eq_length_filter]
  exact if_pos h

theorem systemText_eq {before : List PromptMessage}
    (h : before.countP PromptMessage.isSystem = 0) (content : Json) (after : List PromptMessage) :
    systemText (before ++ .system content :: after) = nonEmpty? (extractText content) := by
  have hbefore : before.findSome? systemContent? = none := by
    rw [List.findSome?_eq_none_iff]
    intro m hm
    have hsystem := List.countP_eq_zero.mp h m hm
    cases m with
    | system content => exact absurd rfl hsystem
    | human | assistant | tool | other => rfl
  rw [systemText, List.findSome?_append, hbefore]
  rfl

/-- A system message says the same wherever it stands. -/
theorem toConversation_move (before after : List PromptMessage) (content : Json) :
    toConversation (before ++ .system content :: after)
      = toConversation (.system content :: (before ++ after)) := by
  have hperm : (before ++ .system content :: after).Perm (.system content :: (before ++ after)) :=
    List.perm_middle
  have hcount := hperm.countP_eq PromptMessage.isSystem
  by_cases hseveral : 1 < (before ++ .system content :: after).countP PromptMessage.isSystem
  · rw [toConversation_several hseveral, toConversation_several (hcount ▸ hseveral)]
  · have hone := Nat.not_lt.mp hseveral
    have hconversation : conversation (before ++ .system content :: after)
        = conversation (.system content :: (before ++ after)) := by
      rw [conversation_eq, conversation_eq, ← foldlM_filter, ← foldlM_filter (_ :: _)]
      simp [PromptMessage.isSystem]
    have hbefore : before.countP PromptMessage.isSystem = 0 := by
      rw [List.countP_append, List.countP_cons_of_pos (by rfl)] at hone
      omega
    rw [toConversation_eq hone, toConversation_eq (hcount ▸ hone), hconversation,
      systemText_eq hbefore, ← List.nil_append (_ :: (before ++ after)), systemText_eq rfl]

/-- A prompt is folded without loss into a conversation whose speakers take turns. -/
theorem toConversation_folds (prompt : List PromptMessage) :
    (∀ system messages, toConversation prompt = .ok (system, messages) →
      (messages.map Message.role).IsChain (· ≠ ·) ∧
      (∃ runs, Runs prompt runs ∧ Forall₂ Run.Folds runs messages) ∧
      ∀ message ∈ messages, ∀ bs, message.content = .blocks bs → .text [] ∉ bs) ∧
    (∀ before content after, prompt = before ++ .system content :: after →
      toConversation prompt = toConversation (.system content :: (before ++ after))) ∧
    (1 < prompt.countP PromptMessage.isSystem →
      toConversation prompt = .error .severalSystemMessages) ∧
    (prompt.countP PromptMessage.isSystem ≤ 1 → ∀ f, toConversation prompt = .error f ↔
      ∃ before m after, prompt = before ++ m :: after ∧ m.isSystem = false ∧
        toConversation [m] = .error f ∧
        ∀ m' ∈ before, ∃ result, toConversation [m'] = .ok result) := by
  refine ⟨?folded, ?moved, toConversation_several, fun h f => toConversation_eq_error h⟩
  case folded =>
    intro system messages h
    by_cases hseveral : 1 < prompt.countP PromptMessage.isSystem
    · rw [toConversation_several hseveral] at h
      cases h
    · rw [toConversation_eq (Nat.not_lt.mp hseveral)] at h
      obtain ⟨found, hconversation, hfound⟩ := Except.map_eq_ok.mp h
      cases hfound
      have hfolded := folded_conversation hconversation
      obtain ⟨runs, hruns, hfolds⟩ := hfolded.runs
      have hroles : messages.map Message.role = runs.map Run.role := by
        rw [← List.forall₂_eq_eq_eq, List.forall₂_map_left_iff, List.forall₂_map_right_iff]
        exact hfolds.flip.imp fun _ _ hrun => hrun.role_eq
      exact ⟨hroles ▸ hruns.maximal, ⟨runs, hruns, hfolds⟩, hfolded.clean⟩
  case moved =>
    rintro before content after rfl
    exact toConversation_move before after content

/-- A system message in the middle of a run has no part in it. -/
example :
    toConversation [.human (.str "a"), .system (.str "s"), .tool (some (.str "t")) (.str "b") false,
        .assistant (.str "c") [], .human (.str [])]
      = .ok (some "s", [⟨.user, .blocks [.text "a", .toolResult (some (.str "t")) "b" false]⟩,
          ⟨.assistant, .text "c"⟩, ⟨.user, .text []⟩]) := by
  rfl

end Prompt

end ChatRelay
