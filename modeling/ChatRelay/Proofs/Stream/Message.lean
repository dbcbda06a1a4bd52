import ChatRelay.Proofs.Event.Shape
import ChatRelay.Proofs.Stream.Decoding
import ChatRelay.Proofs.Stream.DoneMark
import ChatRelay.Proofs.Stream.Draft

/-!
# Streams that tell a message

The endpoint tells a message by events: its header, its blocks one after another, each with a start,
deltas and a stop, and at the end what has become known on the way. `Response.Told` lists the events
that tell a given message: a text may be cut anywhere, the input of a tool call may be any JSON text
of it, cut anywhere, and each count may be reported early or late. `Carries` puts payloads around
events, any JSON text of each, with control events between them.
-/

namespace ChatRelay

open Json (lookup)

/-! ## The events of a message -/

/-- Fragments of a JSON text of the input of a tool call; a blank text stands for no arguments. -/
def SpelledBy (input : Json.Members) (fragments : List Text) : Prop :=
  Json.parse? fragments.flatten = some (.obj input) ∨
    Text.trim fragments.flatten = [] ∧ input = []

/-- The events that tell a block under an index. -/
inductive Block.Told (index : Number) : Block → List Event → Prop
  | text (first : Text) (more : List Text) :
      Told index (.text (first ++ more.flatten))
        (.blockStart index (.text first) :: more.map (fun t => .blockDelta index (.text t))
          ++ [.blockStop index])
  | toolUse {tool : ToolUse} {fragments : List Text} :
      lookup Check.reservedKey tool.input = none → SpelledBy tool.input fragments →
      Told index (.toolUse tool)
        (.blockStart index (.toolUse tool.id tool.name)
          :: fragments.map (fun t => .blockDelta index (.inputJson t)) ++ [.blockStop index])

/-- The events that tell blocks one after another, block number `n` under the index `index n`. -/
inductive ContentTold (index : Nat → Number) : Nat → List Block → List Event → Prop
  | nil (n : Nat) : ContentTold index n [] []
  | cons {n : Nat} {b : Block} {bs : List Block} {es rest : List Event} :
      b.Told (index n) es → ContentTold index (n + 1) bs rest →
      ContentTold index n (b :: bs) (es ++ rest)

/-- The count that is reported last, zero if none is. -/
def lastCount (first later : Option Number) : Field Number :=
  .value ((later.or first).getD (.zero false))

/-- The events that tell a message. Its start and its end may each report either count. -/
inductive Response.Told (index : Nat → Number) (m : Response) : List Event → Prop
  | mk {body : List Event} {input output input' output' : Option Number} {usage : Option Usage} :
      ContentTold index 0 m.content body →
      usage = some ⟨.ofOption input', .ofOption output'⟩ ∨
        usage = none ∧ input' = none ∧ output' = none →
      m.usage = ⟨lastCount input input', lastCount output output'⟩ →
      Told index m (.messageStart ⟨m.id, m.model, m.role, ⟨.ofOption input, .ofOption output⟩⟩
        :: body ++ [.messageDelta ⟨m.stopReason, m.stopSequence⟩ usage, .messageStop])

/-- Payloads that write events, with control events anywhere between them, and whatever behind the
mark that ends the stream, if it is there. -/
inductive Carries : List Text → List Event → Prop
  | nil : Carries [] []
  | done {p : Text} (ps : List Text) : p.trim = Sse.doneMark → Carries (p :: ps) []
  | event {p : Text} {e : Event} {ps : List Text} {es : List Event} :
      e.Writes p → e.isControl = false → Carries ps es → Carries (p :: ps) (e :: es)
  | control {p : Text} {e : Event} {ps : List Text} {es : List Event} :
      e.Writes p → e.isControl = true → Carries ps es → Carries (p :: ps) es

/-! ## The responses of a message -/

/-- The responses that show a block: pieces of its text, or the call as a whole. -/
inductive Block.Shown : Block → List Response → Prop
  | text {rs : List Response} (pieces : List Text) :
      rs.map Response.content = pieces.map (fun t => [Block.text t]) →
      (∀ r ∈ rs, r.type = .value "content_block_start" ∨ r.type = .value "content_block_delta") →
      Shown (.text pieces.flatten) rs
  | toolUse {tool : ToolUse} {r : Response} :
      r.type = .value "tool_use" → r.content = [.toolUse tool] → Shown (.toolUse tool) [r]

/-- The responses that show blocks one after another. -/
inductive ContentShown : List Block → List Response → Prop
  | nil : ContentShown [] []
  | cons {b : Block} {bs : List Block} {rs rest : List Response} :
      b.Shown rs → ContentShown bs rest → ContentShown (b :: bs) (rs ++ rest)

/-- A response that adds something to a message before its end. -/
structure Response.AddsTo (r m : Response) : Prop where
  id : r.id = m.id
  model : r.model = m.model
  role : r.role = m.role
  notFinal : r.isFinal = false

/-! ## Runs that go on -/

/-- Reading events in turn gives responses and nothing else, and leads from a state to another. -/
def Runs (s : OnePass.State) (es : List Event) (rs : List Response) (s' : OnePass.State) : Prop :=
  onePass.run s (es.map .yield) = (rs.map .yield, .running s')

theorem Runs.nil (s : OnePass.State) : Runs s [] [] s := rfl

theorem Runs.single {s s' : OnePass.State} {e : Event} {rs : List Response}
    (h : onePass.react s e = .next s' (rs.map .yield)) : Runs s [e] rs s' := by
  have hrun := Stage.run_yield_next h []
  rw [Stage.run_nil, List.append_nil] at hrun
  exact hrun

theorem Runs.append {s t u : OnePass.State} {a b : List Event} {rs rs' : List Response}
    (ha : Runs s a rs t) (hb : Runs t b rs' u) : Runs s (a ++ b) (rs ++ rs') u := by
  rw [Runs, List.map_append, List.map_append]
  exact Stage.run_trans ha hb

/-! ## Between two blocks -/

/-- A draft of a message between two of its blocks. -/
structure Draft.Between (d : Draft) (m : Response) : Prop where
  started : d.started = true
  closed : d.openTexts = []
  id : d.id = m.id
  model : d.model = m.model
  role : d.role = m.role

theorem Draft.Between.appendBlocks {d : Draft} {m : Response} (h : d.Between m)
    (bs : List Block) : (d.appendBlocks bs).Between m :=
  ⟨h.started, h.closed, h.id, h.model, h.role⟩

/-! ## One text block -/

/-- A draft with an open text block at its end. -/
def Draft.writing (d : Draft) (index : Number) (t : Text) : Draft :=
  { d with content := d.content ++ [.text t], openTexts := [⟨index, d.content.length⟩] }

theorem modify_concat {α : Type} (l : List α) (a : α) (f : α → α) :
    (l ++ [a]).modify l.length f = l ++ [f a] := by
  induction l with
  | nil => rfl
  | cons b l ih => rw [List.cons_append, List.length_cons, List.modify_succ_cons, ih]; rfl

section

variable {d : Draft} {m : Response} (h : d.Between m) (index : Number) (t : Text)

include h

theorem Draft.Between.respond_addsTo {type : Text} (htype : type ≠ "message_stop")
    (content : List Block) :
    ((d.writing index t).respond (.value type) content).AddsTo m :=
  ⟨h.id, h.model, h.role, decide_eq_false fun heq => htype (Field.value.inj heq)⟩

theorem runs_textStart : Runs ⟨d, none⟩ [.blockStart index (.text t)]
    (if t.isEmpty then [] else
      [(d.writing index t).respond (.value "content_block_start") [.text t]])
    ⟨d.writing index t, none⟩ := by
  refine .single ?_
  have hopen : d.openText index t = .ok (d.writing index t) := by
    simp [Draft.openText, Draft.openAt?, h.closed, Draft.writing]
  show OnePass.advance (Except.bind (d.requireStarted _) _) = _
  rw [Draft.requireStarted_ok h.started]
  show OnePass.advance (Except.bind (Draft.lift (d.openText index t)) _) = _
  rw [hopen]
  cases t <;> rfl

theorem runs_textDelta (more : Text) :
    Runs ⟨d.writing index t, none⟩ [.blockDelta index (.text more)]
      [(d.writing index (t ++ more)).respond (.value "content_block_delta") [.text more]]
      ⟨d.writing index (t ++ more), none⟩ := by
  refine .single ?_
  have hstarted : (d.writing index t).started = true := h.started
  have happend : (d.writing index t).appendText index more = .ok (d.writing index (t ++ more)) := by
    simp [Draft.appendText, Draft.openAt?, Draft.writing, modify_concat, Block.append]
  show OnePass.advance (Except.bind ((d.writing index t).requireStarted _) _) = _
  rw [Draft.requireStarted_ok hstarted]
  show OnePass.advance (Except.bind (Draft.lift ((d.writing index t).appendText index more)) _) = _
  rw [happend]
  rfl

theorem runs_textStop : Runs ⟨d.writing index t, none⟩ [.blockStop index] []
    ⟨d.appendBlocks [.text t], none⟩ := by
  refine .single ?_
  have hstarted : (d.writing index t).started = true := h.started
  have hclose : (d.writing index t).closeText index = .ok (d.appendBlocks [.text t]) := by
    simp [Draft.closeText, Draft.openAt?, Draft.writing, Draft.appendBlocks, h.closed]
  show OnePass.advance (Except.bind ((d.writing index t).requireStarted _) _) = _
  rw [Draft.requireStarted_ok hstarted]
  show OnePass.advance (Except.bind (Draft.lift ((d.writing index t).closeText index)) _) = _
  rw [hclose]
  rfl

/-- The deltas of a text block, each shown and added to the text. -/
theorem runs_textDeltas (more : List Text) : ∃ rs : List Response,
    Runs ⟨d.writing index t, none⟩ (more.map fun t => .blockDelta index (.text t)) rs
      ⟨d.writing index (t ++ more.flatten), none⟩ ∧
    rs.map Response.content = more.map (fun t => [Block.text t]) ∧
    ∀ r ∈ rs, r.type = .value "content_block_delta" ∧ r.AddsTo m := by
  induction more generalizing t with
  | nil =>
      refine ⟨[], ?_, rfl, List.forall_mem_nil _⟩
      rw [List.flatten_nil, List.append_nil]
      exact .nil _
  | cons piece more ih =>
      obtain ⟨rs, hrun, hcontent, hrs⟩ := ih (t ++ piece)
      rw [List.append_assoc, ← List.flatten_cons] at hrun
      refine ⟨_, (runs_textDelta h index t piece).append hrun, ?_, ?_⟩
      · rw [List.map_append, hcontent]
        rfl
      · rw [List.forall_mem_append, List.forall_mem_singleton]
        exact ⟨⟨rfl, h.respond_addsTo index _ (by decide) _⟩, hrs⟩

theorem runs_text (more : List Text) : ∃ rs : List Response,
    Runs ⟨d, none⟩ (.blockStart index (.text t) :: more.map (fun t => .blockDelta index (.text t))
      ++ [.blockStop index]) rs ⟨d.appendBlocks [.text (t ++ more.flatten)], none⟩ ∧
    (Block.text (t ++ more.flatten)).Shown rs ∧ ∀ r ∈ rs, r.AddsTo m := by
  obtain ⟨rs, hdeltas, hcontent, hrs⟩ := runs_textDeltas h index t more
  have hrun := ((runs_textStart h index t).append hdeltas).append
    (runs_textStop h index (t ++ more.flatten))
  rw [List.append_nil] at hrun
  cases t with
  | nil =>
      exact ⟨rs, hrun, .text more hcontent fun r hr => Or.inr (hrs r hr).1,
        fun r hr => (hrs r hr).2⟩
  | cons u t =>
      refine ⟨_, hrun, .text ((u :: t) :: more) ?_ ?_, ?_⟩
      · rw [List.map_append, hcontent]
        rfl
      · rw [List.forall_mem_append]
        exact ⟨List.forall_mem_singleton.mpr (Or.inl rfl), fun r hr => Or.inr (hrs r hr).1⟩
      · rw [List.forall_mem_append]
        exact ⟨List.forall_mem_singleton.mpr (h.respond_addsTo index _ (by decide) _),
          fun r hr => (hrs r hr).2⟩

end

/-! ## One tool call -/

theorem Json.parse?_blank {t : Text} (h : Text.trim t = []) : Json.parse? t = none := by
  have hparse := Json.parse?_blank_append (t := []) (Text.blank_of_trim_eq_nil h)
    (Sse.value_cut_end (Or.inl rfl))
  rwa [List.append_nil] at hparse

theorem Json.without_of_lookup {α : Type} {key : Text} {ms : List (Text × α)}
    (h : lookup key ms = none) : Json.without key ms = ms := by
  induction ms with
  | nil => rfl
  | cons member ms ih =>
      obtain ⟨k, v⟩ := member
      rw [lookup] at h
      split at h
      · cases h
      · rw [Json.without, List.filter_cons_of_pos (by simpa using ‹_›)]
        exact congrArg _ (ih h)

theorem OpenTool.input_blank (tool : OpenTool) (h : tool.partialJson.trim = []) :
    tool.input = ([], []) := by
  rw [input, if_pos h]

theorem OpenTool.input_object (tool : OpenTool) {ms : Json.Members}
    (h : Json.parse? tool.partialJson = some (.obj ms)) :
    tool.input = (Json.without Check.reservedKey ms, []) := by
  have hne : tool.partialJson.trim ≠ [] := by
    intro hblank
    rw [Json.parse?_blank hblank] at h
    cases h
  rw [input, if_neg hne, h]

/-- The input of a call is read back from any JSON text of it, and nothing is logged about it. -/
theorem OpenTool.input_of_spelled (tool : OpenTool) {input : Json.Members}
    (hkey : lookup Check.reservedKey input = none) {fragments : List Text}
    (h : SpelledBy input fragments) (hpartial : tool.partialJson = fragments.flatten) :
    tool.input = (input, []) := by
  rcases h with h | ⟨h, rfl⟩
  · rw [tool.input_object (hpartial ▸ h), Json.without_of_lookup hkey]
  · exact tool.input_blank (hpartial ▸ h)

theorem runs_fragments (d : Draft) (tool : OpenTool) (fragments : List Text) :
    Runs ⟨d, some ⟨tool, none⟩⟩ (fragments.map fun t => .blockDelta tool.index (.inputJson t)) []
      ⟨d, some ⟨{ tool with partialJson := tool.partialJson ++ fragments.flatten }, none⟩⟩ := by
  induction fragments generalizing tool with
  | nil =>
      rw [List.flatten_nil, List.append_nil]
      exact .nil _
  | cons fragment fragments ih =>
      have hfirst : Runs ⟨d, some ⟨tool, none⟩⟩ [.blockDelta tool.index (.inputJson fragment)] []
          ⟨d, some ⟨{ tool with partialJson := tool.partialJson ++ fragment }, none⟩⟩ := by
        refine .single ?_
        simp only [onePass, OnePass.inside, if_true, OpenCall.extend, List.map_nil]
      have hrest := ih { tool with partialJson := tool.partialJson ++ fragment }
      rw [List.append_assoc, ← List.flatten_cons] at hrest
      exact hfirst.append hrest

theorem runs_toolUse {d : Draft} {m : Response} (h : d.Between m) (index : Number) {tool : ToolUse}
    {fragments : List Text} (hkey : lookup Check.reservedKey tool.input = none)
    (hspelled : SpelledBy tool.input fragments) : ∃ rs : List Response,
    Runs ⟨d, none⟩ (.blockStart index (.toolUse tool.id tool.name)
      :: fragments.map (fun t => .blockDelta index (.inputJson t)) ++ [.blockStop index]) rs
      ⟨d.appendBlocks [.toolUse tool], none⟩ ∧
    (Block.toolUse tool).Shown rs ∧ ∀ r ∈ rs, r.AddsTo m := by
  have hstart : Runs ⟨d, none⟩ [.blockStart index (.toolUse tool.id tool.name)] []
      ⟨d, some ⟨⟨index, tool.id, tool.name, []⟩, none⟩⟩ := .single rfl
  have hinput := OpenTool.input_of_spelled ⟨index, tool.id, tool.name, fragments.flatten⟩ hkey
    hspelled rfl
  have hstop : Runs ⟨d, some ⟨⟨index, tool.id, tool.name, fragments.flatten⟩, none⟩⟩
      [.blockStop index]
      [(d.appendBlocks [.toolUse tool]).respond (.value "tool_use") [.toolUse tool]]
      ⟨d.appendBlocks [.toolUse tool], none⟩ := by
    refine .single ?_
    simp only [onePass, OnePass.inside, if_true, OnePass.finish, hinput, h.started]
    rfl
  refine ⟨_, (hstart.append (runs_fragments d ⟨index, tool.id, tool.name, []⟩ fragments)).append
    hstop, .toolUse rfl rfl, List.forall_mem_singleton.mpr ⟨h.id, h.model, h.role, rfl⟩⟩

/-! ## A whole message -/

theorem runs_block {d : Draft} {m : Response} (h : d.Between m) {index : Number} {b : Block}
    {es : List Event} (hb : b.Told index es) : ∃ rs : List Response,
    Runs ⟨d, none⟩ es rs ⟨d.appendBlocks [b], none⟩ ∧ b.Shown rs ∧ ∀ r ∈ rs, r.AddsTo m := by
  cases hb with
  | text first more => exact runs_text h index first more
  | toolUse hkey hspelled => exact runs_toolUse h index hkey hspelled

/-- The blocks of a message, each added to the draft behind those before it. -/
theorem runs_content {d : Draft} {m : Response} (h : d.Between m) {index : Nat → Number} {n : Nat}
    {bs : List Block} {es : List Event} (hbs : ContentTold index n bs es) : ∃ rs : List Response,
    Runs ⟨d, none⟩ es rs ⟨d.appendBlocks bs, none⟩ ∧ ContentShown bs rs ∧ ∀ r ∈ rs, r.AddsTo m := by
  induction hbs generalizing d with
  | nil n =>
      refine ⟨[], ?_, .nil, List.forall_mem_nil _⟩
      have hd : d.appendBlocks [] = d := by rw [Draft.appendBlocks, List.append_nil]
      rw [hd]
      exact .nil _
  | @cons n b bs es rest hb _ ih =>
      obtain ⟨rs, hrun, hshown, hrs⟩ := runs_block h hb
      obtain ⟨rs', hrun', hshown', hrs'⟩ := ih (h.appendBlocks [b])
      have hd : (d.appendBlocks [b]).appendBlocks bs = d.appendBlocks (b :: bs) := by
        simp only [Draft.appendBlocks, List.append_assoc, List.singleton_append]
      rw [hd] at hrun'
      refine ⟨rs ++ rs', hrun.append hrun', .cons hshown hshown', ?_⟩
      rw [List.forall_mem_append]
      exact ⟨hrs, hrs'⟩

theorem count_reported (first later : Option Number) :
    (Field.ofOption later).orElse ((Field.ofOption first).above (.value (.zero false)))
      = lastCount first later := by
  cases first <;> cases later <;> rfl

theorem unlessNull_null {α : Type} (f : Field α) : f.unlessNull .null = f := by
  cases f <;> rfl

/-- The end of a message: what its delta reports, and the message as a whole. -/
theorem runs_end {d : Draft} {m : Response} (h : d.Between m) (hcontent : d.content = m.content)
    (hreason : d.stopReason = .null) (hsequence : d.stopSequence = .null)
    {input output input' output' : Option Number} {usage : Option Usage}
    (hstart : d.usage = ⟨(Field.ofOption input).above (.value (.zero false)),
      (Field.ofOption output).above (.value (.zero false))⟩)
    (hdelta : usage = some ⟨.ofOption input', .ofOption output'⟩ ∨
      usage = none ∧ input' = none ∧ output' = none)
    (husage : m.usage = ⟨lastCount input input', lastCount output output'⟩) :
    ∃ s, Runs ⟨d, none⟩ [.messageDelta ⟨m.stopReason, m.stopSequence⟩ usage, .messageStop]
      [{ m with type := .value "message_stop" }] s := by
  have hreport : usage.getD ⟨.missing, .missing⟩ = ⟨.ofOption input', .ofOption output'⟩ := by
    rcases hdelta with rfl | ⟨rfl, rfl, rfl⟩ <;> rfl
  have hd : d.applyDelta ⟨m.stopReason, m.stopSequence⟩ usage
      = { d with
          stopReason := m.stopReason, stopSequence := m.stopSequence, usage := m.usage } := by
    simp only [Draft.applyDelta, hreport, hstart, husage, count_reported, hreason, hsequence,
      unlessNull_null]
  have hfirst : Runs ⟨d, none⟩ [.messageDelta ⟨m.stopReason, m.stopSequence⟩ usage] []
      ⟨d.applyDelta ⟨m.stopReason, m.stopSequence⟩ usage, none⟩ := by
    refine .single ?_
    show OnePass.advance (Except.bind (d.requireStarted _) _) = _
    rw [Draft.requireStarted_ok h.started]
    rfl
  have hlast : Runs ⟨d.applyDelta ⟨m.stopReason, m.stopSequence⟩ usage, none⟩ [.messageStop]
      [(d.applyDelta ⟨m.stopReason, m.stopSequence⟩ usage).build (.value "message_stop")]
      ⟨d.applyDelta ⟨m.stopReason, m.stopSequence⟩ usage, none⟩ := by
    have hstarted : (d.applyDelta ⟨m.stopReason, m.stopSequence⟩ usage).started = true := h.started
    refine .single ?_
    show OnePass.advance (Except.bind (Draft.requireStarted _ _) _) = _
    rw [Draft.requireStarted_ok hstarted]
    rfl
  have hbuild : (d.applyDelta ⟨m.stopReason, m.stopSequence⟩ usage).build (.value "message_stop")
      = { m with type := .value "message_stop" } := by
    rw [hd]
    simp only [Draft.build, Draft.respond, h.id, h.model, h.role, hcontent]
  rw [hbuild] at hlast
  exact ⟨_, hfirst.append hlast⟩

/-- The events of a message give its blocks as they come, and at the end the message. -/
theorem runs_message {m : Response} {index : Nat → Number} {es : List Event}
    (h : m.Told index es) (d : Draft) : ∃ (rs : List Response) (s : OnePass.State),
    Runs ⟨d, none⟩ es (rs ++ [{ m with type := .value "message_stop" }]) s ∧
      ContentShown m.content rs ∧ ∀ r ∈ rs, r.AddsTo m := by
  cases h with
  | @mk body input output input' output' usage hbody hdelta husage =>
      have hstart : Runs ⟨d, none⟩
          [.messageStart ⟨m.id, m.model, m.role, ⟨.ofOption input, .ofOption output⟩⟩] []
          ⟨Draft.start ⟨m.id, m.model, m.role, ⟨.ofOption input, .ofOption output⟩⟩, none⟩ :=
        .single rfl
      have hbetween : (Draft.start ⟨m.id, m.model, m.role,
          ⟨.ofOption input, .ofOption output⟩⟩).Between m := ⟨rfl, rfl, rfl, rfl, rfl⟩
      obtain ⟨rs, hrun, hshown, hrs⟩ := runs_content hbetween hbody
      obtain ⟨s, hend⟩ := runs_end (hbetween.appendBlocks m.content) (List.nil_append _) rfl rfl rfl
        hdelta husage
      exact ⟨rs, s, (hstart.append hrun).append hend, hshown, hrs⟩

/-! ## From events to payloads -/

/-- Payloads that carry events are accepted, and these are their events. -/
theorem Carries.accepted {ps : List Text} {es : List Event} (h : Carries ps es) :
    Accepted ps ∧ Event.decoded ps = es := by
  induction h with
  | nil => exact ⟨List.forall_mem_nil _, rfl⟩
  | done ps hmark => exact ⟨accepted_mark ps hmark, Event.decoded_mark ps hmark⟩
  | @event p e ps es hw hcontrol _ ih =>
      have hp := Event.parse_of_writes hw
      have hmark := trim_of_parse hp
      rw [accepted_cons ps hmark, Event.decoded_cons ps hmark hp, hcontrol, ih.2]
      exact ⟨⟨⟨e, hp⟩, ih.1⟩, rfl⟩
  | @control p e ps es hw hcontrol _ ih =>
      have hp := Event.parse_of_writes hw
      have hmark := trim_of_parse hp
      rw [accepted_cons ps hmark, Event.decoded_cons ps hmark hp, hcontrol, ih.2]
      exact ⟨⟨⟨e, hp⟩, ih.1⟩, rfl⟩

/-- Payloads give the responses of the events that they carry, and end as these do. -/
theorem Carries.run {ps : List Text} {es : List Event} (h : Carries ps es) (s : OnePass.State) :
    (onePayload.run s (ps.map .yield)).1.filterMap Act.item?
        = (onePass.run s (es.map .yield)).1.filterMap Act.item? ∧
      (onePayload.run s (ps.map .yield)).2.failure
        = (onePass.run s (es.map .yield)).2.failure := by
  obtain ⟨haccepted, rfl⟩ := h.accepted
  exact run_decoded haccepted s

/-- Payloads that write events one by one carry those of them that are no control events. -/
theorem Carries.of_events {es : List Event} (h : ∀ e ∈ es, e.Writes e.toJson.render) :
    Carries (es.map fun e => e.toJson.render) (es.filter fun e => !e.isControl) := by
  induction es with
  | nil => exact .nil
  | cons e es ih =>
      rw [List.forall_mem_cons] at h
      cases hcontrol : e.isControl with
      | true =>
          rw [List.filter_cons_of_neg (by simp [hcontrol])]
          exact .control h.1 hcontrol (ih h.2)
      | false =>
          rw [List.filter_cons_of_pos (by simp [hcontrol])]
          exact .event h.1 hcontrol (ih h.2)

/-- The reduction gives back the message that a stream tells. It does not fail, its last item is the
message, and before that it gives the blocks one after another: a text in pieces, a call at once. -/
theorem reduceStream_told {m : Response} {index : Nat → Number} {events : List Event}
    (hm : m.Told index events) {payloads : List Text} (hp : Carries payloads events) :
    (reduceStream (.ofList payloads none)).failure = none ∧
    ∃ rs : List Response,
      (reduceStream (.ofList payloads none)).items
        = rs ++ [{ m with type := .value "message_stop" }] ∧
      ContentShown m.content rs ∧ ∀ r ∈ rs, r.AddsTo m := by
  obtain ⟨rs, s, hrun, hshown, hrs⟩ := runs_message hm .blank
  obtain ⟨hitems, hfailure⟩ := hp.run .start
  have hevents : onePass.run .start (events.map .yield)
      = ((rs ++ [{ m with type := .value "message_stop" }]).map .yield, .running s) := hrun
  rw [hevents] at hitems hfailure
  rw [reduceStream_ofList]
  refine ⟨hfailure, rs, ?_, hshown, hrs⟩
  rw [Flow.items, hitems, List.filterMap_map]
  exact List.filterMap_some

/-- A message of a text and a tool call. -/
def weatherMessage : Response where
  id := "m1"
  type := .missing
  role := "assistant"
  model := "claude"
  content := [.text "Hi!", .toolUse ⟨"t1", "weather", [("loc", .str "SF")]⟩]
  stopReason := .value "tool_use"
  stopSequence := .null
  usage := ⟨.value (.ofNat 3), .value (.ofNat 5)⟩

/-- Events that tell the message, with a control event inside of the tool call. -/
def weatherStream : List Event :=
  [.messageStart ⟨"m1", "claude", "assistant", ⟨.value (.ofNat 3), .missing⟩⟩,
    .blockStart (.ofNat 0) (.text "H"), .blockDelta (.ofNat 0) (.text "i!"),
    .blockStop (.ofNat 0), .blockStart (.ofNat 1) (.toolUse "t1" "weather"),
    .blockDelta (.ofNat 1) (.inputJson "\x7b\"loc\":"), .ping,
    .blockDelta (.ofNat 1) (.inputJson "\"SF\"\x7d"), .blockStop (.ofNat 1),
    .messageDelta ⟨.value "tool_use", .null⟩ (some ⟨.missing, .value (.ofNat 5)⟩), .messageStop]

theorem weatherStream_told :
    weatherMessage.Told Number.ofNat (weatherStream.filter fun e => !e.isControl) := by
  have htext : (Block.text "Hi!").Told (.ofNat 0)
      [.blockStart (.ofNat 0) (.text "H"), .blockDelta (.ofNat 0) (.text "i!"),
        .blockStop (.ofNat 0)] := .text "H" ["i!"]
  have hspelled : SpelledBy [("loc", .str "SF")] ["\x7b\"loc\":", "\"SF\"\x7d"] :=
    Or.inl (by decide +kernel)
  have htool : (Block.toolUse ⟨"t1", "weather", [("loc", .str "SF")]⟩).Told (.ofNat 1)
      [.blockStart (.ofNat 1) (.toolUse "t1" "weather"),
        .blockDelta (.ofNat 1) (.inputJson "\x7b\"loc\":"),
        .blockDelta (.ofNat 1) (.inputJson "\"SF\"\x7d"), .blockStop (.ofNat 1)] :=
    @Block.Told.toolUse _ ⟨"t1", "weather", [("loc", .str "SF")]⟩ _ rfl hspelled
  exact @Response.Told.mk Number.ofNat weatherMessage _ (some (.ofNat 3)) none none
    (some (.ofNat 5)) _ (.cons htext (.cons htool (.nil 2))) (Or.inl rfl) rfl

theorem weatherStream_carried :
    Carries (weatherStream.map fun e => e.toJson.render)
      (weatherStream.filter fun e => !e.isControl) := by
  have hcount : ∀ n ∈ [0, 1, 3, 5], (Number.ofNat n).IsCount := by decide +kernel
  simp only [List.forall_mem_cons] at hcount
  obtain ⟨h0, h1, h3, h5, -⟩ := hcount
  have hparse : ∀ e ∈ weatherStream, Json.parse? e.toJson.render = some e.toJson := by
    decide +kernel
  have hsendable : ∀ e ∈ weatherStream, e.Sendable := by
    simp only [weatherStream, List.forall_mem_cons]
    refine ⟨⟨Or.inr ⟨_, h3, rfl⟩, Or.inl rfl⟩, h0, h0, h0, ⟨h1, by decide, by decide⟩, h1, trivial,
      h1, h1, ⟨nofun, nofun, ?_⟩, trivial, List.forall_mem_nil _⟩
    intro u hu
    obtain rfl := Option.some.inj hu
    exact ⟨Or.inl rfl, Or.inr ⟨_, h5, rfl⟩⟩
  exact .of_events fun e he => Event.writes_render (hsendable e he) (hparse e he)

/-- The reduction of the stream gives the message. -/
theorem reduceStream_told_weather :
    weatherMessage.Told Number.ofNat (weatherStream.filter fun e => !e.isControl) ∧
    Carries (weatherStream.map fun e => e.toJson.render)
      (weatherStream.filter fun e => !e.isControl) ∧
    ∃ rs : List Response,
      (reduceStream (.ofList (weatherStream.map fun e => e.toJson.render) none)).items
        = rs ++ [{ weatherMessage with type := .value "message_stop" }] ∧
      ContentShown weatherMessage.content rs := by
  obtain ⟨-, rs, hitems, hshown, -⟩ := reduceStream_told weatherStream_told weatherStream_carried
  exact ⟨weatherStream_told, weatherStream_carried, rs, hitems, hshown⟩

end ChatRelay
