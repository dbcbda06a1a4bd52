import ChatRelay.ChatModel
import ChatRelay.Proofs.Reply.Block
import ChatRelay.Proofs.Stream.Message

/-!
# Streamed answers and whole ones

A caller gets an answer either whole (`Response.generation`), read off the complete message, or in
chunks (`ChatModel.chunks`), made of the increments as they arrive, with a running number for the
tool calls. `Agrees` says when chunks and tokens tell what a whole answer says.

Three facts bring the two together. The blocks of one response come out with their text and their
numbered calls (`telling_ofBlocks`). Responses in a row come out like their blocks in a row
(`run_increments`), so that it does not matter how blocks are spread over responses. And responses
that show a content have its text and its calls (`ContentShown.text`, `ContentShown.tools`).
-/

namespace ChatRelay

/-! ## What a caller is told -/

/-- The text that a listener is told. -/
def ModelEffect.token? : ModelEffect → Option Text
  | .token t => some t
  | .source _ => none

def Act.token? (act : Act ModelEffect ModelChunk) : Option Text :=
  act.effect?.bind ModelEffect.token?

/-- Whether a chunk is a piece of text, and neither a tool call nor the end of a message. -/
def ModelChunk.isPiece (c : ModelChunk) : Bool :=
  c.toolCall.isNone && c.usage.isNone && c.ending.isNone

/-- A tool call as a chunk carries it, when it is number `i` of the message. -/
def ToolUse.toChunk (tool : ToolUse) (i : Nat) : ToolCallChunk :=
  ⟨tool.id, tool.name, (Json.obj tool.input).render, i⟩

/-- Chunks and tokens that tell what a whole answer says. -/
structure Agrees (flow : Flow ModelEffect ModelChunk) (answer : Generation) : Prop where
  text : flow.items.flatMap ModelChunk.text = answer.text
  calls : flow.items.filterMap ModelChunk.toolCall
    = answer.toolCalls.mapIdx fun i tool => tool.toChunk i
  ids : ∀ c ∈ flow.items, c.id = answer.id
  ends : ∃ (front : List ModelChunk) (last : ModelChunk), flow.items = front ++ [last] ∧
    last.usage = some answer.usage ∧ last.ending = some answer.ending ∧
    ∀ c ∈ front, c.usage = none ∧ c.ending = none
  tokens : flow.effects.filterMap ModelEffect.token?
    = (flow.items.filter ModelChunk.isPiece).map ModelChunk.text

/-! ## Blocks in a row -/

/-- Acts that give the text and the calls of blocks, the first call under the number `next`, and
nothing about the end of a message. -/
structure Telling (id : Text) (next : Nat) (bs : List Block)
    (acts : List (Act ModelEffect ModelChunk)) : Prop where
  text : (acts.filterMap Act.item?).flatMap ModelChunk.text = bs.flatMap Block.textPart
  calls : (acts.filterMap Act.item?).filterMap ModelChunk.toolCall
    = (bs.filterMap Block.tool?).mapIdx fun i tool => tool.toChunk (next + i)
  ids : ∀ c ∈ acts.filterMap Act.item?, c.id = id
  inner : ∀ c ∈ acts.filterMap Act.item?, c.usage = none ∧ c.ending = none
  tokens : acts.filterMap Act.token?
    = ((acts.filterMap Act.item?).filter ModelChunk.isPiece).map ModelChunk.text

/-- The number of the first tool call behind some blocks. -/
def numberAfter (next : Nat) (bs : List Block) : Nat := next + (bs.filterMap Block.tool?).length

theorem numberAfter_append (next : Nat) (bs more : List Block) :
    numberAfter next (bs ++ more) = numberAfter (numberAfter next bs) more := by
  rw [numberAfter, numberAfter, numberAfter, List.filterMap_append, List.length_append,
    Nat.add_assoc]

theorem Telling.nil (id : Text) (next : Nat) : Telling id next [] [] :=
  ⟨rfl, rfl, List.forall_mem_nil _, List.forall_mem_nil _, rfl⟩

theorem Telling.append {id : Text} {next : Nat} {bs more : List Block}
    {acts rest : List (Act ModelEffect ModelChunk)} (h : Telling id next bs acts)
    (hmore : Telling id (numberAfter next bs) more rest) :
    Telling id next (bs ++ more) (acts ++ rest) := by
  constructor
  · rw [List.filterMap_append, List.flatMap_append, List.flatMap_append, h.text, hmore.text]
  · -- The calls of the second part are numbered behind those of the first one.
    have hshift :
        (more.filterMap Block.tool?).mapIdx
            (fun i tool => tool.toChunk (next + (i + (bs.filterMap Block.tool?).length)))
          = (more.filterMap Block.tool?).mapIdx
            fun i tool => tool.toChunk (numberAfter next bs + i) := by
      congr 1
      funext i tool
      rw [numberAfter, Nat.add_assoc, Nat.add_comm i]
    rw [List.filterMap_append, List.filterMap_append, List.filterMap_append, List.mapIdx_append,
      h.calls, hmore.calls, hshift]
  · rw [List.filterMap_append, List.forall_mem_append]
    exact ⟨h.ids, hmore.ids⟩
  · rw [List.filterMap_append, List.forall_mem_append]
    exact ⟨h.inner, hmore.inner⟩
  · rw [List.filterMap_append, List.filterMap_append, List.filter_append, List.map_append, h.tokens,
      hmore.tokens]

theorem telling_ofBlock (id : Text) (next : Nat) (b : Block) :
    (ModelChunk.ofBlock id next b).1 = numberAfter next [b] ∧
      Telling id next [b] (ModelChunk.ofBlock id next b).2 := by
  cases h : b.tool? with
  | none =>
      have hcount : [b].filterMap Block.tool? = [] := by
        rw [List.filterMap_cons_none h, List.filterMap_nil]
      have hacts : ModelChunk.ofBlock id next b = (next,
          [.yield { id := id, text := b.textPart }, .effect (.token b.textPart)]) := by
        rw [ModelChunk.ofBlock, h]
      rw [hacts]
      refine ⟨by rw [numberAfter, hcount]; rfl, rfl, ?_, ?_, ?_, rfl⟩
      · rw [hcount]
        rfl
      · exact List.forall_mem_singleton.mpr rfl
      · exact List.forall_mem_singleton.mpr ⟨rfl, rfl⟩
  | some tool =>
      have hcount : [b].filterMap Block.tool? = [tool] := by
        rw [List.filterMap_cons_some h, List.filterMap_nil]
      have htext : [b].flatMap Block.textPart = [] := by
        rw [List.flatMap_singleton, Block.textPart_of_tool h]
      have hacts : ModelChunk.ofBlock id next b = (next + 1,
          [.effect (.source (.log (.debug "Tool use received"
            [("id", some (.str tool.id)), ("name", some (.str tool.name))]))),
          .yield { id := id, toolCall := some (tool.toChunk next) }]) := by
        rw [ModelChunk.ofBlock, h]
        rfl
      rw [hacts]
      refine ⟨by rw [numberAfter, hcount]; rfl, htext.symm, ?_, ?_, ?_, rfl⟩
      · rw [hcount]
        rfl
      · exact List.forall_mem_singleton.mpr rfl
      · exact List.forall_mem_singleton.mpr ⟨rfl, rfl⟩

theorem telling_ofBlocks (id : Text) (next : Nat) (bs : List Block) :
    (ModelChunk.ofBlocks id next bs).1 = numberAfter next bs ∧
      Telling id next bs (ModelChunk.ofBlocks id next bs).2 := by
  induction bs generalizing next with
  | nil => exact ⟨rfl, .nil id next⟩
  | cons b bs ih =>
      obtain ⟨hnext, hb⟩ := telling_ofBlock id next b
      obtain ⟨hrest, hbs⟩ := ih (numberAfter next [b])
      rw [← hnext] at hrest hbs
      refine ⟨hrest.trans ?_, hb.append (hnext ▸ hbs)⟩
      rw [hnext]
      exact (numberAfter_append next [b] bs).symm

/-! ## Responses in a row -/

/-- Increments come out like their blocks in a row, and the numbers of the calls go on. -/
theorem run_increments {id : Text} {rs : List Response}
    (hrs : ∀ r ∈ rs, r.id = id ∧ r.isFinal = false) (next : Nat) :
    ∃ acts : List (Act ModelEffect ModelChunk),
      ModelChunk.stage.run next (rs.map .yield)
        = (acts, .running (numberAfter next (rs.flatMap Response.content))) ∧
      Telling id next (rs.flatMap Response.content) acts := by
  -- By induction on the responses; the state of the stage is the number of the next call.
  induction rs generalizing next with
  | nil => exact ⟨[], rfl, .nil id next⟩
  | cons r rs ih =>
      rw [List.forall_mem_cons] at hrs
      obtain ⟨⟨rfl, hopen⟩, hrest⟩ := hrs
      obtain ⟨hnext, hr⟩ := telling_ofBlocks r.id next r.content
      obtain ⟨acts, hrun, hacts⟩ := ih hrest (numberAfter next r.content)
      have hreact : ModelChunk.stage.react next r
          = .next (numberAfter next r.content) (ModelChunk.ofBlocks r.id next r.content).2 := by
        rw [← hnext]
        exact if_neg (by rw [hopen]; exact Bool.false_ne_true)
      refine ⟨(ModelChunk.ofBlocks r.id next r.content).2 ++ acts, ?_, ?_⟩
      · rw [List.map_cons, Stage.run_yield_next hreact, hrun, List.flatMap_cons,
          numberAfter_append]
      · rw [List.flatMap_cons]
        exact hr.append hacts

/-- The chunk with which a message ends. -/
def Response.lastChunk (r : Response) : ModelChunk :=
  { id := r.id, usage := some r.usage.totals, ending := some r.ending }

theorem run_message {id : Text} {rs : List Response} {final : Response}
    (hrs : ∀ r ∈ rs, r.id = id ∧ r.isFinal = false) (hfinal : final.isFinal = true) :
    ∃ (acts : List (Act ModelEffect ModelChunk)) (next : Nat),
      ModelChunk.stage.run 0 ((rs ++ [final]).map .yield)
        = (acts ++ [.yield final.lastChunk], .running next) ∧
      Telling id 0 (rs.flatMap Response.content) acts := by
  obtain ⟨acts, hrun, hacts⟩ := run_increments hrs 0
  have hreact (next : Nat) : ModelChunk.stage.react next final
      = .next next [.yield final.lastChunk] := if_pos hfinal
  refine ⟨acts, numberAfter 0 (rs.flatMap Response.content), ?_, hacts⟩
  rw [List.map_append]
  exact Stage.run_trans hrun (Stage.run_yield_next (hreact _) [])

/-! ## From a source to its chunks -/

section

variable {flow : Flow Effect Response} (hflow : flow.failure = none)

include hflow

theorem chunks_eq_run : ChatModel.chunks flow
    = ⟨(ModelChunk.stage.run 0 (flow.mapEffects ModelEffect.source).acts).1,
      (ModelChunk.stage.run 0 (flow.mapEffects ModelEffect.source).acts).2.failure⟩ := by
  have hfailure : (flow.mapEffects ModelEffect.source).failure = none := hflow
  rw [ChatModel.chunks, Stage.through_eq_read, Stage.read, hfailure]
  exact Stage.close_of_done (fun _ => rfl) _

/-- What a caller is told depends on the responses alone, not on what reading them does. -/
theorem chunks_of_items {γ : Type} {q : Act ModelEffect ModelChunk → Option γ}
    (hq : ∀ e, q (.effect (.source e)) = none) :
    (ChatModel.chunks flow).acts.filterMap q
        = (ModelChunk.stage.run 0 (flow.items.map .yield)).1.filterMap q ∧
      (ChatModel.chunks flow).failure
        = (ModelChunk.stage.run 0 (flow.items.map .yield)).2.failure := by
  have hitems : (flow.mapEffects ModelEffect.source).acts.filterMap Act.item? = flow.items := by
    rw [Flow.mapEffects, List.filterMap_map]
    congr 1
    funext act
    cases act <;> rfl
  have hsource : ∀ e ∈ (flow.mapEffects ModelEffect.source).acts.filterMap Act.effect?,
      q (.effect e) = none := by
    intro e he
    obtain ⟨act, hact, heq⟩ := List.mem_filterMap.mp he
    obtain ⟨given, -, rfl⟩ := List.mem_map.mp hact
    cases given with
    | effect source =>
        cases heq
        exact hq source
    | yield r => cases heq
  obtain ⟨hseen, hend⟩ := ModelChunk.stage.run_filterMap hsource 0
  rw [hitems] at hseen hend
  rw [chunks_eq_run hflow]
  exact ⟨hseen, congrArg Progress.failure hend⟩

/-- Increments with the text and the calls of a message, and then the message itself, make chunks
that agree with it. -/
theorem chunks_agree_of_items {rs : List Response} {final : Response}
    (hitems : flow.items = rs ++ [final]) (hfinal : final.isFinal = true)
    (hrs : ∀ r ∈ rs, r.id = final.id ∧ r.isFinal = false)
    (htext : (rs.flatMap Response.content).flatMap Block.textPart = final.text)
    (htools : (rs.flatMap Response.content).filterMap Block.tool?
      = final.content.filterMap Block.tool?) :
    (ChatModel.chunks flow).failure = none ∧
      Agrees (ChatModel.chunks flow) final.generation := by
  obtain ⟨acts, next, hrun, hacts⟩ := run_message hrs hfinal
  rw [← hitems] at hrun
  obtain ⟨hchunks, hend⟩ := chunks_of_items hflow (q := Act.item?) fun _ => rfl
  obtain ⟨htold, -⟩ := chunks_of_items hflow (q := Act.token?) fun _ => rfl
  rw [hrun, List.filterMap_append] at hchunks htold
  rw [hrun] at hend
  have hall : (ChatModel.chunks flow).items
      = acts.filterMap Act.item? ++ [final.lastChunk] := hchunks
  have htokens : (ChatModel.chunks flow).effects.filterMap ModelEffect.token?
      = acts.filterMap Act.token? ++ [] := by
    rw [Flow.effects, List.filterMap_filterMap]
    exact htold
  -- The last chunk has no text, no call and no token; what the others tell is `hacts`.
  refine ⟨hend, ?_, ?_, ?_, ?_, ?_⟩
  · rw [hall, List.flatMap_append, hacts.text, htext]
    exact List.append_nil final.text
  · have hcount (i : Nat) : 0 + i = i := Nat.zero_add i
    rw [hall, List.filterMap_append, hacts.calls, htools]
    simp only [hcount]
    exact List.append_nil _
  · rw [hall, List.forall_mem_append]
    exact ⟨hacts.ids, List.forall_mem_singleton.mpr rfl⟩
  · exact ⟨_, _, hall, rfl, rfl, hacts.inner⟩
  · rw [htokens, hall, List.filter_append, List.map_append, hacts.tokens]
    rfl

end

/-! ## The chunks of a reduction -/

theorem flatMap_content_of_pieces {rs : List Response} {pieces : List Text}
    (h : rs.map Response.content = pieces.map fun t => [Block.text t]) :
    rs.flatMap Response.content = pieces.map Block.text := by
  rw [List.flatMap_def, h, ← List.flatMap_def]
  exact List.map_eq_flatMap.symm

theorem Block.Shown.textPart_eq {b : Block} {rs : List Response} (h : b.Shown rs) :
    (rs.flatMap Response.content).flatMap Block.textPart = b.textPart := by
  cases h with
  | text pieces hcontent _ =>
      rw [flatMap_content_of_pieces hcontent, List.flatMap_map]
      exact List.flatMap_id
  | toolUse _ hcontent =>
      rw [List.flatMap_singleton, hcontent]
      rfl

theorem Block.Shown.tools_eq {b : Block} {rs : List Response} (h : b.Shown rs) :
    (rs.flatMap Response.content).filterMap Block.tool? = b.tool?.toList := by
  cases h with
  | text pieces hcontent _ =>
      rw [flatMap_content_of_pieces hcontent, List.filterMap_map]
      exact List.filterMap_eq_nil_iff.mpr fun _ _ => rfl
  | toolUse _ hcontent =>
      rw [List.flatMap_singleton, hcontent]
      rfl

/-- Responses that show a content have its text. -/
theorem ContentShown.text {bs : List Block} {rs : List Response} (h : ContentShown bs rs) :
    (rs.flatMap Response.content).flatMap Block.textPart = bs.flatMap Block.textPart := by
  induction h with
  | nil => rfl
  | cons hb _ ih =>
      rw [List.flatMap_append, List.flatMap_append, hb.textPart_eq, ih, List.flatMap_cons]

theorem ContentShown.tools {bs : List Block} {rs : List Response} (h : ContentShown bs rs) :
    (rs.flatMap Response.content).filterMap Block.tool? = bs.filterMap Block.tool? := by
  induction h with
  | nil => rfl
  | @cons b bs rs rest hb _ ih =>
      have hcons : (b :: bs).filterMap Block.tool?
          = b.tool?.toList ++ bs.filterMap Block.tool? := by
        cases hb' : b.tool? with
        | none => exact List.filterMap_cons_none hb'
        | some tool => exact List.filterMap_cons_some hb'
      rw [List.flatMap_append, List.filterMap_append, hb.tools_eq, ih, hcons]

/-- The reduction of payloads gives the responses of the events that they carry. -/
theorem Carries.reduceStream {ps : List Text} {es : List Event} {rs : List Response}
    {s : OnePass.State} (hp : Carries ps es) (h : Runs .start es rs s) :
    (ChatRelay.reduceStream (.ofList ps none)).items = rs ∧
      (ChatRelay.reduceStream (.ofList ps none)).failure = none := by
  obtain ⟨hitems, hfailure⟩ := hp.run .start
  rw [h] at hitems hfailure
  rw [reduceStream_ofList]
  refine ⟨?_, hfailure⟩
  rw [Flow.items, hitems, List.filterMap_map]
  exact List.filterMap_some

/-- A streamed answer and a whole one agree: the chunks of the reduction of a stream that tells a
message, and what is told a listener meanwhile, say what the message says as a whole answer. -/
theorem streamed_agrees {m : Response} {index : Nat → Number} {events : List Event}
    (hm : m.Told index events) {payloads : List Text} (hp : Carries payloads events) :
    (ChatModel.chunks (reduceStream (.ofList payloads none))).failure = none ∧
      Agrees (ChatModel.chunks (reduceStream (.ofList payloads none))) m.generation := by
  obtain ⟨rs, s, hrun, hshown, hrs⟩ := runs_message hm .blank
  obtain ⟨hitems, hfailure⟩ := hp.reduceStream hrun
  have hopen : ∀ r ∈ rs, r.id = m.id ∧ r.isFinal = false :=
    fun r hr => ⟨(hrs r hr).id, (hrs r hr).notFinal⟩
  have hagree := chunks_agree_of_items hfailure hitems (decide_eq_true rfl) hopen hshown.text
    hshown.tools
  exact hagree

/-- A text and a tool call, in two pieces and one chunk. -/
theorem streamed_agrees_weather :
    weatherMessage.Told Number.ofNat (weatherStream.filter fun e => !e.isControl) ∧
    Carries (weatherStream.map fun e => e.toJson.render)
      (weatherStream.filter fun e => !e.isControl) ∧
    Agrees (ChatModel.chunks (reduceStream
      (.ofList (weatherStream.map fun e => e.toJson.render) none))) weatherMessage.generation :=
  ⟨weatherStream_told, weatherStream_carried,
    (streamed_agrees weatherStream_told weatherStream_carried).2⟩

end ChatRelay
