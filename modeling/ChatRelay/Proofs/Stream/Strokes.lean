import ChatRelay.Proofs.Stream.Decoding
import ChatRelay.Proofs.Stream.Steps

/-!
# What a stream writes, stroke by stroke

A tool block changes the message only where it stops, and all at once; any other event changes it
where it stands. `strokes` takes the events of a stream together in this way: an event outside of
tool blocks is a stroke of its own, and so is a whole tool block. A tool block that is never stopped
is no stroke, nor is anything behind its start.

`Draft.Writes` says that a draft takes strokes one after another, and which responses show them. A
reduction that does not fail is such a sequence (`reduceStream_writes`): this is where statements
about the message as a whole start.
-/

namespace ChatRelay

/-! ## Strokes -/

/-- What changes a message at once: an event outside of tool blocks, or a whole tool block with the
fragments of its input joined. -/
inductive Stroke where
  | event (e : Event)
  | tool (call : OpenTool)
  deriving DecidableEq

/-- The strokes of events that may begin inside of a tool block. -/
def strokesFrom : Option OpenTool → List Event → List Stroke
  | _, [] => []
  | none, .blockStart index (.toolUse id name) :: es => strokesFrom (some ⟨index, id, name, []⟩) es
  | none, e :: es => .event e :: strokesFrom none es
  | some call, .blockStop _ :: es => .tool call :: strokesFrom none es
  | some call, .blockDelta index (.inputJson t) :: es =>
    if call.index = index then
      strokesFrom (some { call with partialJson := call.partialJson ++ t }) es
    else strokesFrom (some call) es
  | some call, _ :: es => strokesFrom (some call) es

/-- The strokes of events. -/
def strokes (es : List Event) : List Stroke := strokesFrom none es

/-- What a draft takes for a stroke. -/
def Stroke.merged : Stroke → Merged
  | .event e => .event e
  | .tool call => .tools ⟨none, [call.finished]⟩

/-- A draft takes strokes one after another, which gives responses and leads to another draft. -/
inductive Draft.Writes : Draft → List Stroke → List Response → Draft → Prop
  | nil (d : Draft) : Writes d [] [] d
  | cons {d d' d'' : Draft} {s : Stroke} {ss : List Stroke} {r : Response} {rs : List Response} :
      d.apply s.merged = .ok (d', r) → Writes d' ss rs d'' →
      Writes d (s :: ss) (r.shown ++ rs) d''

/-! ## Runs without failure -/

/-- The responses that a run gives. -/
def OnePass.responses (s : OnePass.State) (es : List Event) : List Response :=
  (onePass.run s (es.map .yield)).1.filterMap Act.item?

/-- A run does not fail. -/
def OnePass.Succeeds (s : OnePass.State) (es : List Event) : Prop :=
  (onePass.run s (es.map .yield)).2.failure = none

namespace OnePass

variable {s s' : State} {d : Draft} {e : Event} {es : List Event}

theorem Succeeds.next (h : Succeeds s (e :: es)) :
    ∃ s' out, onePass.react s e = .next s' out ∧ Succeeds s' es ∧
      responses s (e :: es) = out.filterMap Act.item? ++ responses s' es := by
  rw [Succeeds, List.map_cons] at h
  rw [responses, List.map_cons]
  cases hreact : onePass.react s e with
  | next s' out =>
      rw [Stage.run_yield_next hreact] at h ⊢
      exact ⟨s', out, rfl, h, List.filterMap_append⟩
  | stop out f =>
      rw [Stage.run_yield_stop hreact] at h
      exact absurd h (onePass_stop hreact)

theorem strokesFrom_taken {d' : Draft} {r : Response} (h : d.applyEvent e = .ok (d', r))
    (es : List Event) : strokesFrom none (e :: es) = .event e :: strokesFrom none es := by
  cases Draft.takes_of_applyEvent h <;> rfl

theorem strokesFrom_broken {tool : OpenTool} (hfragment : e.isFragmentOf tool.index = false)
    (hstop : ∀ index, e ≠ .blockStop index) :
    strokesFrom (some tool) (e :: es) = strokesFrom (some tool) es := by
  cases e with
  | blockStop index => exact absurd rfl (hstop index)
  | blockDelta index delta =>
      cases delta with
      | inputJson t =>
          have hindex : tool.index ≠ index := fun h => of_decide_eq_false hfragment h.symm
          rw [strokesFrom, if_neg hindex]
      | _ => rfl
  | blockStart index block => cases block <;> rfl
  | _ => rfl

/-- A run without failure writes the strokes of its events. -/
theorem Succeeds.writes (h : Succeeds s es) :
    ∃ d', s.draft.Writes (strokesFrom (s.call.map OpenCall.tool) es) (responses s es) d' := by
  induction es generalizing s with
  | nil => exact ⟨s.draft, by cases s.call <;> exact .nil _⟩
  | cons e es ih =>
      obtain ⟨s', out, hreact, hrest, hresponses⟩ := h.next
      obtain ⟨d', hwrites⟩ := ih hrest
      rw [hresponses]
      -- An event opens a tool block, is part of one, ends one, or is a stroke of its own.
      cases steps_of_react hreact with
      | opens index id name => exact ⟨d', hwrites⟩
      | taken hd =>
          rw [Act.items_yields, Option.map_none, strokesFrom_taken hd]
          exact ⟨d', .cons hd hwrites⟩
      | @fragment _ call t =>
          have hstrokes : strokesFrom (some call.tool)
                (.blockDelta call.tool.index (.inputJson t) :: es)
              = strokesFrom (some (call.extend t).tool) es := by
            rw [strokesFrom, if_pos rfl]
            rfl
          rw [Option.map_some, hstrokes]
          exact ⟨d', hwrites⟩
      | broken v hfragment hstop =>
          rw [Option.map_some, strokesFrom_broken hfragment hstop]
          exact ⟨d', hwrites⟩
      | @finished d call _ hstarted =>
          have happly : d.apply (Stroke.tool call.tool).merged
              = .ok (d.appendBlocks [.toolUse call.tool.finished],
                (d.appendBlocks [.toolUse call.tool.finished]).respond (.value "tool_use")
                  [.toolUse call.tool.finished]) := by
            show Except.bind (d.requireStarted _) _ = _
            rw [Draft.requireStarted_ok hstarted]
            rfl
          rw [List.filterMap_append, Act.items_logs]
          exact ⟨d', .cons happly hwrites⟩

end OnePass

/-- A reduction that does not fail has accepted its payloads and writes the strokes of their events,
from the blank message on. -/
theorem reduceStream_writes {payloads : List Text}
    (h : (reduceStream (.ofList payloads none)).failure = none) :
    Accepted payloads ∧ ∃ d, Draft.blank.Writes (strokes (Event.decoded payloads))
      (reduceStream (.ofList payloads none)).items d := by
  rw [reduceStream_ofList] at h ⊢
  have haccepted := accepted_of_run h
  obtain ⟨hitems, hfailure⟩ := run_decoded haccepted .start
  have hsucceeds : OnePass.Succeeds .start (Event.decoded payloads) := hfailure.symm.trans h
  rw [Flow.items, hitems]
  exact ⟨haccepted, hsucceeds.writes⟩

end ChatRelay
