import ChatRelay.Proofs.Stream.Stage
import ChatRelay.Stream.Reduction

/-!
# The reduction in one pass

The reduction cuts the events into windows, folds every window from an empty aggregate on, and only
then touches the message. `OnePass` does without the windows: it reads one event at a time and keeps
the message and at most one open call. Inside of a call nothing is evaluated before the call closes,
so a contract that is broken there is only noted, the first one for good, and reported at the end.

`windows_respond_eq_onePass` says that both give the same flow. The simulation relation is
`Matches`: the window under way folds to what the open call stands for, an aggregate with that call
under way or the noted violation.
-/

namespace ChatRelay

/-- A tool block whose stop has not arrived: the call with the fragments so far, and the first way
in which the events of the block broke the contract. -/
structure OpenCall where
  tool : OpenTool
  violation : Option Violation

namespace OpenCall

/-- Notes a violation, unless there is one already. -/
def note (call : OpenCall) (v : Violation) : OpenCall :=
  { call with violation := call.violation.or (some v) }

/-- Adds a fragment to the input. -/
def extend (call : OpenCall) (fragment : Text) : OpenCall :=
  { call with tool := { call.tool with partialJson := call.tool.partialJson ++ fragment } }

end OpenCall

namespace OnePass

/-- The message so far, and the open tool block if there is one. -/
structure State where
  draft : Draft
  call : Option OpenCall

/-- The state before the first event. -/
def State.start : State := ⟨.blank, none⟩

/-- One step of the message outside of a tool block. -/
def advance (result : Except Failure (Draft × Response)) : Reaction Effect State Response :=
  match result with
  | .error f => .stop [] (some f)
  | .ok (draft, response) =>
    .next ⟨draft, none⟩ (if response.type.value?.isSome then [.yield response] else [])

/-- The end of a tool block: the finished call goes into a message that has started. -/
def finish (draft : Draft) (tool : OpenTool) : Reaction Effect State Response :=
  let block := Block.toolUse ⟨tool.id, tool.name, tool.input.1⟩
  let draft' := draft.appendBlocks [block]
  if draft.started then
    .next ⟨draft', none⟩
      (Act.logs tool.input.2 ++ [.yield (draft'.respond (.value "tool_use") [block])])
  else .stop (Act.logs tool.input.2) (some (.violation (.beforeStart "tool_use_aggregate")))

/-- An event outside of a tool block. -/
def outside (draft : Draft) (e : Event) : Reaction Effect State Response :=
  match e with
  | .blockStart index (.toolUse id name) =>
    .next ⟨draft, some ⟨⟨index, id, name, []⟩, none⟩⟩ []
  | .blockDelta index (.inputJson _) => .stop [] (some (.violation (.fragmentOutsideTool index)))
  | e => advance (draft.applyEvent e)

/-- An event inside of a tool block. -/
def inside (draft : Draft) (call : OpenCall) (e : Event) : Reaction Effect State Response :=
  match e with
  | .blockStop index =>
    match call.violation with
    | some v => .stop [] (some (.violation v))
    | none =>
      if call.tool.index = index then finish draft call.tool
      else .stop [] (some (.violation (.stopOfOtherBlock index call.tool.index)))
  | .error type message =>
    match call.violation with
    | some v => .stop [] (some (.violation v))
    | none => .stop [] (some (.vendor type message))
  | .blockDelta index (.inputJson fragment) =>
    if call.tool.index = index then .next ⟨draft, some (call.extend fragment)⟩ []
    else .next ⟨draft, some (call.note (.fragmentOfOtherBlock index call.tool.index))⟩ []
  | .blockStart index (.toolUse id _) =>
    .next ⟨draft, some (call.note (.toolAlreadyOpen call.tool.id index id))⟩ []
  | e => .next ⟨draft, some (call.note (.insideTool e.type e.index?))⟩ []

end OnePass

/-- The machine that reads one event at a time. A block that is open at the end is dropped. -/
def onePass : Stage Effect OnePass.State Event Response where
  start := .start
  react s e :=
    match s.call with
    | none => OnePass.outside s.draft e
    | some call => OnePass.inside s.draft call e
  finish _ := .done

namespace Merged

/-! ## The fold over a window, from its end -/

theorem mergeAll_append (previous : Merged) (window : List Event) (e : Event) :
    mergeAll previous (window ++ [e]) =
      match mergeAll previous window with
      | (entries, .error f) => (entries, .error f)
      | (entries, .ok m) =>
        match m.merge e with
        | .error f => (entries, .error f)
        | .ok (next, more) => (entries ++ more, .ok next) := by
  induction window generalizing previous with
  | nil =>
      simp only [List.nil_append, mergeAll]
      cases previous.merge e with
      | error f => rfl
      | ok r => simp
  | cons x window ih =>
      rw [List.cons_append, mergeAll, mergeAll]
      cases previous.merge x with
      | error f => rfl
      | ok r =>
          simp only [ih]
          obtain ⟨entries, f | m⟩ := mergeAll r.1 window
          · rfl
          · cases hm : m.merge e with
            | error f => simp [hm]
            | ok n => simp [hm, List.append_assoc]

/-! ## What an open call makes of the events of its block -/

theorem merge_fragment {tool : OpenTool} {index : Number} (h : tool.index = index)
    (fragment : Text) :
    (tools ⟨some tool, []⟩).merge (.blockDelta index (.inputJson fragment))
      = .ok (.tools ⟨some { tool with partialJson := tool.partialJson ++ fragment }, []⟩, []) := by
  simp [merge, aggregate?, Aggregate.append, h]

theorem merge_fragment_other {tool : OpenTool} {index : Number} (h : tool.index ≠ index)
    (fragment : Text) :
    (tools ⟨some tool, []⟩).merge (.blockDelta index (.inputJson fragment))
      = .error (.violation (.fragmentOfOtherBlock index tool.index)) := by
  simp [merge, aggregate?, Aggregate.append, h]

theorem merge_stop {tool : OpenTool} {index : Number} (h : tool.index = index) :
    (tools ⟨some tool, []⟩).merge (.blockStop index)
      = .ok (.tools ⟨none, [⟨tool.id, tool.name, tool.input.1⟩]⟩, tool.input.2) := by
  simp [merge, absorb, aggregate?, Aggregate.isOpen, Aggregate.close, Option.filter, h]

theorem merge_stop_other {tool : OpenTool} {index : Number} (h : tool.index ≠ index) :
    (tools ⟨some tool, []⟩).merge (.blockStop index)
      = .error (.violation (.stopOfOtherBlock index tool.index)) := by
  simp [merge, absorb, aggregate?, Aggregate.isOpen, Aggregate.close, Option.filter, h]

end Merged

/-! ## The windows, step by step -/

/-- The windows and what is made of them, as one stage. -/
def windowed : Stage Effect ((Bool × List Event) × Draft) Event Response :=
  toolSplitter.windows.andThen respondToWindows

/-- An event that leaves its window open only joins it. -/
theorem windowed_wait {s b : Bool} {e : Event} (h : e.splitStep s = (b, false))
    (window : List Event) (draft : Draft) :
    windowed.react ((s, window), draft) e = .next ((b, window ++ [e]), draft) [] := by
  refine Stage.andThen_silent [] ?_ respondToWindows draft
  simp only [Splitter.windows, toolSplitter, h, Bool.false_eq_true, if_false, List.map_nil]

/-- A window that folds to a failure ends the responses with it. -/
theorem respond_error {window : List Event} {entries : List Log.Entry} {f : Failure}
    (h : Merged.ofWindow window = (entries, .error f)) (draft : Draft) :
    respondToWindows.react draft window = .stop (Act.logs entries) (some f) := by
  simp only [respondToWindows, h]

/-! ## The simulation -/

/-- What the window of the block folds to. -/
def OpenCall.merged (call : OpenCall) : Except Failure Merged :=
  match call.violation with
  | none => .ok (.tools ⟨some call.tool, []⟩)
  | some v => .error (.violation v)

/-- The window under way folds to what the open block stands for. -/
inductive Matches : (Bool × List Event) × Draft → OnePass.State → Prop
  | outside (draft : Draft) : Matches ((false, []), draft) ⟨draft, none⟩
  | inside {window : List Event} {call : OpenCall} (draft : Draft) :
      Merged.ofWindow window = ([], call.merged) →
      Matches ((true, window), draft) ⟨draft, some call⟩

/-- The message after a window, and the machine outside of a tool block. -/
abbrev Settled (draft : Draft) (s : OnePass.State) : Prop := s = ⟨draft, none⟩

/-- An event that closes its window has the window answered. -/
theorem windowed_close {s : Bool} {e : Event} (h : e.splitStep s = (false, true))
    {window : List Event} {draft : Draft} {r : Reaction Effect OnePass.State Response}
    (hr : Reaction.Agree Settled (respondToWindows.react draft (window ++ [e])) r) :
    Reaction.Agree Matches (windowed.react ((s, window), draft) e) r := by
  have hw : toolSplitter.windows.react (s, window) e
      = .next (false, []) [.yield (window ++ [e])] := by
    simp only [Splitter.windows, toolSplitter, h, if_true]
  refine (Stage.andThen_yield hw hr).imp ?_
  rintro ⟨_, draft'⟩ t ⟨rfl, rfl⟩
  exact .outside draft'

/-- A window of one event that is no part of a tool block is one step of the message. -/
theorem respond_event {e : Event} (h : Merged.ofWindow [e] = ([], .ok (.event e)))
    (draft : Draft) :
    Reaction.Agree Settled (respondToWindows.react draft [e])
      (OnePass.advance (draft.applyEvent e)) := by
  simp only [respondToWindows, h, Draft.apply, Act.logs, List.map_nil, List.nil_append]
  cases draft.applyEvent e with
  | error f => exact .stop
  | ok r => exact .next rfl

/-- A window that folds to one finished call is the end of a tool block. -/
theorem respond_tool {window : List Event} {tool : OpenTool}
    (h : Merged.ofWindow window
      = (tool.input.2, .ok (.tools ⟨none, [⟨tool.id, tool.name, tool.input.1⟩]⟩)))
    (draft : Draft) :
    Reaction.Agree Settled (respondToWindows.react draft window)
      (OnePass.finish draft tool) := by
  simp only [respondToWindows, h, Draft.apply, Draft.requireStarted, OnePass.finish]
  cases hd : draft.started with
  | true => exact .next rfl
  | false => exact .stop

theorem Matches.react_outside (draft : Draft) (e : Event) :
    Reaction.Agree Matches (windowed.react ((false, []), draft) e)
      (OnePass.outside draft e) := by
  cases e with
  | blockStart index block =>
      cases block with
      | toolUse id name =>
          rw [windowed_wait rfl]
          exact .next (.inside draft rfl)
      | text t => exact windowed_close rfl (respond_event rfl draft)
      | unsupported type => exact windowed_close rfl (respond_event rfl draft)
  | blockDelta index delta =>
      cases delta with
      | inputJson fragment =>
          refine windowed_close rfl ?_
          rw [List.nil_append, respond_error rfl]
          exact .stop
      | text t => exact windowed_close rfl (respond_event rfl draft)
      | unsupported type => exact windowed_close rfl (respond_event rfl draft)
  | _ => exact windowed_close rfl (respond_event rfl draft)

/-- Once a violation is noted, no later event of the block changes what its window folds to. -/
theorem ofWindow_noted {window : List Event} {call : OpenCall} {v : Violation}
    (h : Merged.ofWindow window = ([], call.merged)) (hv : call.violation = some v) (e : Event) :
    Merged.ofWindow (window ++ [e]) = ([], .error (.violation v)) := by
  rw [Merged.ofWindow] at h ⊢
  simp only [Merged.mergeAll_append, h, OpenCall.merged, hv]

/-- As long as nothing is noted, the fold goes on with the call under way. -/
theorem ofWindow_open {window : List Event} {call : OpenCall}
    (h : Merged.ofWindow window = ([], call.merged)) (hv : call.violation = none) (e : Event) :
    Merged.ofWindow (window ++ [e]) =
      match (Merged.tools ⟨some call.tool, []⟩).merge e with
      | .error f => ([], .error f)
      | .ok (m, entries) => (entries, .ok m) := by
  rw [Merged.ofWindow] at h ⊢
  simp only [Merged.mergeAll_append, h, OpenCall.merged, hv, List.nil_append]

theorem OpenCall.merged_note (call : OpenCall) (v : Violation) :
    (call.note v).merged = .error (.violation (call.violation.getD v)) := by
  cases hv : call.violation with
  | none => simp only [note, merged, hv, Option.none_or, Option.getD_none]
  | some w => simp only [note, merged, hv, Option.some_or, Option.getD_some]

/-- An event that breaks the contract of the block under way is noted. -/
theorem Matches.note {window : List Event} {call : OpenCall} {e : Event} {v : Violation}
    (h : Merged.ofWindow window = ([], call.merged)) (hsplit : e.splitStep true = (true, false))
    (hmerge : (Merged.tools ⟨some call.tool, []⟩).merge e = .error (.violation v))
    (draft : Draft) :
    Reaction.Agree Matches (windowed.react ((true, window), draft) e)
      (.next ⟨draft, some (call.note v)⟩ []) := by
  rw [windowed_wait hsplit]
  refine .next (.inside draft ?_)
  rw [OpenCall.merged_note]
  cases hv : call.violation with
  | none => rw [ofWindow_open h hv, hmerge]; rfl
  | some w => rw [ofWindow_noted h hv]; rfl

/-- The last event of a block whose contract is broken reports the violation that is noted. -/
theorem Matches.close_noted {window : List Event} {call : OpenCall} {v : Violation}
    (h : Merged.ofWindow window = ([], call.merged)) (hv : call.violation = some v) {e : Event}
    (hsplit : e.splitStep true = (false, true)) (draft : Draft) :
    Reaction.Agree Matches (windowed.react ((true, window), draft) e)
      (.stop [] (some (.violation v))) := by
  refine windowed_close hsplit ?_
  rw [respond_error (ofWindow_noted h hv e)]
  exact .stop

theorem Matches.react_inside {window : List Event} {call : OpenCall}
    (h : Merged.ofWindow window = ([], call.merged)) (draft : Draft) (e : Event) :
    Reaction.Agree Matches (windowed.react ((true, window), draft) e)
      (OnePass.inside draft call e) := by
  cases e with
  | blockStart index block =>
      cases block with
      | toolUse id name => exact Matches.note h rfl rfl draft
      | text t => exact Matches.note h rfl rfl draft
      | unsupported type => exact Matches.note h rfl rfl draft
  | blockDelta index delta =>
      cases delta with
      | inputJson fragment =>
          simp only [OnePass.inside]
          by_cases hindex : call.tool.index = index
          · rw [if_pos hindex, windowed_wait rfl]
            refine .next (.inside draft ?_)
            -- The fragment is kept also where a violation is noted, and then it shows nowhere.
            cases hv : call.violation with
            | none =>
                rw [ofWindow_open h hv, Merged.merge_fragment hindex]
                simp only [OpenCall.merged, OpenCall.extend, hv]
            | some v =>
                rw [ofWindow_noted h hv]
                simp only [OpenCall.merged, OpenCall.extend, hv]
          · rw [if_neg hindex]
            exact Matches.note h rfl (Merged.merge_fragment_other hindex fragment) draft
      | text t => exact Matches.note h rfl rfl draft
      | unsupported type => exact Matches.note h rfl rfl draft
  | blockStop index =>
      simp only [OnePass.inside]
      cases hv : call.violation with
      | some v => exact Matches.close_noted h hv rfl draft
      | none =>
          refine windowed_close rfl ?_
          have hfold := ofWindow_open h hv (.blockStop index)
          by_cases hindex : call.tool.index = index
          · rw [Merged.merge_stop hindex] at hfold
            rw [if_pos hindex]
            exact respond_tool hfold draft
          · rw [Merged.merge_stop_other hindex] at hfold
            rw [if_neg hindex, respond_error hfold]
            exact .stop
  | error type message =>
      simp only [OnePass.inside]
      cases hv : call.violation with
      | some v => exact Matches.close_noted h hv rfl draft
      | none =>
          refine windowed_close rfl ?_
          rw [respond_error (ofWindow_open h hv (.error type message))]
          exact .stop
  | _ => exact Matches.note h rfl rfl draft

/-- Every event keeps the windows and the machine in step. -/
theorem Matches.react {s : (Bool × List Event) × Draft} {t : OnePass.State} (h : Matches s t)
    (e : Event) : Reaction.Agree Matches (windowed.react s e) (onePass.react t e) := by
  cases h with
  | outside draft => exact Matches.react_outside draft e
  | inside draft hfold => exact Matches.react_inside hfold draft e

/-- The responses to the windows of a stream of events are what the machine makes of the events. -/
theorem windows_respond_eq_onePass (events : Flow Effect Event) :
    (events.through toolSplitter.windows).through respondToWindows = events.through onePass := by
  rw [Stage.through_through]
  have hstart : Matches windowed.start onePass.start := Matches.outside .blank
  exact Stage.through_eq_of_simulation hstart (fun _ _ e h => Matches.react h e)
    (fun _ _ _ => rfl) events

/-- The reduction of a stream of payloads refines the machine: with or without windows, the
decoded events give the same responses, the same log entries and the same failure. -/
theorem reduceStream_eq_onePass (payloads : Flow Effect Text) :
    reduceStream payloads
      = ((payloads.through Sse.untilDone).through decodeEvents).through onePass :=
  windows_respond_eq_onePass ((payloads.through Sse.untilDone).through decodeEvents)

/-! ## From the payload on -/

/-- The machine with the decoding of payloads in front of it. -/
def onePayload : Stage Effect OnePass.State Text Response where
  start := .start
  react s payload :=
    if payload.trim = Sse.doneMark then .stop [] none
    else
      match Event.parse payload with
      | .error v => .stop [] (some (.violation v))
      | .ok (.unknown type) =>
        .next s (Act.logs [.debug "Skipping unrecognized stream event"
          [("eventType", some (.str type))]])
      | .ok .ping => .next s []
      | .ok e => onePass.react s e
  finish _ := .done

theorem decodeEvents_event {payload : Text} {e : Event} (hp : Event.parse payload = .ok e)
    (hcontrol : e.isControl = false) : decodeEvents.react () payload = .next () [.yield e] := by
  cases e with
  | ping => cases hcontrol
  | unknown type => cases hcontrol
  | _ => simp only [decodeEvents, hp]

theorem onePayload_event {payload : Text} (h : payload.trim ≠ Sse.doneMark) {e : Event}
    (hp : Event.parse payload = .ok e) (hcontrol : e.isControl = false) (s : OnePass.State) :
    onePayload.react s payload = onePass.react s e := by
  cases e with
  | ping => cases hcontrol
  | unknown type => cases hcontrol
  | _ => simp only [onePayload, if_neg h, hp]

/-- A payload that is not accepted ends the result with a failure. -/
theorem onePayload_error {p : Text} (hmark : p.trim ≠ Sse.doneMark) {v : Violation}
    (hp : Event.parse p = .error v) (s : OnePass.State) :
    onePayload.react s p = .stop [] (some (.violation v)) := by
  simp only [onePayload, if_neg hmark, hp]

/-- The decoding of a payload and the step on its event, as the machine takes both at once. -/
theorem decode_react (payload : Text) (h : payload.trim ≠ Sse.doneMark) (s : OnePass.State) :
    Reaction.Agree (fun state t => state.2 = t)
      ((decodeEvents.andThen onePass).react ((), s) payload) (onePayload.react s payload) := by
  cases hp : Event.parse payload with
  | error v =>
      have hd : decodeEvents.react () payload = .stop [] (some (.violation v)) := by
        simp only [decodeEvents, hp]
      rw [Stage.andThen_stop hd rfl]
      simp only [onePayload, if_neg h, hp]
      exact .stop
  | ok e =>
      cases e with
      | ping =>
          have hd : decodeEvents.react () payload = .next () [] := by
            simp only [decodeEvents, hp]
          rw [Stage.andThen_silent [] hd]
          simp only [onePayload, if_neg h, hp]
          exact .next rfl
      | unknown type =>
          have hd : decodeEvents.react () payload
              = .next () (Act.logs [.debug "Skipping unrecognized stream event"
                  [("eventType", some (.str type))]]) := by
            simp only [decodeEvents, hp]
          rw [Stage.andThen_silent [.log _] hd]
          simp only [onePayload, if_neg h, hp]
          exact .next rfl
      | _ =>
          rw [onePayload_event h hp rfl]
          exact (Stage.andThen_yield (decodeEvents_event hp rfl) (.refl _)).imp
            fun _ _ hstate => hstate.2

/-- The reduction of a stream of payloads is one stage. -/
theorem reduceStream_eq_onePayload (payloads : Flow Effect Text) :
    reduceStream payloads = payloads.through onePayload := by
  rw [reduceStream, windows_respond_eq_onePass, Stage.through_through, Stage.through_through]
  refine Stage.through_eq_of_simulation (R := fun state t => state.2.2 = t) rfl ?_
    (fun _ _ _ => rfl) payloads
  rintro ⟨_, _, s⟩ _ payload rfl
  by_cases h : payload.trim = Sse.doneMark
  · have hdone : Sse.untilDone.react () payload = .stop [] none := by
      simp only [Sse.untilDone, if_pos h]
    rw [Stage.andThen_stop hdone rfl]
    simp only [onePayload, if_pos h]
    exact .stop
  · have hpass : Sse.untilDone.react () payload = .next () [.yield payload] := by
      simp only [Sse.untilDone, if_neg h]
    exact (Stage.andThen_yield hpass (decode_react payload h s)).imp fun _ _ hstate => hstate.2

/-- The reduction of a finished list of payloads, by how far the machine comes. -/
theorem reduceStream_eq_close (payloads : List Text) (failure : Option Failure) :
    reduceStream (.ofList payloads failure)
      = onePayload.close failure (onePayload.run .start (payloads.map .yield)) := by
  rw [reduceStream_eq_onePayload, Stage.through_eq_read]
  rfl

/-- The responses of a reduction are put out by the run over its payloads, whatever the end. -/
theorem items_reduceStream (payloads : List Text) (failure : Option Failure) :
    (reduceStream (.ofList payloads failure)).items
      = (onePayload.run .start (payloads.map .yield)).1.filterMap Act.item? := by
  rw [reduceStream_eq_close, Flow.items]
  exact congrArg (List.filterMap Act.item?) (Stage.acts_close (fun _ => rfl) failure _)

theorem reduceStream_ofList (payloads : List Text) :
    reduceStream (.ofList payloads none) =
      ⟨(onePayload.run .start (payloads.map .yield)).1,
        (onePayload.run .start (payloads.map .yield)).2.failure⟩ := by
  rw [reduceStream_eq_close]
  exact Stage.close_of_done (fun _ => rfl) _

end ChatRelay
