import ChatRelay.Proofs.Event.Reading
import ChatRelay.Proofs.Stream.Steps
import ChatRelay.Proofs.Stream.Windows

/-!
# What windows fold to

The fold over events knows nothing of windows: a plain event takes the place of whatever came before,
also of finished tool calls, and a fold that stops early leaves a call under way. Over a window of
the splitter neither can happen. The fold of a block that is still open has its call under way and
nothing finished (`Event.Unclosed.fold`), and the event that closes the window either finishes that
call or fails. So a window folds to its only event or to one finished call (`Event.Window.fold`).

A payload never declares a block or delta of an unknown kind by the name of a known one
(`Event.parse_kindKept`). Both facts together say what the message is ever asked to take, and that it
never finds a part of a tool call among it (`reduceStream_folds`).
-/

namespace ChatRelay

/-- Whether content that is not handled is said to be a part of a tool call. -/
def Unsupported.isTool : Unsupported → Bool
  | .block type _ => type = "tool_use"
  | .delta type _ => type = "input_json_delta"
  | _ => false

namespace Merged

/-- The events of a tool block that is complete: its start, fragments of its input, its stop. -/
def toolBlock (index : Number) (id name : Text) (fragments : List Text) : List Event :=
  .blockStart index (.toolUse id name) ::
    fragments.map (fun t => .blockDelta index (.inputJson t)) ++ [.blockStop index]

/-- What a window may fold to: its only event, which is no part of a tool call, or the finished call
of a complete block. -/
inductive Folded : List Event → Merged → Prop
  | event {e : Event} : e.startsTool = false → (∀ index, e.isFragmentOf index = false) →
      Folded [e] (.event e)
  | call (index : Number) (id name : Text) (fragments : List Text) :
      Folded (toolBlock index id name fragments)
        (.tools ⟨none, [OpenTool.finished ⟨index, id, name, fragments.flatten⟩]⟩)

/-- A window whose fold gives one of these, and never has a finished call before its last event. -/
structure Sound (w : List Event) : Prop where
  folded : ∀ m, (ofWindow w).2 = .ok m → Folded w m
  kept : ∀ before e after a, w = before ++ e :: after → (ofWindow before).2 = .ok (.tools a) →
    a.finished = []

/-! ## The fold over a block -/

variable {previous m : Merged} {e : Event} {es : List Event} {tool : OpenTool}

theorem mergeAll_cons_eq_ok (h : (mergeAll previous (e :: es)).2 = .ok m) :
    ∃ next entries, previous.merge e = .ok (next, entries) ∧ (mergeAll next es).2 = .ok m := by
  rw [mergeAll] at h
  cases hnext : previous.merge e with
  | error f => rw [hnext] at h; cases h
  | ok r =>
      rw [hnext] at h
      exact ⟨r.1, r.2, rfl, h⟩

theorem mergeAll_concat_eq_ok (h : (mergeAll previous (es ++ [e])).2 = .ok m) :
    ∃ mid entries, (mergeAll previous es).2 = .ok mid ∧ mid.merge e = .ok (m, entries) := by
  rw [mergeAll_append] at h
  cases hes : mergeAll previous es with
  | mk entries result =>
      cases result with
      | error f => rw [hes] at h; cases h
      | ok mid =>
          cases hm : mid.merge e with
          | error f => simp only [hes, hm] at h; cases h
          | ok r =>
              simp only [hes, hm] at h
              cases h
              exact ⟨mid, r.2, rfl, hm⟩

/-- A call under way takes fragments of its own input and its own stop, and fails at all else. -/
theorem merge_open_eq_ok {entries : List Log.Entry}
    (h : (tools ⟨some tool, []⟩).merge e = .ok (m, entries)) :
    (∃ t, e = .blockDelta tool.index (.inputJson t) ∧
        m = .tools ⟨some { tool with partialJson := tool.partialJson ++ t }, []⟩) ∨
      e = .blockStop tool.index ∧ m = .tools ⟨none, [tool.finished]⟩ := by
  cases e with
  | blockStart index block => cases block <;> cases h
  | blockDelta index delta =>
      cases delta with
      | inputJson t =>
          by_cases hindex : tool.index = index
          · rw [merge_fragment hindex] at h
            cases h
            exact .inl ⟨t, by rw [hindex], rfl⟩
          · rw [merge_fragment_other hindex] at h
            cases h
      | _ => cases h
  | blockStop index =>
      by_cases hindex : tool.index = index
      · rw [merge_stop hindex] at h
        cases h
        exact .inr ⟨by rw [hindex], rfl⟩
      · rw [merge_stop_other hindex] at h
        cases h
  | _ => cases h

/-- As long as no event closes the block, all of them are fragments of the call under way. -/
theorem mergeAll_inner (hes : ∀ e ∈ es, e.closesTool = false)
    (h : (mergeAll (.tools ⟨some tool, []⟩) es).2 = .ok m) :
    ∃ fragments : List Text,
      es = fragments.map (fun t => .blockDelta tool.index (.inputJson t)) ∧
      m = .tools ⟨some { tool with partialJson := tool.partialJson ++ fragments.flatten }, []⟩ := by
  induction es generalizing tool with
  | nil =>
      cases h
      exact ⟨[], rfl, by rw [List.flatten_nil, List.append_nil]⟩
  | cons e es ih =>
      obtain ⟨he, hinner⟩ := List.forall_mem_cons.mp hes
      obtain ⟨next, entries, hnext, hrest⟩ := mergeAll_cons_eq_ok h
      obtain ⟨t, rfl, rfl⟩ | ⟨rfl, -⟩ := merge_open_eq_ok hnext
      · obtain ⟨fragments, rfl, rfl⟩ := ih hinner hrest
        exact ⟨t :: fragments, rfl, by rw [List.flatten_cons, List.append_assoc]⟩
      · cases he

theorem ofWindow_start (index : Number) (id name : Text) (es : List Event) :
    (ofWindow (.blockStart index (.toolUse id name) :: es)).2
      = (mergeAll (.tools ⟨some ⟨index, id, name, []⟩, []⟩) es).2 := rfl

/-- An event that starts no call, with nothing under way. -/
theorem merge_empty_eq_ok {entries : List Log.Entry} (hstarts : e.startsTool = false)
    (h : (tools .empty).merge e = .ok (m, entries)) :
    m = .event e ∧ ∀ index, e.isFragmentOf index = false := by
  cases e with
  | blockStart index block =>
      cases block with
      | toolUse id name => cases hstarts
      | _ => cases h; exact ⟨rfl, fun _ => rfl⟩
  | blockDelta index delta =>
      cases delta with
      | inputJson t => cases h
      | _ => cases h; exact ⟨rfl, fun _ => rfl⟩
  | _ => cases h; exact ⟨rfl, fun _ => rfl⟩

end Merged

/-! ## The fold over a window -/

namespace Event

open Merged

theorem startsTool_eq_true {e : Event} (h : e.startsTool = true) :
    ∃ index id name, e = .blockStart index (.toolUse id name) := by
  cases e with
  | blockStart index block =>
      cases block with
      | toolUse id name => exact ⟨index, id, name, rfl⟩
      | _ => cases h
  | _ => cases h

/-- An open block has its call under way, if it has not failed, and nothing finished. -/
theorem Unclosed.fold {es : List Event} (h : Unclosed es) {m : Merged}
    (hm : (ofWindow es).2 = .ok m) : ∃ call, m = .tools ⟨call, []⟩ := by
  cases h with
  | nothing => cases hm; exact ⟨none, rfl⟩
  | block hfirst hinner =>
      obtain ⟨index, id, name, rfl⟩ := startsTool_eq_true hfirst
      rw [ofWindow_start] at hm
      obtain ⟨fragments, -, rfl⟩ := mergeAll_inner hinner hm
      exact ⟨_, rfl⟩

/-- Before its last event, a window is an open block. -/
theorem Window.before {before after : List Event} {e : Event}
    (h : Window (before ++ e :: after)) : Unclosed before := by
  generalize hw : before ++ e :: after = w at h
  cases before with
  | nil => exact .nothing
  | cons b before =>
      cases h with
      | single =>
          have hlength := congrArg List.length hw
          simp at hlength
      | @block first last inner hfirst hinner =>
          obtain ⟨rfl, hrest⟩ : b = first ∧ before ++ e :: after = inner ++ [last] :=
            List.cons.inj hw
          -- The last event of the window is the last one behind `before`.
          have hbefore : before <+: inner := by
            have hlonger : before <+: inner ++ [last] := ⟨e :: after, hrest⟩
            refine List.prefix_of_prefix_length_le hlonger (List.prefix_append _ _) ?_
            have hlength := congrArg List.length hrest
            simp only [List.length_append, List.length_cons, List.length_nil] at hlength
            omega
          exact .block hfirst fun x hx => hinner x (hbefore.subset hx)

/-- A window that can be folded gives its only event or one finished call. -/
theorem Window.fold {w : List Event} (h : Window w) {m : Merged} (hm : (ofWindow w).2 = .ok m) :
    Folded w m := by
  cases h with
  | @single e hstarts =>
      obtain ⟨_, entries, hmerge, hnil⟩ := mergeAll_cons_eq_ok hm
      cases hnil
      obtain ⟨rfl, hfragment⟩ := merge_empty_eq_ok hstarts hmerge
      exact .event hstarts hfragment
  | @block first last inner hfirst hinner hlast =>
      obtain ⟨index, id, name, rfl⟩ := startsTool_eq_true hfirst
      rw [List.cons_append, ofWindow_start] at hm
      obtain ⟨mid, entries, hmid, hmerge⟩ := mergeAll_concat_eq_ok hm
      obtain ⟨fragments, rfl, rfl⟩ := mergeAll_inner hinner hmid
      obtain ⟨t, rfl, -⟩ | ⟨rfl, rfl⟩ := merge_open_eq_ok hmerge
      · cases hlast
      · exact .call index id name fragments

theorem Window.sound {w : List Event} (h : Window w) : Sound w where
  folded _ hm := h.fold hm
  kept before e after a hw ha := by
    subst hw
    obtain ⟨call, hcall⟩ := h.before.fold ha
    cases hcall
    rfl

end Event

/-! ## What the message is asked to take -/

namespace Merged

/-- A merged event that leaves nothing of a tool call to the message: no call under way, exactly one
finished call if it is one, and no part of a call that the message would have to refuse. -/
structure Ready (m : Merged) : Prop where
  tools : ∀ a, m = .tools a → a.isOpen = false ∧ ∃ call, a.finished = [call]
  refused : ∀ (d : Draft) u, d.apply m = .error (.unsupported u) → u.isTool = false

theorem Folded.ready {w : List Event} {m : Merged} (h : Folded w m)
    (hw : ∀ e ∈ w, e.KindKept) : m.Ready := by
  cases h with
  | call index id name fragments =>
      constructor
      · intro a ha
        cases ha
        exact ⟨rfl, _, rfl⟩
      · exact fun d u hu => absurd hu (d.apply_tools_ne_unsupported _ u)
  | @event e hstarts hfragment =>
      have hkept : e.KindKept := hw e List.mem_cons_self
      constructor
      · exact nofun
      · intro d u hu
        obtain ⟨index, block, rfl, rfl⟩ | ⟨index, delta, rfl, rfl⟩ :=
          Draft.applyEvent_unsupported hu
        · cases block with
          | text t => rfl
          | toolUse id name => cases hstarts
          | unsupported kind => exact decide_eq_false hkept.2
        · cases delta with
          | text t => rfl
          | inputJson t => exact absurd rfl (decide_eq_false_iff_not.mp (hfragment index))
          | unsupported kind => exact decide_eq_false hkept.2

/-! ## The failures of a fold -/

theorem absorb_ne_unsupported (tools : Option Aggregate) (e : Event) (u : Unsupported) :
    absorb tools e ≠ .error (.unsupported u) := by
  unfold absorb
  split
  · nofun
  · split
    · split <;> nofun
    · nofun
    · nofun

theorem merge_ne_unsupported (previous : Merged) (e : Event) (u : Unsupported) :
    previous.merge e ≠ .error (.unsupported u) := by
  unfold merge
  split
  · split <;> nofun
  · split <;> nofun
  · exact absorb_ne_unsupported _ _ u

theorem mergeAll_ne_unsupported (previous : Merged) (es : List Event) (u : Unsupported) :
    (mergeAll previous es).2 ≠ .error (.unsupported u) := by
  induction es generalizing previous with
  | nil => nofun
  | cons e es ih =>
      rw [mergeAll]
      cases hnext : previous.merge e with
      | error f =>
          intro hf
          cases hf
          exact merge_ne_unsupported previous e u hnext
      | ok r => exact ih r.1

end Merged

/-! ## The reduction, stage by stage -/

/-- The windows of a stream of payloads. -/
def windowsOfPayloads (payloads : Flow Effect Text) : Flow Effect (List Event) :=
  payloads.through Sse.untilDone |>.through decodeEvents |>.through toolSplitter.windows

theorem decodeEvents_item {s : Unit} {p : Text} {e : Event}
    (h : e ∈ (decodeEvents.react s p).acts.filterMap Act.item?) : Event.parse p = .ok e := by
  cases hp : Event.parse p with
  | error v => simp only [decodeEvents, hp] at h; cases h
  | ok e' =>
      cases hcontrol : e'.isControl with
      | true =>
          cases e' with
          | ping => simp only [decodeEvents, hp] at h; cases h
          | unknown type =>
              simp only [decodeEvents, hp, Reaction.acts, Act.items_logs] at h
              cases h
          | _ => cases hcontrol
      | false =>
          rw [decodeEvents_event hp hcontrol] at h
          rw [List.mem_singleton.mp h]

theorem decodeEvents_failure {s : Unit} {p : Text} {out : List (Act Effect Event)} {f : Failure}
    (h : decodeEvents.react s p = .stop out (some f)) : ∃ v, f = .violation v := by
  simp only [decodeEvents] at h
  split at h
  · cases h
    exact ⟨_, rfl⟩
  all_goals cases h

theorem respondToWindows_failure {d : Draft} {w : List Event} {out : List (Act Effect Response)}
    {f : Failure} (h : respondToWindows.react d w = .stop out (some f)) :
    (Merged.ofWindow w).2 = .error f ∨
      ∃ m, (Merged.ofWindow w).2 = .ok m ∧ d.apply m = .error f := by
  simp only [respondToWindows] at h
  split at h
  · cases h
    exact .inl ‹_›
  · split at h
    · cases h
      exact .inr ⟨_, ‹_›, ‹_›⟩
    · cases h

/-- The windows of a stream of payloads are windows of events that keep their kinds. -/
theorem window_of_payloads {payloads : Flow Effect Text} {w : List Event}
    (h : w ∈ (windowsOfPayloads payloads).items) : Event.Window w ∧ ∀ e ∈ w, e.KindKept := by
  rw [windowsOfPayloads, items_windows, ← windows_eq] at h
  have hcut := windowing_windows ((payloads.through Sse.untilDone).through decodeEvents).items
  refine ⟨hcut.closed w h, fun e he => ?_⟩
  have hread : e ∈ (decodeEvents.read () (payloads.through Sse.untilDone)).items := by
    rw [← Stage.through_eq_read _ decodeEvents, ← hcut.whole]
    exact List.mem_append_left _ (List.mem_flatten.mpr ⟨w, h, he⟩)
  obtain ⟨_, p, -, hitem⟩ | ⟨_, hend⟩ := Stage.mem_items_read hread
  · exact Event.parse_kindKept (decodeEvents_item hitem)
  · cases hend

/-- Windows fail with what their payloads fail with, or because a payload is no event. -/
theorem failure_windowsOfPayloads {payloads : Flow Effect Text} {f : Failure}
    (h : (windowsOfPayloads payloads).failure = some f) :
    payloads.failure = some f ∨ ∃ v, f = .violation v := by
  rw [windowsOfPayloads, Stage.through_eq_read] at h
  obtain hevents | ⟨_, e, -, out, hstop⟩ | ⟨_, hend⟩ := Stage.failure_read h
  · rw [Stage.through_eq_read] at hevents
    obtain htexts | ⟨_, p, -, out, hstop⟩ | ⟨_, hend⟩ := Stage.failure_read hevents
    · rw [Stage.through_eq_read] at htexts
      obtain hsource | ⟨_, p, -, out, hstop⟩ | ⟨_, hend⟩ := Stage.failure_read htexts
      · exact .inl hsource
      · simp only [Sse.untilDone] at hstop
        split at hstop <;> cases hstop
      · cases hend
    · exact .inr (decodeEvents_failure hstop)
    · cases hend
  · simp only [Splitter.windows] at hstop
    split at hstop <;> cases hstop
  · cases hend

/-- Every window of a list of events folds to its only event or to one finished call, if it does not
fail, and no finished call is lost on the way. So the message is never asked to take a call under
way, a window without a call, or a part of a call: the reduction never reports one as content that
is not handled. -/
theorem reduceStream_folds :
    (∀ events, ∀ w ∈ windows events, Merged.Sound w) ∧
      ∀ payloads : Flow Effect Text,
        reduceStream payloads = (windowsOfPayloads payloads).through respondToWindows ∧
        (∀ w ∈ (windowsOfPayloads payloads).items, Merged.Sound w ∧
          ∀ m, (Merged.ofWindow w).2 = .ok m → m.Ready) ∧
        ∀ u, u.isTool = true → (reduceStream payloads).failure = some (.unsupported u) →
          payloads.failure = some (.unsupported u) := by
  refine ⟨fun events w hw => ((windowing_windows events).closed w hw).sound, fun payloads => ?_⟩
  have hready : ∀ w ∈ (windowsOfPayloads payloads).items, Merged.Sound w ∧
      ∀ m, (Merged.ofWindow w).2 = .ok m → m.Ready := by
    intro w hw
    obtain ⟨hwindow, hkept⟩ := window_of_payloads hw
    exact ⟨hwindow.sound, fun m hm => (hwindow.fold hm).ready hkept⟩
  refine ⟨rfl, hready, fun u htool hfailure => ?_⟩
  rw [reduceStream, Stage.through_eq_read] at hfailure
  obtain hwindows | ⟨d, w, hw, out, hstop⟩ | ⟨_, hend⟩ := Stage.failure_read hfailure
  · obtain hsource | ⟨v, hv⟩ := failure_windowsOfPayloads hwindows
    · exact hsource
    · cases hv
  · obtain hfold | ⟨m, hm, happly⟩ := respondToWindows_failure hstop
    · exact absurd hfold (Merged.mergeAll_ne_unsupported _ w u)
    · have hfalse := ((hready w hw).2 m hm).refused d u happly
      rw [htool] at hfalse
      cases hfalse
  · cases hend

/-- The block of a call whose input comes in two fragments. -/
def paintBlock : List Event :=
  Merged.toolBlock (.ofNat 1) "t1" "paint" ["\x7b\"colour\":", "1\x7d"]

theorem reduceStream_folds_paint :
    windows (.messageStop :: paintBlock) = [[.messageStop], paintBlock] ∧
      ∃ m, (Merged.ofWindow paintBlock).2 = .ok m ∧ Merged.Folded paintBlock m := by
  have hwindows : windows (.messageStop :: paintBlock) = [[.messageStop], paintBlock] := by
    decide +kernel
  have hfolds : (Merged.ofWindow paintBlock).2.toBool = true := by decide +kernel
  refine ⟨hwindows, ?_⟩
  cases hfold : (Merged.ofWindow paintBlock).2 with
  | error f => rw [hfold] at hfolds; cases hfolds
  | ok m =>
      have hmem : paintBlock ∈ windows (.messageStop :: paintBlock) := by
        rw [hwindows]
        exact List.mem_cons_of_mem _ List.mem_cons_self
      exact ⟨m, rfl, (reduceStream_folds.1 _ paintBlock hmem).folded m hfold⟩

end ChatRelay
