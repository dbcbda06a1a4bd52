import ChatRelay.Proofs.Stream.Decoding
import ChatRelay.Proofs.Stream.Draft

/-!
# The steps of the machine

`Steps` lists what an event can do that does not end the responses: outside of a tool block it opens
one or is taken by the message, and inside of one it adds a fragment, breaks the contract of the
block or finishes the call. These are all the steps there are (`steps_of_react`): what a message has
been told, which responses show it and which block is open are read off them. What every step keeps
holds behind the events of any payloads (`onePayload_keeps`).
-/

namespace ChatRelay

/-- The tool call of a block whose input is complete. -/
def OpenTool.finished (call : OpenTool) : ToolUse := ⟨call.id, call.name, call.input.1⟩

/-- The response, if it is one that is shown. -/
def Response.shown (r : Response) : List Response := if r.type.value?.isSome then [r] else []

theorem OpenCall.note_noted (call : OpenCall) (v : Violation) : (call.note v).violation ≠ none := by
  rw [note]
  cases call.violation with
  | none => exact Option.some_ne_none v
  | some w => exact Option.some_ne_none w

/-- Whether an event adds to the input of the tool block with an index. -/
def Event.isFragmentOf (index : Number) : Event → Bool
  | .blockDelta i (.inputJson _) => i = index
  | _ => false

namespace OnePass

/-- An event that leads from one state to another, and what is put out meanwhile. -/
inductive Steps : State → Event → State → List (Act Effect Response) → Prop
  | opens {d : Draft} (index : Number) (id name : Text) :
      Steps ⟨d, none⟩ (.blockStart index (.toolUse id name))
        ⟨d, some ⟨⟨index, id, name, []⟩, none⟩⟩ []
  | taken {d d' : Draft} {e : Event} {r : Response} : d.applyEvent e = .ok (d', r) →
      Steps ⟨d, none⟩ e ⟨d', none⟩ (r.shown.map .yield)
  | fragment {d : Draft} {call : OpenCall} (t : Text) :
      Steps ⟨d, some call⟩ (.blockDelta call.tool.index (.inputJson t))
        ⟨d, some (call.extend t)⟩ []
  | broken {d : Draft} {call : OpenCall} {e : Event} (v : Violation) :
      e.isFragmentOf call.tool.index = false → (∀ index, e ≠ .blockStop index) →
      (∀ type message, e ≠ .error type message) →
      Steps ⟨d, some call⟩ e ⟨d, some (call.note v)⟩ []
  | finished {d : Draft} {call : OpenCall} : call.violation = none → d.started = true →
      Steps ⟨d, some call⟩ (.blockStop call.tool.index)
        ⟨d.appendBlocks [.toolUse call.tool.finished], none⟩
        (Act.logs call.tool.input.2 ++ [.yield
          ((d.appendBlocks [.toolUse call.tool.finished]).respond (.value "tool_use")
            [.toolUse call.tool.finished])])

variable {s s' : State} {d : Draft} {call : OpenCall} {e : Event} {out : List (Act Effect Response)}

theorem steps_advance (h : advance (d.applyEvent e) = .next s' out) :
    Steps ⟨d, none⟩ e s' out := by
  cases hd : d.applyEvent e with
  | error f => rw [hd] at h; cases h
  | ok p =>
      obtain ⟨d', r⟩ := p
      rw [hd] at h
      cases h
      have hshown : (if r.type.value?.isSome then [Act.yield r] else [] : List (Act Effect Response))
          = r.shown.map .yield := by
        rw [Response.shown]
        split <;> rfl
      rw [hshown]
      exact .taken hd

theorem steps_outside (h : outside d e = .next s' out) : Steps ⟨d, none⟩ e s' out := by
  unfold outside at h
  split at h
  · cases h
    exact .opens ..
  · cases h
  · exact steps_advance h

theorem steps_finish {index : Number} (hindex : call.tool.index = index)
    (hviolation : call.violation = none) (h : finish d call.tool = .next s' out) :
    Steps ⟨d, some call⟩ (.blockStop index) s' out := by
  subst hindex
  rw [finish] at h
  split at h
  · cases h
    exact .finished hviolation ‹_›
  · cases h

theorem steps_inside (h : inside d call e = .next s' out) : Steps ⟨d, some call⟩ e s' out := by
  unfold inside at h
  split at h
  case h_1 index =>
    split at h
    · cases h
    · split at h
      · exact steps_finish ‹_› ‹_› h
      · cases h
  case h_2 => split at h <;> cases h
  case h_3 index t =>
    split at h
    case isTrue hindex =>
      subst hindex
      cases h
      exact .fragment t
    case isFalse hindex =>
      cases h
      exact .broken _ (decide_eq_false fun hsame => hindex hsame.symm) nofun nofun
  case h_4 =>
    cases h
    exact .broken _ rfl nofun nofun
  case h_5 hstop herror hfragment _ =>
    cases h
    refine .broken _ ?_ hstop herror
    unfold Event.isFragmentOf
    split
    · exact (hfragment _ _ rfl).elim
    · rfl

theorem steps_of_react (h : onePass.react s e = .next s' out) : Steps s e s' out := by
  obtain ⟨d, _ | call⟩ := s
  · exact steps_outside h
  · exact steps_inside h

end OnePass

/-- What the steps keep holds, behind payloads, of the events so far and the state they lead to. -/
theorem onePayload_keeps {P : List Event → OnePass.State → Prop}
    (hstep : ∀ (past : List Event) (s : OnePass.State) (p : Text) (e : Event) (s' : OnePass.State)
      (out : List (Act Effect Response)), P past s → Event.parse p = .ok e →
      OnePass.Steps s e s' out → P (past ++ [e]) s')
    {payloads : List Text} {past : List Event} {s s' : OnePass.State}
    {out : List (Act Effect Response)} (hstart : P past s)
    (h : onePayload.run s (payloads.map .yield) = (out, .running s')) :
    P (past ++ Event.decoded payloads) s' := by
  induction payloads generalizing past s out with
  | nil =>
      cases h
      rw [Event.decoded_nil, List.append_nil]
      exact hstart
  | cons p payloads ih =>
      rw [List.map_cons] at h
      obtain ⟨t, more, rest, hreact, hrun, -⟩ := Stage.run_yield_running h
      cases onePayload_reads hreact with
      | control _ hmark hp hcontrol =>
          rw [Event.decoded_cons payloads hmark hp, if_pos hcontrol]
          exact ih hstart hrun
      | @next e _ _ hmark hp hcontrol hnext =>
          have htaken := hstep past s p e t more hstart hp (OnePass.steps_of_react hnext)
          rw [Event.decoded_cons payloads hmark hp, hcontrol, if_neg Bool.false_ne_true,
            ← List.append_assoc]
          exact ih htaken hrun

end ChatRelay
