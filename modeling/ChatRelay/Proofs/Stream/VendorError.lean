import ChatRelay.Proofs.Stream.Decoding
import ChatRelay.Proofs.Stream.Steps

/-!
# Errors of the vendor

An error event ends the responses where it stands, in every state of the machine (`react_error`):
outside of a tool block as an error of the vendor, inside of one as well unless a violation of the
block is noted, which then comes first. Whether one is noted can be read off the events: `ToolBlock`
follows the block that is open and what it has received, and `Follows` ties it to the open call.
-/

namespace ChatRelay

/-- A tool block that is open: its index and the events since its start. -/
structure ToolBlock where
  index : Number
  received : List Event
  deriving DecidableEq

namespace ToolBlock

/-- The tool block that is open behind an event. -/
def behind : Option ToolBlock → Event → Option ToolBlock
  | none, .blockStart index (.toolUse _ _) => some ⟨index, []⟩
  | none, _ => none
  | some _, .blockStop _ => none
  | some _, .error _ _ => none
  | some block, e => some { block with received := block.received ++ [e] }

/-- The tool block that some events leave open. -/
def ofEvents (es : List Event) : Option ToolBlock := es.foldl behind none

/-- The block has received nothing but fragments of its own input. -/
def Clean (block : ToolBlock) : Prop := ∀ e ∈ block.received, e.isFragmentOf block.index = true

instance (block : ToolBlock) : Decidable block.Clean :=
  inferInstanceAs (Decidable (∀ e ∈ block.received, e.isFragmentOf block.index = true))

/-- The open call of the machine stands for the open block: a violation is noted exactly if the
block has received something else than its fragments. -/
inductive Follows : Option ToolBlock → Option OpenCall → Prop
  | closed : Follows none none
  | isOpen {block : ToolBlock} {call : OpenCall} : call.tool.index = block.index →
      (call.violation = none ↔ block.Clean) → Follows (some block) (some call)

variable {b : Option ToolBlock} {block : ToolBlock} {s s' : OnePass.State} {call : OpenCall}
  {e : Event} {out : List (Act Effect Response)}

theorem clean_append (block : ToolBlock) (e : Event) :
    Clean { block with received := block.received ++ [e] }
      ↔ block.Clean ∧ e.isFragmentOf block.index = true := by
  simp only [Clean, List.mem_append, List.mem_singleton]
  constructor
  · intro h
    exact ⟨fun x hx => h x (.inl hx), h e (.inr rfl)⟩
  · rintro ⟨h, he⟩ x (hx | rfl)
    · exact h x hx
    · exact he

theorem Follows.extend (hindex : call.tool.index = block.index)
    (hclean : call.violation = none ↔ block.Clean) (fragment : Text) :
    Follows (some { block with
        received := block.received ++ [.blockDelta block.index (.inputJson fragment)] })
      (some (call.extend fragment)) := by
  refine .isOpen hindex ?_
  rw [clean_append]
  exact hclean.trans (and_iff_left (decide_eq_true rfl)).symm

theorem Follows.note (hindex : call.tool.index = block.index)
    (he : e.isFragmentOf block.index = false) (v : Violation) :
    Follows (some { block with received := block.received ++ [e] }) (some (call.note v)) := by
  refine .isOpen hindex ?_
  rw [clean_append, he]
  simp [call.note_noted v]

theorem Follows.unnoted_iff {call : Option OpenCall} (h : Follows b call) :
    (∀ c ∈ call, c.violation = none) ↔ ∀ block, b = some block → block.Clean := by
  cases h with
  | closed => simp
  | isOpen _ hclean => simpa using hclean

/-! ## One event -/

theorem behind_taken {d d' : Draft} {r : Response} (h : d.applyEvent e = .ok (d', r)) :
    behind none e = none := by
  cases Draft.takes_of_applyEvent h <;> rfl

theorem behind_broken (hstop : ∀ index, e ≠ .blockStop index)
    (herror : ∀ type message, e ≠ .error type message) :
    behind (some block) e = some { block with received := block.received ++ [e] } := by
  cases e with
  | blockStop index => exact absurd rfl (hstop index)
  | error type message => exact absurd rfl (herror type message)
  | _ => rfl

theorem Follows.step (hfollows : Follows b s.call) (h : OnePass.Steps s e s' out) :
    Follows (behind b e) s'.call := by
  cases h with
  | opens index id name =>
      cases hfollows
      refine .isOpen rfl ?_
      simp [Clean]
  | taken hd =>
      cases hfollows
      rw [behind_taken hd]
      exact .closed
  | fragment t =>
      cases hfollows with
      | isOpen hindex hclean =>
          rw [hindex]
          exact .extend hindex hclean t
  | broken v hfragment hstop herror =>
      cases hfollows with
      | isOpen hindex hclean =>
          rw [behind_broken hstop herror]
          exact .note hindex (hindex ▸ hfragment) v
  | finished =>
      cases hfollows
      exact .closed

/-! ## A run over payloads -/

/-- A machine that still waits has its open call follow the events of the payloads. -/
theorem follows_run {payloads : List Text} (hfollows : Follows b s.call)
    (h : onePayload.run s (payloads.map .yield) = (out, .running s')) :
    Follows ((Event.decoded payloads).foldl behind b) s'.call := by
  have hstart : Follows (([] : List Event).foldl behind b) s.call := hfollows
  refine onePayload_keeps (P := fun past s => Follows (past.foldl behind b) s.call) ?_ hstart h
  intro past s p e s' out hpast _ hsteps
  rw [List.foldl_append]
  exact hpast.step hsteps

end ToolBlock

/-- Payloads without the mark let the machine wait, or end the responses with a failure. -/
theorem run_unmarked {payloads : List Text} (hmark : ∀ p ∈ payloads, p.trim ≠ Sse.doneMark)
    (s : OnePass.State) :
    (∃ s', (onePayload.run s (payloads.map .yield)).2 = .running s') ∨
      ∃ f, (onePayload.run s (payloads.map .yield)).2 = .ended (some f) := by
  induction payloads generalizing s with
  | nil => exact .inl ⟨s, rfl⟩
  | cons p payloads ih =>
      obtain ⟨hp, hpayloads⟩ := List.forall_mem_cons.mp hmark
      rw [List.map_cons]
      cases hreact : onePayload.react s p with
      | next t more =>
          rw [Stage.run_yield_next hreact]
          exact ih hpayloads t
      | stop more f =>
          rw [Stage.run_yield_stop hreact]
          cases onePayload_reads hreact with
          | mark h => exact absurd h hp
          | refused => exact .inr ⟨_, rfl⟩
          | stop _ _ _ hstep =>
              obtain ⟨g, rfl⟩ := Option.ne_none_iff_exists'.mp (onePass_stop hstep)
              exact .inr ⟨g, rfl⟩

/-- An error event ends the responses, and with the error of the vendor unless a violation of the
open tool block comes first. -/
theorem react_error (s : OnePass.State) (type message : Text) :
    ∃ f, onePass.react s (.error type message) = .stop [] (some f) ∧
      (f = .vendor type message ↔ ∀ call ∈ s.call, call.violation = none) := by
  obtain ⟨d, _ | call⟩ := s
  · exact ⟨.vendor type message, rfl, by simp⟩
  · cases hv : call.violation with
    | none =>
        refine ⟨.vendor type message, ?_, by simp [hv]⟩
        simp only [onePass, OnePass.inside, hv]
    | some v =>
        refine ⟨.violation v, ?_, by simp [hv]⟩
        simp only [onePass, OnePass.inside, hv]

/-- The run over payloads with an error event ends there, with a failure that the payloads before it
decide. -/
theorem run_vendorError {before : List Text} {p : Text} {type message : Text}
    (hmark : ∀ q ∈ before, q.trim ≠ Sse.doneMark)
    (hp : Event.parse p = .ok (.error type message)) :
    ∃ f, (∀ after : List Text, onePayload.run .start ((before ++ p :: after).map .yield)
        = ((onePayload.run .start (before.map .yield)).1, .ended (some f))) ∧
      ((onePayload.run .start (before.map .yield)).2.failure = none →
        (f = .vendor type message ↔
          ∀ block, ToolBlock.ofEvents (Event.decoded before) = some block → block.Clean)) := by
  rcases run_unmarked hmark .start with ⟨s, hs⟩ | ⟨f, hf⟩
  · obtain ⟨f, hreact, hvendor⟩ := react_error s type message
    have hpayload : onePayload.react s p = .stop [] (some f) := by
      rw [onePayload_event (trim_of_parse hp) hp rfl, hreact]
    have hrun : onePayload.run .start (before.map .yield)
        = ((onePayload.run .start (before.map .yield)).1, .running s) := by
      rw [← hs]
    refine ⟨f, ?_, ?_⟩
    · intro after
      rw [List.map_append, Stage.run_append, hrun, Stage.resume, List.map_cons,
        Stage.run_yield_stop hpayload, List.append_nil]
    · intro _
      rw [hvendor]
      exact (ToolBlock.follows_run .closed hrun).unnoted_iff
  · -- The payloads before the error fail themselves; the error is not read.
    have hrun : onePayload.run .start (before.map .yield)
        = ((onePayload.run .start (before.map .yield)).1, .ended (some f)) := by
      rw [← hf]
    refine ⟨f, ?_, ?_⟩
    · intro after
      rw [List.map_append, Stage.run_append, hrun, Stage.resume]
    · intro hnone
      rw [hf] at hnone
      cases hnone

/-- An error event is never lost: the reduction fails with the responses to the payloads before it,
whatever stands behind it. It fails with the error of the vendor, if the payloads before it do not
fail, exactly if the tool block that they leave open has received fragments of its input alone. -/
theorem reduceStream_vendorError {before : List Text} {p : Text} {type message : Text}
    (hmark : ∀ q ∈ before, q.trim ≠ Sse.doneMark)
    (hp : Event.parse p = .ok (.error type message)) (after : List Text)
    (failure : Option Failure) :
    (reduceStream (.ofList (before ++ p :: after) failure)).failure ≠ none ∧
    (reduceStream (.ofList (before ++ p :: after) failure)).items
      = (reduceStream (.ofList before none)).items ∧
    (∀ after' failure', reduceStream (.ofList (before ++ p :: after) failure)
      = reduceStream (.ofList (before ++ p :: after') failure')) ∧
    ((reduceStream (.ofList before none)).failure = none →
      ((reduceStream (.ofList (before ++ p :: after) failure)).failure
          = some (.vendor type message) ↔
        ∀ block, ToolBlock.ofEvents (Event.decoded before) = some block → block.Clean)) := by
  obtain ⟨f, hrun, hvendor⟩ := run_vendorError hmark hp
  have hwhole (after : List Text) (failure : Option Failure) :
      reduceStream (.ofList (before ++ p :: after) failure)
        = ⟨(onePayload.run .start (before.map .yield)).1, some f⟩ := by
    rw [reduceStream_eq_close, hrun]
    rfl
  refine ⟨?_, ?_, ?_, ?_⟩
  · rw [hwhole]
    exact Option.some_ne_none f
  · rw [hwhole, reduceStream_ofList]
    rfl
  · intro after' failure'
    rw [hwhole, hwhole]
  · intro hnone
    rw [reduceStream_ofList] at hnone
    rw [hwhole, Option.some.injEq]
    exact hvendor hnone

/-- Payloads that leave a tool block open, in the middle of its input. -/
def halfPainted : List Text :=
  [(Event.messageStart
      ⟨"m1", "claude", "assistant", ⟨.value (.ofNat 10), .value (.ofNat 1)⟩⟩).payload,
    (Event.blockStart (.ofNat 1) (.toolUse "t1" "paint")).payload,
    (Event.blockDelta (.ofNat 1) (.inputJson "\x7b\"colour\":")).payload]

theorem reduceStream_vendorError_halfPainted :
    Event.parse (Event.error "overloaded_error" "Overloaded").payload
        = .ok (.error "overloaded_error" "Overloaded") ∧
      (reduceStream (.ofList
        (halfPainted ++ [(Event.error "overloaded_error" "Overloaded").payload, "?"])
        (some (.foreign "Error" "reset")))).failure
          = some (.vendor "overloaded_error" "Overloaded") := by
  have hp : Event.parse (Event.error "overloaded_error" "Overloaded").payload
      = .ok (.error "overloaded_error" "Overloaded") :=
    Event.parse_of_writes (Event.writes_render trivial (by decide +kernel))
  have hmark : ∀ q ∈ halfPainted, q.trim ≠ Sse.doneMark := by decide +kernel
  obtain ⟨-, -, -, hvendor⟩ := reduceStream_vendorError hmark hp ["?"]
    (some (.foreign "Error" "reset"))
  have hopen : ToolBlock.ofEvents (Event.decoded halfPainted)
      = some ⟨.ofNat 1, [.blockDelta (.ofNat 1) (.inputJson "\x7b\"colour\":")]⟩ := by
    decide +kernel
  refine ⟨hp, (hvendor (by decide +kernel)).mpr ?_⟩
  intro block hblock
  rw [hopen] at hblock
  cases hblock
  decide +kernel

end ChatRelay
