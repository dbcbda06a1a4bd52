import ChatRelay.Proofs.Stream.VendorError

/-!
# A message that starts anew

The start of a message forgets everything before it: outside of a tool block the machine goes on from
a start event as it would from the beginning, whatever the draft holds by then (`BeginsMessage.read`).
Behind payloads that leave no tool block open the machine is outside of one (`run_settled`), so what
a stream gives splits at a start event into what its two parts give (`reduceStream_restart`). That
the first part has no mark is needed, because nothing behind a mark is read, and so is that it leaves
no tool block open: there, a start event breaks the contract of the block.
-/

namespace ChatRelay

/-- The first event of payloads starts a message; control events may stand before it. -/
inductive BeginsMessage : List Text → Prop
  | here {p : Text} {header : Header} (rest : List Text) :
      Event.parse p = .ok (.messageStart header) → BeginsMessage (p :: rest)
  | control {p : Text} {e : Event} {rest : List Text} :
      Event.parse p = .ok e → e.isControl = true → BeginsMessage rest → BeginsMessage (p :: rest)

theorem onePayload_messageStart {p : Text} {header : Header}
    (hp : Event.parse p = .ok (.messageStart header)) (d : Draft) :
    onePayload.react ⟨d, none⟩ p = .next ⟨Draft.start header, none⟩ [] := by
  rw [onePayload_event (trim_of_parse hp) hp rfl]
  rfl

/-- Outside of a tool block, the draft shows nowhere in what follows the start of a message. -/
theorem BeginsMessage.read {payloads : List Text} (h : BeginsMessage payloads) (d : Draft)
    (failure : Option Failure) :
    onePayload.read ⟨d, none⟩ (.ofList payloads failure)
      = onePayload.read .start (.ofList payloads failure) := by
  induction h with
  | here rest hp =>
      have hfrom := Stage.read_yield_next (onePayload_messageStart hp d) (rest.map .yield) failure
      have hblank :=
        Stage.read_yield_next (onePayload_messageStart hp .blank) (rest.map .yield) failure
      exact hfrom.trans hblank.symm
  | @control p e rest hp hcontrol _ ih =>
      obtain ⟨entries, -, hreact⟩ := onePayload_control (trim_of_parse hp) hp hcontrol
      have hfrom := Stage.read_yield_next (hreact ⟨d, none⟩) (rest.map .yield) failure
      have hblank := Stage.read_yield_next (hreact .start) (rest.map .yield) failure
      -- The note of a control event does not depend on the state, and the state stays.
      have hrest := congrArg (Flow.after (Act.logs entries)) ih
      exact hfrom.trans (hrest.trans hblank.symm)

/-- Payloads that do not end in a tool block leave the machine outside of one. -/
theorem run_settled {payloads : List Text}
    (hok : (reduceStream (.ofList payloads none)).failure = none)
    (hmark : ∀ p ∈ payloads, p.trim ≠ Sse.doneMark)
    (hclosed : ToolBlock.ofEvents (Event.decoded payloads) = none) :
    ∃ d : Draft, onePayload.run .start (payloads.map .yield)
      = ((reduceStream (.ofList payloads none)).acts, .running ⟨d, none⟩) := by
  rw [reduceStream_ofList] at hok ⊢
  rcases run_unmarked hmark .start with ⟨s, hs⟩ | ⟨f, hf⟩
  · have hrun : onePayload.run .start (payloads.map .yield)
        = ((onePayload.run .start (payloads.map .yield)).1, .running s) := by
      rw [← hs]
    have hfollows : ToolBlock.Follows (ToolBlock.ofEvents (Event.decoded payloads)) s.call :=
      ToolBlock.follows_run .closed hrun
    rw [hclosed] at hfollows
    obtain ⟨d, call⟩ := s
    cases hfollows
    exact ⟨d, hrun⟩
  · rw [hf] at hok
    cases hok

/-- Behind payloads that do not fail, have no mark and leave no tool block open, a message that
starts gives what it gives alone: its responses follow theirs, and the failure is its own. -/
theorem reduceStream_restart {before after : List Text} (failure : Option Failure)
    (hok : (reduceStream (.ofList before none)).failure = none)
    (hmark : ∀ p ∈ before, p.trim ≠ Sse.doneMark)
    (hclosed : ToolBlock.ofEvents (Event.decoded before) = none) (hbegins : BeginsMessage after) :
    reduceStream (.ofList (before ++ after) failure)
        = (reduceStream (.ofList after failure)).after (reduceStream (.ofList before none)).acts ∧
      (reduceStream (.ofList (before ++ after) failure)).items
        = (reduceStream (.ofList before none)).items
          ++ (reduceStream (.ofList after failure)).items ∧
      (reduceStream (.ofList (before ++ after) failure)).failure
        = (reduceStream (.ofList after failure)).failure := by
  obtain ⟨d, hrun⟩ := run_settled hok hmark hclosed
  have hsource : (Flow.ofList (before ++ after) failure : Flow Effect Text)
      = (Flow.ofList after failure).after (before.map .yield) := by
    rw [Flow.ofList, List.map_append]
    rfl
  have hwhole : reduceStream (.ofList (before ++ after) failure)
      = (reduceStream (.ofList after failure)).after
          (reduceStream (.ofList before none)).acts := by
    have hread := onePayload.read_after .start (before.map .yield) (.ofList after failure)
    rw [hrun] at hread
    rw [reduceStream_eq_onePayload (.ofList (before ++ after) failure), hsource,
      Stage.through_eq_read, reduceStream_eq_onePayload (.ofList after failure),
      Stage.through_eq_read]
    exact hread.trans (congrArg (Flow.after _) (hbegins.read d failure))
  refine ⟨hwhole, ?_, ?_⟩
  · rw [hwhole, Flow.items_after]
    rfl
  · rw [hwhole]
    rfl

/-- A message that is given up in the middle of a text, with counts and a stop reason. -/
def givenUp : List Text :=
  [(Event.messageStart
      ⟨"m1", "claude", "assistant", ⟨.value (.ofNat 10), .value (.ofNat 1)⟩⟩).payload,
    (Event.blockStart (.ofNat 0) (.text "a")).payload,
    (Event.messageDelta ⟨.value "max_tokens", .null⟩ none).payload]

/-- A message under the same index, which reports no counts and then breaks off. -/
def startedOver : List Text :=
  [Event.ping.payload,
    (Event.messageStart ⟨"m2", "claude", "assistant", ⟨.missing, .missing⟩⟩).payload,
    (Event.blockStart (.ofNat 0) (.text "b")).payload, Event.messageStop.payload, "?"]

/-- The second message shows nothing of the first one. -/
theorem reduceStream_restart_givenUp :
    (reduceStream (.ofList (givenUp ++ startedOver) none)).items
      = [⟨"m1", .value "content_block_start", "assistant", "claude", [.text "a"], .null, .null,
            ⟨.value (.ofNat 10), .value (.ofNat 1)⟩⟩,
          ⟨"m2", .value "content_block_start", "assistant", "claude", [.text "b"], .null, .null,
            ⟨.value (.zero false), .value (.zero false)⟩⟩,
          ⟨"m2", .value "message_stop", "assistant", "claude", [.text "b"], .null, .null,
            ⟨.value (.zero false), .value (.zero false)⟩⟩] ∧
      (reduceStream (.ofList (givenUp ++ startedOver) none)).failure
        = (reduceStream (.ofList startedOver none)).failure := by
  have hok : (reduceStream (.ofList givenUp none)).failure = none := by decide +kernel
  have hmark : ∀ p ∈ givenUp, p.trim ≠ Sse.doneMark := by decide +kernel
  have hclosed : ToolBlock.ofEvents (Event.decoded givenUp) = none := by decide +kernel
  have hping : Event.parse Event.ping.payload = .ok .ping :=
    Event.parse_of_writes (Event.writes_render trivial (by decide +kernel))
  have hstart : Event.parse
        (Event.messageStart ⟨"m2", "claude", "assistant", ⟨.missing, .missing⟩⟩).payload
      = .ok (.messageStart ⟨"m2", "claude", "assistant", ⟨.missing, .missing⟩⟩) :=
    Event.parse_of_writes (Event.writes_render ⟨.inl rfl, .inl rfl⟩ (by decide +kernel))
  have hbegins : BeginsMessage startedOver := .control hping rfl (.here _ hstart)
  obtain ⟨-, hitems, hfailure⟩ := reduceStream_restart none hok hmark hclosed hbegins
  refine ⟨hitems.trans ?_, hfailure⟩
  decide +kernel

end ChatRelay
