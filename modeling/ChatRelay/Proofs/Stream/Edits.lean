import ChatRelay.Proofs.Stream.Decoding
import Mathlib.Logic.Relation

/-!
# Edits that change nothing

One message can be streamed in many ways. An `Edit` of a stream changes how it is presented and not
what it says: it adds a control event anywhere, sends a fragment of a tool call's input in two, or
puts something else behind the mark that ends the stream. No state of the reduction notices: a
control event leaves only a debug note, two fragments in a row extend an open call as their
concatenation does and break the contract of a block as it does (`read_fragments`), and behind the
mark nothing is read. So a reduction, failing or not, is the same up to debug notes
(`Edit.sameButNotes`), whatever the edits and however many.
-/

namespace ChatRelay

/-- One edit of how a stream is presented. -/
inductive Edit : Flow Effect Text → Flow Effect Text → Prop
  | control {p : Text} {e : Event} (before after : List (Act Effect Text))
      (failure : Option Failure) : Event.parse p = .ok e → e.isControl = true →
      Edit ⟨before ++ after, failure⟩ ⟨before ++ .yield p :: after, failure⟩
  | fragment {p q r : Text} {index : Number} {a b : Text} (before after : List (Act Effect Text))
      (failure : Option Failure) :
      Event.parse p = .ok (.blockDelta index (.inputJson (a ++ b))) →
      Event.parse q = .ok (.blockDelta index (.inputJson a)) →
      Event.parse r = .ok (.blockDelta index (.inputJson b)) →
      Edit ⟨before ++ .yield p :: after, failure⟩ ⟨before ++ .yield q :: .yield r :: after, failure⟩
  | behindMark {p : Text} (before after after' : List (Act Effect Text))
      (failure failure' : Option Failure) : p.trim = Sse.doneMark →
      Edit ⟨before ++ .yield p :: after, failure⟩ ⟨before ++ .yield p :: after', failure'⟩

/-! ## What is the same -/

/-- Whether an act is a debug note in the log. -/
def Act.isNote {α : Type} : Act Effect α → Bool
  | .effect (.log entry) => entry.level = .debug
  | _ => false

/-- The warning that an act logs, if it logs one. -/
def Act.warning? {α : Type} : Act Effect α → Option Log.Entry
  | .effect (.log entry) => if entry.level = .warn then some entry else none
  | _ => none

/-- The warnings that reading a source logs. -/
def Flow.warnings {α : Type} (flow : Flow Effect α) : List Log.Entry :=
  flow.acts.filterMap Act.warning?

/-- Sources that differ in debug notes at most. -/
structure Flow.SameButNotes {α : Type} (a b : Flow Effect α) : Prop where
  acts : a.acts.filter (fun act => !act.isNote) = b.acts.filter fun act => !act.isNote
  failure : a.failure = b.failure

namespace Flow.SameButNotes

variable {α : Type} {a b c : Flow Effect α}

theorem refl (a : Flow Effect α) : a.SameButNotes a := ⟨rfl, rfl⟩

theorem trans (hab : a.SameButNotes b) (hbc : b.SameButNotes c) : a.SameButNotes c :=
  ⟨hab.acts.trans hbc.acts, hab.failure.trans hbc.failure⟩

/-- What is read off the acts is the same, if debug notes show nothing of it. -/
theorem filterMap_eq (h : a.SameButNotes b) {β : Type} {q : Act Effect α → Option β}
    (hq : ∀ act : Act Effect α, act.isNote = true → q act = none) :
    a.acts.filterMap q = b.acts.filterMap q := by
  have hdrop (acts : List (Act Effect α)) :
      acts.filterMap q = (acts.filter fun act => !act.isNote).filterMap q := by
    rw [List.filterMap_filter]
    congr 1
    funext act
    cases hnote : act.isNote with
    | true => exact hq act hnote
    | false => rfl
  rw [hdrop, h.acts, ← hdrop]

theorem items_eq (h : a.SameButNotes b) : a.items = b.items := by
  refine h.filterMap_eq fun act hnote => ?_
  cases act with
  | effect e => rfl
  | yield x => cases hnote

theorem warnings_eq (h : a.SameButNotes b) : a.warnings = b.warnings := by
  refine h.filterMap_eq fun act hnote => ?_
  cases act with
  | effect e =>
      cases e with
      | log entry =>
          have hlevel : entry.level = .debug := by simpa [Act.isNote] using hnote
          simp [Act.warning?, hlevel]
      | call c => cases hnote
      | poll => cases hnote
  | yield x => cases hnote

theorem after (h : a.SameButNotes b) (acts : List (Act Effect α)) :
    (a.after acts).SameButNotes (b.after acts) := by
  refine ⟨?_, h.failure⟩
  rw [Flow.after, Flow.after, List.filter_append, List.filter_append, h.acts]

theorem of_debug {entries : List Log.Entry} (h : ∀ entry ∈ entries, entry.level = .debug)
    (a : Flow Effect α) : a.SameButNotes (a.after (Act.logs entries)) := by
  have hnone : (Act.logs (α := α) entries).filter (fun act => !act.isNote) = [] := by
    rw [List.filter_eq_nil_iff]
    intro act hact
    obtain ⟨entry, hentry, rfl⟩ := List.mem_map.mp hact
    simp [Act.isNote, h entry hentry]
  refine ⟨?_, rfl⟩
  rw [Flow.after, List.filter_append, hnone, List.nil_append]

end Flow.SameButNotes

/-! ## No state notices an edit -/

theorem OpenCall.extend_extend (call : OpenCall) (a b : Text) :
    (call.extend a).extend b = call.extend (a ++ b) := by
  simp only [extend, List.append_assoc]

/-- Of two violations in a row only the first one is noted. -/
theorem OpenCall.note_note (call : OpenCall) (v : Violation) :
    (call.note v).note v = call.note v := by
  cases hv : call.violation <;> simp [note, hv]

/-- Two fragments in a row do what their concatenation does, also where they are out of place. -/
theorem read_fragments {index : Number} {a b : Text} {p q r : Text}
    (hp : Event.parse p = .ok (.blockDelta index (.inputJson (a ++ b))))
    (hq : Event.parse q = .ok (.blockDelta index (.inputJson a)))
    (hr : Event.parse r = .ok (.blockDelta index (.inputJson b))) (s : OnePass.State)
    (acts : List (Act Effect Text)) (failure : Option Failure) :
    onePayload.read s ⟨.yield p :: acts, failure⟩
      = onePayload.read s ⟨.yield q :: .yield r :: acts, failure⟩ := by
  have hreact {p : Text} {t : Text} (h : Event.parse p = .ok (.blockDelta index (.inputJson t)))
      (s : OnePass.State) :
      onePayload.react s p = onePass.react s (.blockDelta index (.inputJson t)) :=
    onePayload_event (trim_of_parse h) h rfl s
  obtain ⟨draft, call⟩ := s
  cases call with
  | none => rw [Stage.read_yield_stop (hreact hp _), Stage.read_yield_stop (hreact hq _)]
  | some call =>
      by_cases hindex : call.tool.index = index
      · have hnext {p : Text} {t : Text}
            (h : Event.parse p = .ok (.blockDelta index (.inputJson t))) (call : OpenCall)
            (hcall : call.tool.index = index) :
            onePayload.react ⟨draft, some call⟩ p = .next ⟨draft, some (call.extend t)⟩ [] := by
          rw [hreact h]
          simp only [onePass, OnePass.inside, if_pos hcall]
        rw [Stage.read_yield_next (hnext hp call hindex),
          Stage.read_yield_next (hnext hq call hindex),
          Stage.read_yield_next (hnext hr (call.extend a) hindex), OpenCall.extend_extend]
        rfl
      · have hnext {p : Text} {t : Text}
            (h : Event.parse p = .ok (.blockDelta index (.inputJson t))) (call : OpenCall)
            (hcall : call.tool.index ≠ index) :
            onePayload.react ⟨draft, some call⟩ p = .next
              ⟨draft, some (call.note (.fragmentOfOtherBlock index call.tool.index))⟩ [] := by
          rw [hreact h]
          simp only [onePass, OnePass.inside, if_neg hcall]
        have hnoted := call.note_note (.fragmentOfOtherBlock index call.tool.index)
        rw [Stage.read_yield_next (hnext hp call hindex),
          Stage.read_yield_next (hnext hq call hindex),
          Stage.read_yield_next (hnext hr (call.note _) hindex)]
        exact congrArg (fun call => onePayload.read ⟨draft, some call⟩ ⟨acts, failure⟩) hnoted.symm

/-- Behind the mark nothing is read. -/
theorem read_mark {p : Text} (h : p.trim = Sse.doneMark) (s : OnePass.State)
    (acts : List (Act Effect Text)) (failure : Option Failure) :
    onePayload.read s ⟨.yield p :: acts, failure⟩ = ⟨[], none⟩ := by
  refine Stage.read_yield_stop ?_ acts failure
  simp only [onePayload, if_pos h]

/-! ## Edits in a stream -/

/-- Sources that no state tells apart are not told apart behind anything else. -/
theorem read_sameButNotes {a b : Flow Effect Text}
    (h : ∀ s, (onePayload.read s a).SameButNotes (onePayload.read s b))
    (before : List (Act Effect Text)) (s : OnePass.State) :
    (onePayload.read s (a.after before)).SameButNotes (onePayload.read s (b.after before)) := by
  rw [Stage.read_after, Stage.read_after]
  obtain ⟨out, s' | f⟩ := onePayload.run s before
  · exact (h s').after out
  · exact .refl _

theorem Edit.sameButNotes {a b : Flow Effect Text} (h : Edit a b) :
    (reduceStream a).SameButNotes (reduceStream b) := by
  rw [reduceStream_eq_onePayload, reduceStream_eq_onePayload, Stage.through_eq_read,
    Stage.through_eq_read]
  cases h with
  | control before after failure hp hcontrol =>
      refine read_sameButNotes (a := ⟨after, failure⟩) (b := ⟨_ :: after, failure⟩) ?_ before _
      intro s
      obtain ⟨entries, hdebug, hreact⟩ := onePayload_control (trim_of_parse hp) hp hcontrol
      rw [Stage.read_yield_next (hreact s)]
      exact .of_debug hdebug _
  | fragment before after failure hp hq hr =>
      refine read_sameButNotes (a := ⟨_ :: after, failure⟩) (b := ⟨_ :: _ :: after, failure⟩) ?_
        before _
      intro s
      rw [read_fragments hp hq hr]
      exact .refl _
  | behindMark before after after' failure failure' hmark =>
      refine read_sameButNotes (a := ⟨_ :: after, failure⟩) (b := ⟨_ :: after', failure'⟩) ?_
        before _
      intro s
      rw [read_mark hmark, read_mark hmark]
      exact .refl _

/-- Any number of edits leave the responses, the failure and the warnings as they are. -/
theorem reduceStream_edits {a b : Flow Effect Text} (h : Relation.ReflTransGen Edit a b) :
    (reduceStream b).items = (reduceStream a).items ∧
      (reduceStream b).failure = (reduceStream a).failure ∧
      (reduceStream b).warnings = (reduceStream a).warnings := by
  have hsame : (reduceStream a).SameButNotes (reduceStream b) := by
    induction h with
    | refl => exact .refl _
    | tail _ hedit ih => exact ih.trans hedit.sameButNotes
  exact ⟨hsame.items_eq.symm, hsame.failure.symm, hsame.warnings_eq.symm⟩

/-- A stream with one tool call, whose input is told by some payloads, and with others behind the
mark. -/
def paintStream (input behind : List Text) (failure : Option Failure) : Flow Effect Text :=
  .ofList
    ([(Event.messageStart ⟨"m1", "claude", "assistant", ⟨.missing, .missing⟩⟩).payload,
        (Event.blockStart (.ofNat 1) (.toolUse "t1" "paint")).payload] ++ input
      ++ [(Event.blockStop (.ofNat 1)).payload, Event.messageStop.payload, Sse.doneMark] ++ behind)
    failure

/-- A piece of the input of the call. -/
def paintPiece (t : Text) : Event := .blockDelta (.ofNat 1) (.inputJson t)

/-- An input that is no JSON text, sent in one piece, and with pings between the two halves of its
surrogate pair and a failing source behind the mark. -/
theorem reduceStream_edits_paint :
    Relation.ReflTransGen Edit (paintStream [(paintPiece [0x22, 0xD83D, 0xDE00]).payload] [] none)
      (paintStream [(paintPiece [0x22, 0xD83D]).payload, Event.ping.payload,
        (paintPiece [0xDE00]).payload] ["?"] (some (.error "reset"))) ∧
    (reduceStream (paintStream [(paintPiece [0x22, 0xD83D]).payload, Event.ping.payload,
        (paintPiece [0xDE00]).payload] ["?"] (some (.error "reset")))).warnings
      = (reduceStream
          (paintStream [(paintPiece [0x22, 0xD83D, 0xDE00]).payload] [] none)).warnings ∧
    (reduceStream
      (paintStream [(paintPiece [0x22, 0xD83D, 0xDE00]).payload] [] none)).warnings.length = 1 := by
  have hparse {e : Event} (he : e.Sendable) (h : Json.parse? e.payload = some e.toJson) :
      Event.parse e.payload = .ok e := Event.parse_of_writes (Event.writes_render he h)
  have hcount : (Number.ofNat 1).IsCount := by decide +kernel
  have hping : Event.parse Event.ping.payload = .ok .ping := hparse trivial (by decide +kernel)
  have hwhole : Event.parse (paintPiece [0x22, 0xD83D, 0xDE00]).payload
      = .ok (.blockDelta (.ofNat 1) (.inputJson ([0x22, 0xD83D] ++ [0xDE00]))) :=
    hparse (e := paintPiece _) hcount (by decide +kernel)
  have hfirst : Event.parse (paintPiece [0x22, 0xD83D]).payload
      = .ok (.blockDelta (.ofNat 1) (.inputJson [0x22, 0xD83D])) :=
    hparse (e := paintPiece _) hcount (by decide +kernel)
  have hsecond : Event.parse (paintPiece [0xDE00]).payload
      = .ok (.blockDelta (.ofNat 1) (.inputJson [0xDE00])) :=
    hparse (e := paintPiece _) hcount (by decide +kernel)
  have hsplit : Edit (paintStream [(paintPiece [0x22, 0xD83D, 0xDE00]).payload] [] none)
      (paintStream [(paintPiece [0x22, 0xD83D]).payload, (paintPiece [0xDE00]).payload] [] none) :=
    .fragment [.yield _, .yield _] _ none hwhole hfirst hsecond
  have hadd : Edit
      (paintStream [(paintPiece [0x22, 0xD83D]).payload, (paintPiece [0xDE00]).payload] [] none)
      (paintStream [(paintPiece [0x22, 0xD83D]).payload, Event.ping.payload,
        (paintPiece [0xDE00]).payload] [] none) :=
    .control [.yield _, .yield _, .yield _] _ none hping rfl
  have hbehind : Edit
      (paintStream [(paintPiece [0x22, 0xD83D]).payload, Event.ping.payload,
        (paintPiece [0xDE00]).payload] [] none)
      (paintStream [(paintPiece [0x22, 0xD83D]).payload, Event.ping.payload,
        (paintPiece [0xDE00]).payload] ["?"] (some (.error "reset"))) :=
    .behindMark (p := Sse.doneMark) [.yield _, .yield _, .yield _, .yield _, .yield _, .yield _,
      .yield _] [] [.yield "?"] none _ (by decide)
  have hedits := ((Relation.ReflTransGen.single hsplit).tail hadd).tail hbehind
  exact ⟨hedits, (reduceStream_edits hedits).2.2, by decide +kernel⟩

end ChatRelay
