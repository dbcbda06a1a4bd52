import ChatRelay.Proofs.Stream.Frames
import ChatRelay.Proofs.Stream.Stage
import ChatRelay.Proofs.Text.Cutting
import ChatRelay.Proofs.Text.Utf8

/-!
# Payloads of a stream of chunks

How a stream is cut into chunks has no influence on its payloads: they are those of the whole text,
read at once. `readChunks` is the decoder's part of a reading, from which the invariant of the
reader follows: behind any chunks its rest is what the text so far leaves unterminated, and the
payloads it has given are those of the terminated frames (`run_payloads`).

`ReturnsAdded` says that some line feeds have got a carriage return in front. Carriage returns are
dropped, also between the bytes of a broken character, so this changes nothing either.
-/

namespace ChatRelay.Sse

/-- What the decoder makes of a chunk: its state behind it, and its text. -/
def readChunk (d : Utf8.Decoder) : Chunk → Utf8.Decoder × Text
  | .bytes bs => d.run bs
  | .text t => (d, t)

/-- What the decoder makes of chunks in turn. -/
def readChunks (d : Utf8.Decoder) : List Chunk → Utf8.Decoder × Text
  | [] => (d, [])
  | c :: cs =>
    ((readChunks (readChunk d c).1 cs).1, (readChunk d c).2 ++ (readChunks (readChunk d c).1 cs).2)

/-- The reading of a whole text: the payloads of its frames, or before a failure of the source those
of its terminated frames. -/
def reading (t : Text) : Option Failure → Flow Effect Text
  | none => .ofList ((frames (withoutReturns t)).filterMap payload?) none
  | some f => .ofList ((frames (withoutReturns t)).dropLast.filterMap payload?) (some f)

/-! ## The decoder's part -/

theorem readChunks_bytes (d : Utf8.Decoder) (chunks : List (List UInt8)) :
    readChunks d (chunks.map .bytes) = d.run chunks.flatten := by
  induction chunks generalizing d with
  | nil => rfl
  | cons bs chunks ih =>
      rw [List.map_cons, readChunks, readChunk, ih, List.flatten_cons, Utf8.Decoder.run_append]

theorem readChunks_text (d : Utf8.Decoder) (chunks : List Text) :
    readChunks d (chunks.map .text) = (d, chunks.flatten) := by
  induction chunks with
  | nil => rfl
  | cons t chunks ih => rw [List.map_cons, readChunks, readChunk, ih, List.flatten_cons]

theorem flush_eq (d : Utf8.Decoder) : d.flush = [] ∨ d.flush = [0xFFFD] := by
  obtain ⟨sequence, started⟩ := d
  cases sequence with
  | none => exact Or.inl rfl
  | some s => cases started <;> exact Or.inr rfl

theorem withoutReturns_append (a b : Text) :
    withoutReturns (a ++ b) = withoutReturns a ++ withoutReturns b :=
  List.filter_append ..

/-! ## The reader -/

theorem react_payloads (d : Utf8.Decoder) (rest : Text) (chunk : Chunk) :
    payloads.react ⟨d, rest⟩ chunk =
      .next ⟨(readChunk d chunk).1, (pieces (rest ++ withoutReturns (readChunk d chunk).2)).2⟩
        (((pieces (rest ++ withoutReturns (readChunk d chunk).2)).1.filterMap payload?).map
          .yield) := by
  cases chunk <;> rfl

/-- Behind any chunks the rest is what the text so far leaves unterminated, and the payloads given
are those of its terminated frames. -/
theorem run_payloads (d : Utf8.Decoder) {rest : Text} (hrest : pieces rest = ([], rest))
    (chunks : List Chunk) :
    payloads.run ⟨d, rest⟩ (chunks.map .yield) =
      (((pieces (rest ++ withoutReturns (readChunks d chunks).2)).1.filterMap payload?).map .yield,
        .running ⟨(readChunks d chunks).1,
          (pieces (rest ++ withoutReturns (readChunks d chunks).2)).2⟩) := by
  induction chunks generalizing d rest with
  | nil =>
      have hnil : rest ++ withoutReturns (readChunks d []).2 = rest := List.append_nil rest
      rw [hnil, hrest]
      rfl
  | cons chunk chunks ih =>
      have hpieces := pieces_append (rest ++ withoutReturns (readChunk d chunk).2)
        (withoutReturns (readChunks (readChunk d chunk).1 chunks).2)
      have hrest' := pieces_unterminated
        (not_blankLine_infix_rest (rest ++ withoutReturns (readChunk d chunk).2))
      rw [List.map_cons, Stage.run_yield_next (react_payloads d rest chunk), ih _ hrest',
        readChunks, withoutReturns_append, ← List.append_assoc, hpieces, List.filterMap_append,
        List.map_append]

theorem withoutReturns_flush (d : Utf8.Decoder) :
    withoutReturns d.flush = [] ∨ withoutReturns d.flush = [0xFFFD] := by
  rcases flush_eq d with h | h
  · exact Or.inl (by rw [h]; rfl)
  · exact Or.inr (by rw [h]; rfl)

/-- The replacement of a character that is cut off terminates no frame. -/
theorem frames_replacement {x : Text} (hx : x = [] ∨ x = [0xFFFD]) (t : Text) :
    frames (t ++ x) = (pieces t).1 ++ [(pieces t).2 ++ x] := by
  rw [frames, pieces_append]
  rcases hx with rfl | rfl
  · rw [List.append_nil, pieces_unterminated (not_blankLine_infix_rest _), List.append_nil]
  · rw [pieces_rest_concat _ (by decide), List.append_nil]

/-- The payloads of any chunks are those of their whole text. -/
theorem payloads_eq_reading (chunks : List Chunk) (failure : Option Failure) :
    (Flow.ofList chunks failure).through payloads
      = reading ((readChunks .fresh chunks).2 ++ (readChunks .fresh chunks).1.flush) failure := by
  have hempty : pieces [] = ([], []) := rfl
  have hrun := run_payloads .fresh hempty chunks
  have hframes := frames_replacement (withoutReturns_flush (readChunks .fresh chunks).1)
    (withoutReturns (readChunks .fresh chunks).2)
  rw [← withoutReturns_append] at hframes
  generalize hd : (readChunks .fresh chunks).1 = d at hrun hframes ⊢
  generalize ht : (readChunks .fresh chunks).2 = t at hrun hframes ⊢
  rw [List.nil_append] at hrun
  rw [Stage.through_eq_read]
  show payloads.close failure (payloads.run ⟨.fresh, []⟩ (chunks.map .yield)) = _
  rw [hrun]
  cases failure with
  | none =>
      have hlast : (payload? ((pieces (withoutReturns t)).2 ++ withoutReturns d.flush)).toList
          = [(pieces (withoutReturns t)).2 ++ withoutReturns d.flush].filterMap payload? := by
        cases h : payload? ((pieces (withoutReturns t)).2 ++ withoutReturns d.flush) <;>
          simp [h]
      simp only [reading, hframes, List.filterMap_append, ← hlast]
      simp only [Stage.close, payloads, Reader.finish, Flow.after, Flow.ofList, List.map_append]
  | some f => simp only [reading, hframes, List.dropLast_concat, Stage.close, Flow.ofList]

/-! ## Carriage returns -/

/-- The second list is the first one with carriage returns in front of some of its line feeds. -/
inductive ReturnsAdded {α : Type} [OfNat α 10] [OfNat α 13] : List α → List α → Prop
  | nil : ReturnsAdded [] []
  | keep (u : α) {a b : List α} : ReturnsAdded a b → ReturnsAdded (u :: a) (u :: b)
  | add {a b : List α} : ReturnsAdded a b → ReturnsAdded (10 :: a) (13 :: 10 :: b)

theorem withoutReturns_of_returnsAdded {a b : Text} (h : ReturnsAdded a b) :
    withoutReturns a = withoutReturns b := by
  induction h with
  | nil => rfl
  | keep u _ ih =>
      simp only [withoutReturns, List.filter_cons] at ih ⊢
      rw [ih]
  | add _ ih =>
      simp only [withoutReturns, List.filter_cons] at ih ⊢
      rw [ih]
      rfl

/-- A decoder under way waits for a byte beyond the control characters. -/
def Waits (d : Utf8.Decoder) : Prop := ∀ s, d.sequence = some s → 0x80 ≤ s.lower

theorem waits_fresh : Waits .fresh := fun _ h => nomatch h

theorem lower_of_lead {b : UInt8} {s : Utf8.Sequence} (h : Utf8.lead b = .ok s) :
    0x80 ≤ s.lower := by
  unfold Utf8.lead at h
  repeat' split at h
  all_goals cases h
  all_goals simp only
  all_goals decide

theorem lower_of_stepLead {b : UInt8} {s : Utf8.Sequence} (h : (Utf8.stepLead b).1 = some s) :
    0x80 ≤ s.lower := by
  rw [Utf8.stepLead] at h
  cases hb : Utf8.lead b with
  | ok s' =>
      rw [hb] at h
      obtain rfl := Option.some.inj h
      exact lower_of_lead hb
  | error p => rw [hb] at h; cases h

theorem waits_step (d : Utf8.Decoder) (b : UInt8) : Waits (d.step b).1 := by
  intro s hs
  have hs' : (Utf8.stepByte d.sequence b).1 = some s := hs
  unfold Utf8.stepByte at hs'
  split at hs'
  · exact lower_of_stepLead hs'
  · split at hs'
    · split at hs'
      · cases hs'
      · obtain rfl := Option.some.inj hs'
        exact UInt8.le_refl 0x80
    · exact lower_of_stepLead hs'

/-- A byte below all continuation bytes ends whatever character is under way. -/
theorem step_control {d : Utf8.Decoder} (hd : Waits d) {b : UInt8} (hb : b ≤ 0x7F) :
    d.step b = (⟨none, (Utf8.emit d.started (d.sequence.toList.map (fun _ => Utf8.replacement)
        ++ [b.toNat])).1⟩,
      (Utf8.emit d.started (d.sequence.toList.map (fun _ => Utf8.replacement)
        ++ [b.toNat])).2) := by
  have hlead : Utf8.stepLead b = (none, [b.toNat]) := by
    rw [Utf8.stepLead, Utf8.lead, if_pos hb]
  obtain ⟨sequence, started⟩ := d
  cases sequence with
  | none => simp only [Utf8.Decoder.step, Utf8.stepByte, hlead]; rfl
  | some s =>
      have hs : 0x80 ≤ s.lower := hd s rfl
      have hout : ¬ s.lower ≤ b := by
        rw [UInt8.le_iff_toNat_le] at hs hb ⊢
        simp only [UInt8.reduceToNat] at hs hb
        omega
      simp only [Utf8.Decoder.step, Utf8.stepByte, hlead, hout, decide_false, Bool.false_and]
      rfl

/-- A carriage return before a line feed leaves the decoder and the text as they are. -/
theorem step_return {d : Utf8.Decoder} (hd : Waits d) :
    ((d.step 13).1.step 10).1 = (d.step 10).1 ∧
      withoutReturns ((d.step 13).2 ++ ((d.step 13).1.step 10).2)
        = withoutReturns (d.step 10).2 := by
  -- The carriage return ends a character under way, as the line feed alone would have done.
  rw [step_control (waits_step d 13) (by decide), step_control hd (by decide),
    step_control hd (by decide)]
  obtain ⟨sequence, started⟩ := d
  cases sequence <;> cases started <;> exact ⟨rfl, rfl⟩

theorem run_of_returnsAdded {a b : List UInt8} (h : ReturnsAdded a b) {d : Utf8.Decoder}
    (hd : Waits d) :
    (d.run a).1 = (d.run b).1 ∧ withoutReturns (d.run a).2 = withoutReturns (d.run b).2 := by
  induction h generalizing d with
  | nil => exact ⟨rfl, rfl⟩
  | keep u _ ih =>
      obtain ⟨hstate, htext⟩ := ih (waits_step d u)
      exact ⟨hstate, by simp only [Utf8.Decoder.run, withoutReturns_append, htext]⟩
  | add _ ih =>
      obtain ⟨hstate, htext⟩ := step_return hd
      obtain ⟨hstate', htext'⟩ := ih (waits_step d 10)
      refine ⟨?_, ?_⟩
      · simp only [Utf8.Decoder.run, hstate, hstate']
      · simp only [Utf8.Decoder.run, withoutReturns_append, hstate, htext'] at htext ⊢
        rw [← List.append_assoc, htext]

/-! ## Chunks do not matter -/

/-- A text decoded at once is what the decoder makes of its bytes and of their end. -/
theorem text_eq_run (bytes : List UInt8) : Utf8.text bytes
    = (Utf8.Decoder.fresh.run bytes).2 ++ (Utf8.Decoder.fresh.run bytes).1.flush :=
  (Utf8.decode_eq_text bytes).symm

/-- The text of byte chunks, read at once. -/
theorem readChunks_flush_bytes (chunks : List (List UInt8)) :
    (readChunks .fresh (chunks.map .bytes)).2 ++ (readChunks .fresh (chunks.map .bytes)).1.flush
      = Utf8.text chunks.flatten := by
  rw [readChunks_bytes, text_eq_run]

/-- The text of text chunks, read at once. -/
theorem readChunks_flush_text (chunks : List Text) :
    (readChunks .fresh (chunks.map .text)).2 ++ (readChunks .fresh (chunks.map .text)).1.flush
      = chunks.flatten := by
  rw [readChunks_text]
  exact List.append_nil _

/-! ## Data lines -/

/-- The beginning of a data line. -/
def dataMark : Text := "data:"

/-- What a data line says: what stands behind the mark, without one space at its beginning. -/
def lineValue (line : Text) : Text :=
  let value := line.drop dataMark.length
  if value.head? = some (Text.unit ' ') then value.tail else value

/-- The payload of a frame of the given lines: the values of its data lines, if it has any. -/
def linesPayload? (lines : List Text) : Option Text :=
  if lines.any dataMark.isPrefixOf then
    some (Text.joinWith [lineFeed] ((lines.filter dataMark.isPrefixOf).map lineValue))
  else none

theorem dataValue?_eq (line : Text) :
    dataValue? line = if dataMark.isPrefixOf line then some (lineValue line) else none := by
  rw [dataValue?, show (("data:" : String) : Text) = dataMark from rfl, Text.after?_eq]
  by_cases h : dataMark.isPrefixOf line
  · simp only [h, if_true, lineValue]
    cases line.drop dataMark.length with
    | nil => rfl
    | cons u r => by_cases hu : u = Text.unit ' ' <;> simp [hu]
  · simp only [h]
    rfl

theorem filterMap_dataValue? (lines : List Text) :
    lines.filterMap dataValue? = (lines.filter dataMark.isPrefixOf).map lineValue := by
  induction lines with
  | nil => rfl
  | cons line lines ih =>
      by_cases h : dataMark.isPrefixOf line
      · have hvalue : dataValue? line = some (lineValue line) := by rw [dataValue?_eq, if_pos h]
        rw [List.filterMap_cons_some hvalue, List.filter_cons_of_pos h, List.map_cons, ih]
      · have hvalue : dataValue? line = none := by rw [dataValue?_eq, if_neg h]
        rw [List.filterMap_cons_none hvalue, List.filter_cons_of_neg h, ih]

/-- The payload of a frame, line by line. -/
theorem payload?_joinWith {lines : List Text} (hne : lines ≠ [])
    (h : ∀ line ∈ lines, lineFeed ∉ line) :
    payload? (Text.joinWith [lineFeed] lines) = linesPayload? lines := by
  rw [payload?, Text.splitOn_joinWith hne h, filterMap_dataValue?, linesPayload?]
  cases hf : lines.filter dataMark.isPrefixOf with
  | nil =>
      rw [if_neg]
      · rfl
      · rw [List.filter_eq_nil_iff] at hf
        simpa using hf
  | cons line ls =>
      rw [if_pos]
      · rfl
      · have hmem : line ∈ lines.filter dataMark.isPrefixOf := by
          rw [hf]
          exact List.mem_cons_self ..
        rw [List.mem_filter] at hmem
        exact List.any_eq_true.mpr ⟨line, hmem⟩

/-! ## One reading for all chunks -/

theorem payloads_bytes (chunks : List (List UInt8)) (failure : Option Failure) :
    (Flow.ofList (chunks.map .bytes) failure).through payloads
      = reading (Utf8.text chunks.flatten) failure := by
  rw [payloads_eq_reading, readChunks_flush_bytes]

theorem payloads_text (chunks : List Text) (failure : Option Failure) :
    (Flow.ofList (chunks.map .text) failure).through payloads
      = reading chunks.flatten failure := by
  rw [payloads_eq_reading, readChunks_flush_text]

theorem reading_congr {s t : Text} (h : withoutReturns s = withoutReturns t)
    (failure : Option Failure) : reading s failure = reading t failure := by
  cases failure <;> simp only [reading, h]

theorem text_of_returnsAdded {a b : List UInt8} (h : ReturnsAdded a b) :
    withoutReturns (Utf8.text a) = withoutReturns (Utf8.text b) := by
  obtain ⟨hstate, htext⟩ := run_of_returnsAdded h waits_fresh
  rw [text_eq_run, text_eq_run, withoutReturns_append, withoutReturns_append, hstate, htext]

/-- The payloads of a stream are those of its text as a whole, however it is cut into chunks: the
text is split at blank lines, in the one way there is, and each frame with a data line gives the
values of its data lines. Carriage returns before line feeds change nothing. A source that fails
gives the payloads of the terminated frames before it does. -/
theorem payloads_of_chunks :
    (∀ (t : Text) (fs : List Text), IsSplit t fs ↔ fs = frames t) ∧
    (∀ lines : List Text, lines ≠ [] → (∀ line ∈ lines, lineFeed ∉ line) →
      payload? (Text.joinWith [lineFeed] lines) = linesPayload? lines) ∧
    (∀ (chunks : List (List UInt8)) (failure : Option Failure),
      (Flow.ofList (chunks.map .bytes) failure).through payloads
        = reading (Utf8.text chunks.flatten) failure) ∧
    (∀ (chunks : List Text) (failure : Option Failure),
      (Flow.ofList (chunks.map .text) failure).through payloads
        = reading chunks.flatten failure) ∧
    (∀ (a b : List (List UInt8)) (failure : Option Failure), ReturnsAdded a.flatten b.flatten →
      (Flow.ofList (a.map .bytes) failure).through payloads
        = (Flow.ofList (b.map .bytes) failure).through payloads) ∧
    (∀ (a b : List Text) (failure : Option Failure), ReturnsAdded a.flatten b.flatten →
      (Flow.ofList (a.map .text) failure).through payloads
        = (Flow.ofList (b.map .text) failure).through payloads) := by
  refine ⟨fun _ _ => isSplit_iff, fun _ hne h => payload?_joinWith hne h, payloads_bytes,
    payloads_text, fun a b failure h => ?_, fun a b failure h => ?_⟩
  · rw [payloads_bytes, payloads_bytes]
    exact reading_congr (text_of_returnsAdded h) failure
  · rw [payloads_text, payloads_text]
    exact reading_congr (withoutReturns_of_returnsAdded h) failure

/-- A frame with a two-byte character, cut inside of the character and between its line feeds, and
the same frame with carriage returns. -/
theorem payloads_of_chunks_crlf :
    (∀ line ∈ [("event: x" : Text), "data: y"], lineFeed ∉ line) ∧
    ReturnsAdded [[0x64, 0x61, 0x74, 0x61, 0x3A, 0xC3], [0xA9, (0x0A : UInt8)], [0x0A]].flatten
      [[0x64, 0x61, 0x74, 0x61, 0x3A], [0xC3, 0xA9, 0x0D], [0x0A, 0x0D, 0x0A]].flatten ∧
    payload? (Text.joinWith [lineFeed] ["event: x", "data: y"])
      = linesPayload? ["event: x", "data: y"] ∧
    (Flow.ofList ([[0x64, 0x61, 0x74, 0x61, 0x3A, 0xC3], [0xA9, 0x0A], [0x0A]].map .bytes)
        none).through payloads
      = (Flow.ofList ([[0x64, 0x61, 0x74, 0x61, 0x3A], [0xC3, 0xA9, 0x0D],
        [0x0A, 0x0D, 0x0A]].map .bytes) none).through payloads := by
  have hlines : ∀ line ∈ [("event: x" : Text), "data: y"], lineFeed ∉ line := by decide
  have hreturns : ReturnsAdded
      [[0x64, 0x61, 0x74, 0x61, 0x3A, 0xC3], [0xA9, (0x0A : UInt8)], [0x0A]].flatten
      [[0x64, 0x61, 0x74, 0x61, 0x3A], [0xC3, 0xA9, 0x0D], [0x0A, 0x0D, 0x0A]].flatten :=
    .keep _ (.keep _ (.keep _ (.keep _ (.keep _ (.keep _ (.keep _ (.add (.add .nil))))))))
  exact ⟨hlines, hreturns, payloads_of_chunks.2.1 _ (List.cons_ne_nil _ _) hlines,
    payloads_of_chunks.2.2.2.2.1 _ _ none hreturns⟩

end ChatRelay.Sse
