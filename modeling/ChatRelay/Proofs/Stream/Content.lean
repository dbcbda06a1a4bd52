import ChatRelay.Proofs.Stream.Strokes
import Mathlib.Data.List.DropRight

/-!
# The content of a message

`written` reads the content of a message off its strokes: one block for each start of a text, at the
place of the start, and one for each tool block. A text has reached the block by the deltas of its
index up to the next stop of that index (`textAfter`), whatever stands between them: other open
blocks, tool blocks, or another block at the same index later on.

The draft keeps open blocks by their places in the content instead. `Draft.Holds` relates the two:
`entries` notes for each block of the content whether deltas still reach it, and a stroke changes
all entries alike (`entries_concat`), which is what the draft does at the one place that it finds
(`Draft.Holds.apply`).
-/

namespace ChatRelay

/-! ## What strokes write -/

/-- The text that a stroke adds to the open block at an index. -/
def Stroke.deltaAt? (index : Number) : Stroke → Option Text
  | .event (.blockDelta i (.text t)) => if i = index then some t else none
  | _ => none

/-- Whether a stroke stops the open block at an index. -/
def Stroke.stops (index : Number) : Stroke → Bool
  | .event (.blockStop i) => i = index
  | _ => false

/-- Whether a stroke begins a message anew. -/
def Stroke.startsMessage : Stroke → Bool
  | .event (.messageStart _) => true
  | _ => false

/-- The text that reaches a block at an index by the strokes behind its start: the deltas of the
index before the next stop of the index. -/
def textAfter (index : Number) (later : List Stroke) : Text :=
  ((later.takeWhile fun s => !s.stops index).filterMap (Stroke.deltaAt? index)).flatten

/-- The block that a stroke writes, in view of those behind it. -/
def Stroke.block? (later : List Stroke) : Stroke → Option Block
  | .event (.blockStart index (.text t)) => some (.text (t ++ textAfter index later))
  | .tool call => some (.toolUse call.finished)
  | _ => none

/-- The blocks that strokes write. -/
def written : List Stroke → List Block
  | [] => []
  | s :: later => (s.block? later).toList ++ written later

/-- The strokes behind the last start of a message. -/
def sinceStart (past : List Stroke) : List Stroke := past.rtakeWhile fun s => !s.startsMessage

/-- The type and the content of the response that shows a stroke behind others, if there is one. -/
def Stroke.shows? (past : List Stroke) : Stroke → Option (Text × List Block)
  | .event (.blockStart _ (.text t)) =>
    if t.isEmpty then none else some ("content_block_start", [.text t])
  | .event (.blockDelta _ (.text t)) => some ("content_block_delta", [.text t])
  | .event .messageStop => some ("message_stop", written (sinceStart past))
  | .tool call => some ("tool_use", [.toolUse call.finished])
  | _ => none

/-- The types and the contents of the responses that show strokes behind others. -/
def shownAfter (past : List Stroke) : List Stroke → List (Text × List Block)
  | [] => []
  | s :: ss => (s.shows? past).toList ++ shownAfter (past ++ [s]) ss

/-! ## Entries -/

/-- A block of the content, and the index under which deltas still reach it. -/
structure Entry where
  block : Block
  openAt : Option Number

/-- The index at which the block of a stroke is still open behind later strokes. -/
def Stroke.openAt? (later : List Stroke) : Stroke → Option Number
  | .event (.blockStart index (.text _)) => if later.any (·.stops index) then none else some index
  | _ => none

/-- The blocks that strokes write, each with its index if it is still open. -/
def entries : List Stroke → List Entry
  | [] => []
  | s :: later => (s.block? later).toList.map (⟨·, s.openAt? later⟩) ++ entries later

/-- An entry after one more stroke. -/
def Entry.after (s : Stroke) (e : Entry) : Entry :=
  match e.openAt with
  | none => e
  | some index =>
    ⟨e.block.append ((s.deltaAt? index).getD []), if s.stops index then none else some index⟩

theorem map_block_entries (ss : List Stroke) : (entries ss).map Entry.block = written ss := by
  induction ss with
  | nil => rfl
  | cons s ss ih =>
      rw [entries, written, List.map_append, List.map_map, ih]
      exact congrArg (· ++ written ss) (List.map_id _)

theorem textAfter_concat (index : Number) (later : List Stroke) (s : Stroke) :
    textAfter index (later ++ [s])
      = if later.any (·.stops index) then textAfter index later
        else textAfter index later ++ (s.deltaAt? index).getD [] := by
  induction later with
  | nil =>
      cases hstop : s.stops index with
      | false =>
          cases hdelta : s.deltaAt? index <;> simp [textAfter, hstop, hdelta]
      | true =>
          have hdelta : s.deltaAt? index = none := by
            unfold Stroke.stops at hstop
            split at hstop
            · rfl
            · cases hstop
          simp [textAfter, hstop, hdelta]
  | cons x later ih =>
      cases hstop : x.stops index with
      | true => simp [textAfter, hstop]
      | false =>
          have hcons : ∀ l, textAfter index (x :: l)
              = (x.deltaAt? index).getD [] ++ textAfter index l := by
            intro l
            cases hdelta : x.deltaAt? index <;> simp [textAfter, hstop, hdelta]
          rw [List.cons_append, hcons, hcons, ih, List.any_cons, hstop, Bool.false_or]
          split <;> simp

/-- One more stroke changes every entry and adds its own. -/
theorem entries_concat (ss : List Stroke) (s : Stroke) :
    entries (ss ++ [s]) = (entries ss).map (Entry.after s) ++ entries [s] := by
  induction ss with
  | nil => rfl
  | cons x ss ih =>
      rw [List.cons_append, entries, entries, List.map_append, List.append_assoc, ← ih]
      congr 1
      unfold Stroke.block?
      split
      · rename_i index t
        rw [textAfter_concat]
        cases hany : ss.any (·.stops index) <;>
          simp [Stroke.openAt?, Entry.after, hany, Block.append]
      · rfl
      · rfl

/-! ## Where the open blocks are -/

/-- The indexes of the entries that are open. -/
def openIndexes (es : List Entry) : List Number := es.filterMap Entry.openAt

/-- The open blocks of entries that stand in the content from a place on. -/
def openTextsFrom : Nat → List Entry → List OpenText
  | _, [] => []
  | n, ⟨_, none⟩ :: es => openTextsFrom (n + 1) es
  | n, ⟨_, some index⟩ :: es => ⟨index, n⟩ :: openTextsFrom (n + 1) es

theorem openTextsFrom_concat (n : Nat) (es : List Entry) (e : Entry) :
    openTextsFrom n (es ++ [e])
      = openTextsFrom n es ++ (e.openAt.map (⟨·, n + es.length⟩)).toList := by
  induction es generalizing n with
  | nil => obtain ⟨b, _ | index⟩ := e <;> rfl
  | cons x es ih =>
      have hplace : n + 1 + es.length = n + (x :: es).length := by
        rw [List.length_cons]; omega
      obtain ⟨b, _ | index⟩ := x
      · rw [List.cons_append, openTextsFrom, ih, openTextsFrom, hplace]
      · rw [List.cons_append, openTextsFrom, ih, openTextsFrom, hplace, List.cons_append]

theorem map_index_openTextsFrom (n : Nat) (es : List Entry) :
    (openTextsFrom n es).map OpenText.index = openIndexes es := by
  induction es generalizing n with
  | nil => rfl
  | cons x es ih =>
      obtain ⟨b, _ | index⟩ := x
      · exact ih (n + 1)
      · rw [openTextsFrom, List.map_cons, ih]
        rfl

theorem openTextsFrom_after (n : Nat) (es : List Entry) (s : Stroke) :
    openTextsFrom n (es.map (Entry.after s))
      = (openTextsFrom n es).filter fun o => !s.stops o.index := by
  induction es generalizing n with
  | nil => rfl
  | cons x es ih =>
      obtain ⟨b, _ | index⟩ := x
      · exact ih (n + 1)
      · cases hstop : s.stops index <;>
          simp [openTextsFrom, Entry.after, hstop, ih]

theorem openIndexes_after (es : List Entry) (s : Stroke) :
    openIndexes (es.map (Entry.after s)) = (openIndexes es).filter fun index => !s.stops index := by
  rw [← map_index_openTextsFrom 0, openTextsFrom_after, ← map_index_openTextsFrom 0 es,
    List.filter_map]
  rfl

theorem Block.append_nil (b : Block) : b.append [] = b := by
  cases b <;> simp [append]

/-- A stroke changes the blocks only by its delta. -/
theorem Entry.block_after {s : Stroke} {e : Entry}
    (h : ∀ index, e.openAt = some index → s.deltaAt? index = none) :
    (e.after s).block = e.block := by
  obtain ⟨b, _ | index⟩ := e
  · rfl
  · simp [after, h index rfl, Block.append_nil]

theorem map_block_after {s : Stroke} {es : List Entry}
    (h : ∀ index ∈ openIndexes es, s.deltaAt? index = none) :
    (es.map (Entry.after s)).map Entry.block = es.map Entry.block := by
  rw [List.map_map]
  refine List.map_congr_left fun e he => Entry.block_after fun index hindex => ?_
  exact h index (List.mem_filterMap.mpr ⟨e, he, hindex⟩)

/-- The delta of an index reaches the one block at the place under which the index is open. -/
theorem modify_place {es : List Entry} (hdistinct : (openIndexes es).Nodup) {index : Number}
    {n : Nat} {o : OpenText} (h : (openTextsFrom n es).find? (·.index = index) = some o)
    (t : Text) :
    n ≤ o.place ∧ (es.map Entry.block).modify (o.place - n) (Block.append t)
      = (es.map (Entry.after (.event (.blockDelta index (.text t))))).map Entry.block := by
  induction es generalizing n with
  | nil => cases h
  | cons x es ih =>
      -- An entry that the delta does not reach: the place is counted from the next one on.
      have hskip : (openIndexes es).Nodup →
          (openTextsFrom (n + 1) es).find? (·.index = index) = some o →
          (x.after (.event (.blockDelta index (.text t)))).block = x.block →
          n ≤ o.place ∧ ((x :: es).map Entry.block).modify (o.place - n) (Block.append t)
            = ((x :: es).map (Entry.after (.event (.blockDelta index (.text t))))).map
              Entry.block := by
        intro hes hfind hx
        obtain ⟨hplace, hmodify⟩ := ih hes hfind
        have hsub : o.place - n = o.place - (n + 1) + 1 := by omega
        refine ⟨by omega, ?_⟩
        rw [List.map_cons, hsub, List.modify_succ_cons, hmodify, List.map_cons, List.map_cons, hx]
      obtain ⟨b, _ | i⟩ := x
      · exact hskip hdistinct h rfl
      · obtain ⟨hi, hes⟩ := List.nodup_cons.mp hdistinct
        by_cases hindex : i = index
        · subst hindex
          have ho : o = ⟨i, n⟩ := by
            rw [openTextsFrom, List.find?_cons_of_pos (by simp)] at h
            exact (Option.some.inj h).symm
          have htail : (es.map (Entry.after (.event (.blockDelta i (.text t))))).map Entry.block
              = es.map Entry.block := by
            refine map_block_after fun j hj => if_neg ?_
            rintro rfl
            exact hi hj
          subst ho
          refine ⟨Nat.le_refl n, ?_⟩
          rw [Nat.sub_self, List.map_cons, List.modify_zero_cons, List.map_cons, List.map_cons,
            htail]
          simp [Entry.after, Stroke.deltaAt?]
        · rw [openTextsFrom, List.find?_cons_of_neg (by simpa using hindex)] at h
          refine hskip hes h (Entry.block_after fun j hj => if_neg ?_)
          obtain rfl := Option.some.inj hj
          exact fun heq => hindex heq.symm

/-! ## What the draft holds -/

/-- A draft whose content and open blocks are those of entries. No index is open twice. -/
structure Draft.Holds (d : Draft) (es : List Entry) : Prop where
  content : d.content = es.map Entry.block
  openTexts : d.openTexts = openTextsFrom 0 es
  distinct : (openIndexes es).Nodup

namespace Draft

variable {d d' : Draft} {es : List Entry}

/-- Strokes without delta or stop leave the entries as they are. -/
theorem map_after_idle {s : Stroke} (hdelta : ∀ index, s.deltaAt? index = none)
    (hstops : ∀ index, s.stops index = false) (es : List Entry) :
    es.map (Entry.after s) = es := by
  refine (List.map_congr_left fun e _ => ?_).trans (List.map_id es)
  obtain ⟨b, _ | index⟩ := e
  · rfl
  · simp [Entry.after, hdelta, hstops, Block.append_nil]

theorem Holds.openText (h : d.Holds es) {index : Number} {t : Text}
    (hopen : d.openText index t = .ok d') : d'.Holds (es ++ [⟨.text t, some index⟩]) := by
  rw [Draft.openText] at hopen
  split at hopen
  · cases hopen
  · rename_i hclosed
    cases hopen
    have hfresh : index ∉ openIndexes es := by
      rw [Draft.openAt?, h.openTexts] at hclosed
      rw [← map_index_openTextsFrom 0]
      simpa using hclosed
    refine ⟨?_, ?_, ?_⟩
    · rw [h.content, List.map_append]
      rfl
    · rw [openTextsFrom_concat, h.openTexts, h.content, List.length_map, Nat.zero_add]
      rfl
    · rw [openIndexes, List.filterMap_append]
      refine List.nodup_append.mpr ⟨h.distinct, by simp, ?_⟩
      intro i hi j hj
      obtain rfl : j = index := by simpa using hj
      rintro rfl
      exact hfresh hi

theorem Holds.appendText (h : d.Holds es) {index : Number} {t : Text}
    (happend : d.appendText index t = .ok d') :
    d'.Holds (es.map (Entry.after (.event (.blockDelta index (.text t))))) := by
  rw [Draft.appendText] at happend
  split at happend
  · cases happend
  · rename_i o ho
    cases happend
    rw [Draft.openAt?, h.openTexts] at ho
    obtain ⟨-, hmodify⟩ := modify_place h.distinct ho t
    refine ⟨?_, ?_, ?_⟩
    · show d.content.modify o.place (Block.append t) = _
      rw [h.content, ← hmodify, Nat.sub_zero]
    · rw [openTextsFrom_after]
      exact h.openTexts.trans (List.filter_true _).symm
    · rw [openIndexes_after]
      exact h.distinct.filter _

theorem Holds.closeText (h : d.Holds es) {index : Number}
    (hclose : d.closeText index = .ok d') :
    d'.Holds (es.map (Entry.after (.event (.blockStop index)))) := by
  rw [Draft.closeText] at hclose
  split at hclose
  · cases hclose
    refine ⟨?_, ?_, ?_⟩
    · rw [map_block_after fun _ _ => rfl]
      exact h.content
    · rw [openTextsFrom_after]
      show d.openTexts.filter _ = _
      rw [h.openTexts]
      refine List.filter_congr fun o _ => ?_
      simp [Stroke.stops, eq_comm]
    · rw [openIndexes_after]
      exact h.distinct.filter _
  · cases hclose

theorem Holds.appendBlocks (h : d.Holds es) (b : Block) :
    (d.appendBlocks [b]).Holds (es ++ [⟨b, none⟩]) := by
  refine ⟨?_, ?_, ?_⟩
  · rw [List.map_append, ← h.content]
    rfl
  · rw [openTextsFrom_concat]
    exact h.openTexts.trans (List.append_nil _).symm
  · rw [openIndexes, List.filterMap_append]
    exact (List.append_nil (openIndexes es)).symm ▸ h.distinct

/-- What a draft holds changes by a stroke as the entries do. -/
theorem Holds.apply (h : d.Holds es) {s : Stroke} (hstart : s.startsMessage = false)
    {r : Response} (happly : d.apply s.merged = .ok (d', r)) :
    d'.Holds (es.map (Entry.after s) ++ entries [s]) := by
  cases s with
  | tool call =>
      obtain ⟨-, rfl, -⟩ := apply_tools_eq_ok happly
      rw [map_after_idle (fun _ => rfl) (fun _ => rfl)]
      exact h.appendBlocks (.toolUse call.finished)
  | event e =>
      cases takes_of_applyEvent happly with
      | messageStart header => cases hstart
      | @textStart _ index t _ hopen =>
          rw [map_after_idle (fun _ => rfl) (fun _ => rfl)]
          have hentry : entries [.event (.blockStart index (.text t))]
              = [⟨.text t, some index⟩] := by
            simp [entries, Stroke.block?, Stroke.openAt?, textAfter]
          rw [hentry]
          exact h.openText hopen
      | textDelta _ happend =>
          exact (List.append_nil (es.map _)).symm ▸ h.appendText happend
      | blockStop _ hclose =>
          exact (List.append_nil (es.map _)).symm ▸ h.closeText hclose
      | messageDelta stop usage =>
          rw [map_after_idle (fun _ => rfl) (fun _ => rfl)]
          exact (List.append_nil es).symm ▸ ⟨h.content, h.openTexts, h.distinct⟩
      | messageStop =>
          rw [map_after_idle (fun _ => rfl) (fun _ => rfl)]
          exact (List.append_nil es).symm ▸ h
      | ping =>
          rw [map_after_idle (fun _ => rfl) (fun _ => rfl)]
          exact (List.append_nil es).symm ▸ h
      | unknown type =>
          rw [map_after_idle (fun _ => rfl) (fun _ => rfl)]
          exact (List.append_nil es).symm ▸ h

/-- A draft that has taken strokes holds what they have written since the last start. -/
def Records (d : Draft) (past : List Stroke) : Prop := d.Holds (entries (sinceStart past))

theorem Records.content {past : List Stroke} (h : d.Records past) :
    d.content = written (sinceStart past) :=
  (Holds.content h).trans (map_block_entries _)

theorem records_blank : blank.Records [] := ⟨rfl, rfl, List.nodup_nil⟩

theorem Records.apply {past : List Stroke} (h : d.Records past) {s : Stroke} {r : Response}
    (happly : d.apply s.merged = .ok (d', r)) : d'.Records (past ++ [s]) := by
  rw [Records, sinceStart]
  cases hstart : s.startsMessage with
  | false =>
      rw [List.rtakeWhile_concat_pos _ _ _ (by simp [hstart]), entries_concat]
      exact Holds.apply h hstart happly
  | true =>
      rw [List.rtakeWhile_concat_neg _ _ _ (by simp [hstart])]
      unfold Stroke.startsMessage at hstart
      split at hstart
      · cases happly
        exact ⟨rfl, rfl, List.nodup_nil⟩
      · cases hstart

/-- The response of a stroke shows what the stroke added, or the whole content. -/
theorem Records.shows {past : List Stroke} (h : d.Records past) {s : Stroke} {r : Response}
    (happly : d.apply s.merged = .ok (d', r)) :
    r.shown.map (fun r => (r.type, r.content))
      = ((s.shows? past).toList).map fun (type, content) => (.value type, content) := by
  cases s with
  | tool call =>
      obtain ⟨-, -, rfl⟩ := apply_tools_eq_ok happly
      rfl
  | event e =>
      cases takes_of_applyEvent happly with
      | @textStart _ index t =>
          cases t <;> rfl
      | messageStop =>
          show [(_, d.content)] = _
          rw [h.content]
          rfl
      | _ => rfl

theorem Writes.shown {ss : List Stroke} {rs : List Response} (hwrites : d.Writes ss rs d')
    {past : List Stroke} (h : d.Records past) :
    rs.map (fun r => (r.type, r.content))
      = (shownAfter past ss).map fun (type, content) => (.value type, content) := by
  induction hwrites generalizing past with
  | nil => rfl
  | cons happly _ ih =>
      rw [List.map_append, shownAfter, List.map_append, h.shows happly, ih (h.apply happly)]

end Draft

/-- A reduction that does not fail shows, stroke by stroke, what has been written. Each text delta,
each start of a text that is not empty and each tool block gives one response with just that, and
each end of a message gives one response with all that was written since its last start. -/
theorem reduceStream_written {payloads : List Text}
    (h : (reduceStream (.ofList payloads none)).failure = none) :
    Accepted payloads ∧
      (reduceStream (.ofList payloads none)).items.map (fun r => (r.type, r.content))
        = (shownAfter [] (strokes (Event.decoded payloads))).map
            fun (type, content) => (.value type, content) := by
  obtain ⟨haccepted, d, hwrites⟩ := reduceStream_writes h
  exact ⟨haccepted, hwrites.shown Draft.records_blank⟩

/-- A stream with two open texts, a tool block under the index of one of them, an index that is used
again, a second message, and a tool block that is never stopped. -/
def interleavedStream : List Event :=
  [.messageStart ⟨"m1", "claude", "assistant", ⟨.missing, .missing⟩⟩,
    .blockStart (.ofNat 0) (.text "a"), .blockStart (.ofNat 1) (.text []),
    .blockDelta (.ofNat 0) (.text "b"), .blockStart (.ofNat 0) (.toolUse "t1" "clock"),
    .blockDelta (.ofNat 0) (.inputJson "\x7b\x7d"), .blockStop (.ofNat 0),
    .blockDelta (.ofNat 0) (.text "c"), .blockStop (.ofNat 0),
    .blockStart (.ofNat 0) (.text "d"), .blockDelta (.ofNat 1) (.text "e"), .messageStop,
    .messageStart ⟨"m2", "claude", "assistant", ⟨.missing, .missing⟩⟩,
    .blockStart (.ofNat 1) (.text "f"), .messageStop,
    .blockStart (.ofNat 2) (.toolUse "t2" "clock"), .blockDelta (.ofNat 1) (.text "g")]

/-- The payloads of the stream; what follows the done mark is not read. -/
def interleavedPayloads : List Text :=
  interleavedStream.map (fun e => e.toJson.render) ++ [Sse.doneMark, "?"]

/-- The deltas reach the blocks that are open when they arrive. -/
theorem reduceStream_written_interleaved :
    (reduceStream (.ofList interleavedPayloads none)).failure = none ∧
    (reduceStream (.ofList interleavedPayloads none)).items.map (fun r => (r.type, r.content))
      = [(.value "content_block_start", [.text "a"]), (.value "content_block_delta", [.text "b"]),
        (.value "tool_use", [.toolUse ⟨"t1", "clock", []⟩]),
        (.value "content_block_delta", [.text "c"]), (.value "content_block_start", [.text "d"]),
        (.value "content_block_delta", [.text "e"]),
        (.value "message_stop", [.text "abc", .text "e", .toolUse ⟨"t1", "clock", []⟩, .text "d"]),
        (.value "content_block_start", [.text "f"]), (.value "message_stop", [.text "f"])] := by
  have hok : (reduceStream (.ofList interleavedPayloads none)).failure = none := by decide +kernel
  refine ⟨hok, (reduceStream_written hok).2.trans ?_⟩
  decide +kernel

end ChatRelay
