import ChatRelay.Proofs.Event.Shape
import ChatRelay.Proofs.Stream.DoneMark
import ChatRelay.Proofs.Stream.OnePass
import ChatRelay.Proofs.Stream.Payloads

/-!
# Streams that are cut off

The unterminated rest of a stream counts as a frame, so a stream that is cut off hands a damaged
payload on. It can do no harm. Up to the cut frame the payloads are those of the whole stream
(`reading_cut`), and a cut frame has no payload or a cut one (`payload?_cut`): a beginning of the
payload it has in the whole stream, with a replacement character behind it where the cut goes
through a character. A cut payload that the whole stream does without failure is taken for the same
or is no JSON text (`onePayload_cut`), and `EndsWithin` carries this over a run.
-/

namespace ChatRelay

namespace Sse

/-! ## Cut frames -/

theorem payload?_concat_lineFeed (frame : Text) :
    payload? (frame ++ [lineFeed]) = payload? frame := by
  obtain ⟨ls, l, m, ms, hframe, hfeed, happ⟩ := Text.splitOn_append lineFeed frame [lineFeed]
  have hlines : Text.splitOn lineFeed [lineFeed] = [[], []] := rfl
  rw [hlines] at hfeed
  obtain ⟨rfl, rfl⟩ := List.cons.inj hfeed
  have hsplit : Text.splitOn lineFeed (frame ++ [lineFeed])
      = Text.splitOn lineFeed frame ++ [[]] := by
    rw [happ, hframe, List.append_nil, List.append_assoc]
    rfl
  have hblank : [([] : Text)].filterMap dataValue? = [] := rfl
  rw [payload?, hsplit, List.filterMap_append, hblank, List.append_nil, payload?]

theorem lineValue_mark (k : Text) :
    lineValue (dataMark ++ k) = if k.head? = some (Text.unit ' ') then k.tail else k := by
  rw [lineValue, List.drop_left]

theorem dataValue?_mark (k : Text) :
    dataValue? (dataMark ++ k) = some (lineValue (dataMark ++ k)) := by
  rw [dataValue?_eq, if_pos (List.isPrefixOf_iff_prefix.mpr (List.prefix_append dataMark k))]

theorem exists_of_dataValue? {l v : Text} (h : dataValue? l = some v) :
    ∃ k, l = dataMark ++ k := by
  rw [dataValue?_eq] at h
  split at h
  · obtain ⟨k, hk⟩ := List.isPrefixOf_iff_prefix.mp ‹_›
    exact ⟨k, hk.symm⟩
  · cases h

/-- A line that is a data line in spite of the cut was one before, with more in its value. -/
theorem dataValue?_cut {l x : Text} (hx : x = [] ∨ x = [0xFFFD]) {v' : Text}
    (h : dataValue? (l ++ x) = some v') (m : Text) :
    ∃ q v, dataValue? (l ++ m) = some v ∧ q <+: v ∧ v' = q ++ x := by
  -- The replacement character is not in the mark, so the mark stands before it.
  obtain ⟨k, rfl⟩ : ∃ k, l = dataMark ++ k := by
    obtain ⟨k', hk'⟩ := exists_of_dataValue? h
    rcases List.append_eq_append_iff.mp hk' with ⟨a, hmark, hxa⟩ | ⟨k, rfl, -⟩
    · cases a with
      | nil => exact ⟨[], by rw [hmark, List.append_nil, List.append_nil]⟩
      | cons u a =>
          rcases hx with rfl | rfl
          · cases hxa
          · obtain ⟨rfl, -⟩ := List.cons.inj hxa
            have hmem : (0xFFFD : CodeUnit) ∈ dataMark := by
              rw [hmark]
              exact List.mem_append_right l (List.mem_cons_self ..)
            exact absurd hmem (by decide)
    · exact ⟨k, rfl⟩
  rw [List.append_assoc, dataValue?_mark, lineValue_mark] at h
  obtain rfl := Option.some.inj h
  rw [List.append_assoc, dataValue?_mark, lineValue_mark]
  cases k with
  | nil =>
      refine ⟨[], _, rfl, List.nil_prefix, ?_⟩
      rcases hx with rfl | rfl <;> rfl
  | cons u k =>
      by_cases hu : u = Text.unit ' '
      · exact ⟨k, _, rfl, by simp [hu], by simp [hu]⟩
      · exact ⟨u :: k, _, rfl, by simp [hu], by simp [hu]⟩

/-- The payload of the values of data lines. -/
def ofValues : List Text → Option Text
  | [] => none
  | v :: vs => some (Text.joinWith [lineFeed] (v :: vs))

theorem payload?_eq_ofValues (frame : Text) :
    payload? frame = ofValues ((Text.splitOn lineFeed frame).filterMap dataValue?) := by
  rw [payload?]
  cases (Text.splitOn lineFeed frame).filterMap dataValue? <;> rfl

theorem ofValues_ne_nil {vs : List Text} (h : vs ≠ []) :
    ofValues vs = some (Text.joinWith [lineFeed] vs) := by
  cases vs with
  | nil => exact absurd rfl h
  | cons v vs => rfl

/-- A frame that is cut has a cut payload, or none. -/
theorem payload?_cut {r g x : Text} (hr : r <+: g ++ [lineFeed]) (hx : x = [] ∨ x = [0xFFFD])
    {p' : Text} (h : payload? (r ++ x) = some p') : ∃ p, payload? g = some p ∧ Cut p' p := by
  obtain ⟨y, hy⟩ := hr
  have hlinesx : Text.splitOn lineFeed x = [x] := by rcases hx with rfl | rfl <;> rfl
  -- The lines `ls` are whole in both frames; the cut goes through `l`, which `m` goes on.
  obtain ⟨ls, l, m, ms, hlr, hly, hlines⟩ := Text.splitOn_append lineFeed r y
  obtain ⟨ls', l', _, _, hlr', hlx, hcut⟩ := Text.splitOn_append lineFeed r x
  rw [hlinesx] at hlx
  obtain ⟨rfl, rfl⟩ := List.cons.inj hlx
  rw [hlr] at hlr'
  obtain ⟨rfl, hl⟩ := List.append_inj' hlr' rfl
  obtain ⟨rfl, -⟩ := List.cons.inj hl
  rw [payload?_eq_ofValues, hcut, List.filterMap_append] at h
  rw [← payload?_concat_lineFeed, ← hy, payload?_eq_ofValues, hlines, List.filterMap_append]
  generalize ls.filterMap dataValue? = vs at h ⊢
  obtain ⟨a, ha, happ⟩ := Text.joinWith_append [lineFeed] vs
  cases hv : dataValue? (l ++ x) with
  | none =>
      rw [List.filterMap_cons_none hv, List.filterMap_nil, List.append_nil] at h
      cases vs with
      | nil => cases h
      | cons v vs =>
          obtain rfl := Option.some.inj h
          exact ⟨_, rfl, _, [], Text.joinWith_prefix_append [lineFeed] (v :: vs) _, Or.inl rfl,
            (List.append_nil _).symm⟩
  | some v' =>
      obtain ⟨q, v, hfull, hq, rfl⟩ := dataValue?_cut hx hv m
      rw [List.filterMap_cons_some hv, List.filterMap_nil,
        ofValues_ne_nil (List.append_ne_nil_of_right_ne_nil vs (List.cons_ne_nil _ _)), happ] at h
      rw [List.filterMap_cons_some hfull,
        ofValues_ne_nil (List.append_ne_nil_of_right_ne_nil vs (List.cons_ne_nil _ _)), happ]
      obtain rfl := Option.some.inj h
      refine ⟨_, rfl, a ++ q, x, ?_, hx, ?_⟩
      · exact (List.prefix_append_right_inj a).mpr (hq.trans (List.prefix_append ..))
      · rw [List.flatMap_nil, List.append_nil, List.append_assoc]

/-! ## Cut streams -/

/-- What a cut leaves of what would have stood behind it: nothing, or a cut of the first item. -/
inductive CutOff : List Text → List Text → Prop
  | nothing (rest : List Text) : CutOff [] rest
  | within {p' p : Text} (rest : List Text) : Cut p' p → CutOff [p'] (p :: rest)

/-- The payloads of a beginning of a stream are those of the stream, up to one that may be cut. -/
theorem reading_cut {part whole : List UInt8} (h : part <+: whole) :
    ∃ pre tail rest, reading (Utf8.text part) none = .ofList (pre ++ tail) none ∧
      reading (Utf8.text whole) none = .ofList (pre ++ rest) none ∧ CutOff tail rest := by
  obtain ⟨more, rfl⟩ := h
  rw [text_eq_run, text_eq_run, Utf8.Decoder.run_append]
  generalize (Utf8.Decoder.fresh.run part).2 = t
  generalize (Utf8.Decoder.fresh.run part).1 = d
  simp only [reading, List.append_assoc]
  rw [withoutReturns_append, frames_replacement (withoutReturns_flush d),
    withoutReturns_append]
  generalize withoutReturns t = t
  generalize withoutReturns ((d.run more).2 ++ (d.run more).1.flush) = y
  have hframes : frames (t ++ y) = (pieces t).1 ++ frames ((pieces t).2 ++ y) := by
    rw [frames, pieces_append, List.append_assoc, frames]
  obtain ⟨g, fs, hg, hprefix⟩ := prefix_head_frames (not_blankLine_infix_rest t) y
  refine ⟨(pieces t).1.filterMap payload?,
    [(pieces t).2 ++ withoutReturns d.flush].filterMap payload?, (g :: fs).filterMap payload?,
    ?_, ?_, ?_⟩
  · rw [List.filterMap_append]
  · rw [hframes, hg, List.filterMap_append]
  · cases hp : payload? ((pieces t).2 ++ withoutReturns d.flush) with
    | none =>
        rw [List.filterMap_cons_none hp]
        exact .nothing _
    | some p' =>
        obtain ⟨p, hfull, hcut⟩ := payload?_cut hprefix (withoutReturns_flush d) hp
        rw [List.filterMap_cons_some hp, List.filterMap_cons_some hfull]
        exact .within _ hcut

end Sse

/-! ## Cut payloads -/

theorem onePayload_malformed {p : Text} (hmark : p.trim ≠ Sse.doneMark)
    (hp : Json.parse? p = none) (s : OnePass.State) :
    onePayload.react s p = .stop [] (some (.violation (.malformedPayload p))) :=
  onePayload_error hmark (by simp only [Event.parse, hp]) s

theorem onePayload_congr {p p' : Text} (hmark : p.trim ≠ Sse.doneMark)
    (hmark' : p'.trim ≠ Sse.doneMark) (h : Event.parse p' = Event.parse p) (s : OnePass.State) :
    onePayload.react s p' = onePayload.react s p := by
  simp only [onePayload, if_neg hmark, if_neg hmark', h]

/-- Where a payload causes no failure, what a cut leaves of it is taken for the same or is reported
as no JSON text. -/
theorem onePayload_cut {p p' : Text} (hcut : Cut p' p) {s : OnePass.State}
    (hok : ∀ out f, onePayload.react s p ≠ .stop out (some f)) :
    onePayload.react s p' = onePayload.react s p ∨
      onePayload.react s p' = .stop [] (some (.violation (.malformedPayload p'))) := by
  by_cases hmark : p.trim = Sse.doneMark
  · by_cases hmark' : p'.trim = Sse.doneMark
    · left
      simp only [onePayload, if_pos hmark, if_pos hmark']
    · exact Or.inr (onePayload_malformed hmark' (Sse.parse?_cut_mark hmark hcut) s)
  · cases hp : Event.parse p with
    | error v => exact absurd (onePayload_error hmark hp s) (hok [] (.violation v))
    | ok e =>
        obtain ⟨ms, hms, he⟩ := Event.parse_eq_ok.mp hp
        have hmark' := Sse.trim_cut_object hms hcut
        cases hp' : Json.parse? p' with
        | none => exact Or.inr (onePayload_malformed hmark' hp' s)
        | some v =>
            left
            obtain ⟨q, x, hq, hx, rfl⟩ := hcut
            have hv : v = .obj ms := by
              rcases hx with rfl | rfl
              · rw [List.append_nil] at hp'
                exact Json.parse?_object_beginning hms hq hp'
              · rw [Json.parse?_concat_replacement hms hq] at hp'
                cases hp'
            subst hv
            exact onePayload_congr hmark hmark'
              ((Event.parse_eq_ok.mpr ⟨ms, hp', he⟩).trans hp.symm) s

/-! ## Cut runs -/

theorem reduceChunks_of_reading {chunks : List (List UInt8)} {payloads : List Text}
    (h : Sse.reading (Utf8.text chunks.flatten) none = .ofList payloads none) :
    reduceChunks (.ofList (chunks.map .bytes) none) =
      ⟨(onePayload.run .start (payloads.map .yield)).1,
        (onePayload.run .start (payloads.map .yield)).2.failure⟩ := by
  rw [reduceChunks, Sse.payloads_bytes, h, reduceStream_ofList]

/-- How the end of a cut run relates to that of the whole run. -/
structure EndsWithin (part whole : List (Act Effect Response) × Progress OnePass.State) : Prop where
  acts : part.1 <+: whole.1
  failure : ∀ f, part.2.failure = some f → ∃ data, f = .violation (.malformedPayload data)

/-- One cut payload: its run is within the run over the whole payload and whatever follows. -/
theorem EndsWithin.of_cutOff {tail rest : List Text} (hcut : Sse.CutOff tail rest)
    {s : OnePass.State} (hok : (onePayload.run s (rest.map .yield)).2.failure = none) :
    EndsWithin (onePayload.run s (tail.map .yield)) (onePayload.run s (rest.map .yield)) := by
  cases hcut with
  | nothing => exact ⟨List.nil_prefix, nofun⟩
  | @within p' p rest hcut =>
      have hreact : ∀ out f, onePayload.react s p ≠ .stop out (some f) := by
        intro out f h
        rw [List.map_cons, Stage.run_yield_stop h] at hok
        cases hok
      rw [List.map_cons, List.map_cons, List.map_nil]
      rcases onePayload_cut hcut hreact with h | h
      · cases hp : onePayload.react s p with
        | next s' out =>
            rw [Stage.run_yield_next (h.trans hp), Stage.run_yield_next hp]
            exact ⟨(List.prefix_append_right_inj out).mpr List.nil_prefix, nofun⟩
        | stop out f =>
            rw [Stage.run_yield_stop (h.trans hp), Stage.run_yield_stop hp]
            cases f with
            | none => exact ⟨List.prefix_rfl, nofun⟩
            | some f => exact absurd hp (hreact out f)
      · rw [Stage.run_yield_stop h]
        refine ⟨List.nil_prefix, fun f hf => ?_⟩
        cases hf
        exact ⟨p', rfl⟩

/-- A common beginning keeps a cut run within the whole run. -/
theorem EndsWithin.of_append {pre tail rest : List Text} (hcut : Sse.CutOff tail rest)
    {s : OnePass.State} (hok : (onePayload.run s ((pre ++ rest).map .yield)).2.failure = none) :
    EndsWithin (onePayload.run s ((pre ++ tail).map .yield))
      (onePayload.run s ((pre ++ rest).map .yield)) := by
  rw [List.map_append, Stage.run_append] at hok ⊢
  rw [List.map_append, Stage.run_append]
  cases hpre : onePayload.run s (pre.map .yield) with
  | mk out progress =>
      rw [hpre] at hok
      cases progress with
      | running s' =>
          obtain ⟨hacts, hfailure⟩ := EndsWithin.of_cutOff hcut hok
          exact ⟨(List.prefix_append_right_inj out).mpr hacts, hfailure⟩
      | ended f =>
          have hf : f = none := hok
          subst hf
          exact ⟨List.prefix_rfl, nofun⟩

/-- A stream that is cut off at any byte gives a beginning of the responses of the whole stream, and
if it fails then because the last payload is no JSON text. -/
theorem reduceChunks_cut {whole part : List (List UInt8)}
    (hpart : part.flatten <+: whole.flatten)
    (hwhole : (reduceChunks (.ofList (whole.map .bytes) none)).failure = none) :
    (reduceChunks (.ofList (part.map .bytes) none)).items
        <+: (reduceChunks (.ofList (whole.map .bytes) none)).items ∧
      ∀ f, (reduceChunks (.ofList (part.map .bytes) none)).failure = some f →
        (∃ data, f = .violation (.malformedPayload data)) ∧
        f.name = "StreamProtocolError" ∧ f.message = "Stream payload is not valid JSON" := by
  obtain ⟨pre, tail, rest, htail, hrest, hcut⟩ := Sse.reading_cut hpart
  rw [reduceChunks_of_reading hrest] at hwhole ⊢
  rw [reduceChunks_of_reading htail]
  obtain ⟨hacts, hfailure⟩ := EndsWithin.of_append hcut hwhole
  refine ⟨hacts.filterMap _, fun f hf => ?_⟩
  obtain ⟨data, rfl⟩ := hfailure f hf
  exact ⟨⟨data, rfl⟩, rfl, rfl⟩

/-- The bytes of a stream with one text block of one character. -/
def oneLetterStream : List UInt8 := Utf8.encode
  ("data: \x7b\"type\":\"message_start\",\"message\":\x7b\"id\":\"m\",\"model\":\"x\",\"role\":\"y\"\x7d\x7d\n\n"
    ++ "data: \x7b\"type\":\"content_block_start\",\"index\":0,"
    ++ "\"content_block\":\x7b\"type\":\"text\",\"text\":\"é\"\x7d\x7d\n\n"
    ++ "data: [DONE]\n\n" : String)

/-- The stream cut inside of the character, in two chunks, gives no response and fails. -/
theorem reduceChunks_cut_oneLetter :
    [oneLetterStream.take 100, (oneLetterStream.drop 100).take 62].flatten
        <+: [oneLetterStream].flatten ∧
      (reduceChunks (.ofList ([oneLetterStream].map .bytes) none)).failure = none ∧
      (reduceChunks (.ofList ([oneLetterStream.take 100,
        (oneLetterStream.drop 100).take 62].map .bytes) none)).failure.isSome ∧
      (reduceChunks (.ofList ([oneLetterStream.take 100,
        (oneLetterStream.drop 100).take 62].map .bytes) none)).items
        <+: (reduceChunks (.ofList ([oneLetterStream].map .bytes) none)).items := by
  have hpart : [oneLetterStream.take 100, (oneLetterStream.drop 100).take 62].flatten
      <+: [oneLetterStream].flatten := by
    refine ⟨oneLetterStream.drop 162, ?_⟩
    simp only [List.flatten_cons, List.flatten_nil, List.append_nil, ← List.take_add,
      List.take_append_drop]
  have hruns : (reduceChunks (.ofList ([oneLetterStream].map .bytes) none)).failure = none ∧
      (reduceChunks (.ofList ([oneLetterStream.take 100,
        (oneLetterStream.drop 100).take 62].map .bytes) none)).failure.isSome := by
    decide +kernel
  exact ⟨hpart, hruns.1, hruns.2, (reduceChunks_cut hpart hruns.1).1⟩

end ChatRelay
