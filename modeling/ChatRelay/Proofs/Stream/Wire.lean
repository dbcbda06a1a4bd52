import ChatRelay.ChatEvent
import ChatRelay.Proofs.Json.Printed
import ChatRelay.Proofs.Stream.Payloads

/-!
# Frames on the wire

What `Sse.frame` writes, the reading of a stream reads back: a frame is a name line and a data line
with a blank line behind them, and neither line can hold a line feed, because the text of a value is
one line. So no value can end its frame early or add a line to it, and frame after frame each gives
its payload (`payloads_frames`), in whatever chunks their bytes arrive.
-/

namespace ChatRelay

namespace Sse

/-! ## Lines -/

/-- A line feed behind a line makes no blank line, unless one follows. -/
theorem not_blankLine_line {l t : Text} (hl : lineFeed ∉ l) (hhead : t.head? ≠ some lineFeed)
    (ht : ¬ blankLine <:+: t) : ¬ blankLine <:+: l ++ lineFeed :: t := by
  induction l with
  | nil =>
      cases t with
      | nil => exact not_blankLine_infix_short (by simp)
      | cons v t =>
          rw [List.nil_append, blankLine_infix_cons, not_or]
          exact ⟨fun h => hhead (congrArg some h.2), ht⟩
  | cons u l ih =>
      obtain ⟨hu, hl⟩ := not_or.mp (mt List.mem_cons.mpr hl)
      obtain ⟨v, r, hv⟩ := List.exists_cons_of_ne_nil (l := l ++ lineFeed :: t) (by simp)
      have htail := ih hl
      rw [List.cons_append, hv, blankLine_infix_cons, not_or]
      rw [hv] at htail
      exact ⟨fun h => hu h.1.symm, htail⟩

/-- The line that names an event. -/
def nameLine (name : Text) : Text := "event: " ++ name

/-- The line with a payload. -/
def dataLine (payload : Json) : Text := "data: " ++ payload.render

/-- What a frame holds before the blank line that ends it. -/
def body (name : Text) (payload : Json) : Text :=
  Text.joinWith [lineFeed] [nameLine name, dataLine payload]

theorem frame_eq (name : Text) (payload : Json) :
    frame name payload = body name payload ++ [lineFeed, lineFeed] := by
  have hbreak : (("\ndata: " : String) : Text) = [lineFeed] ++ Text.ofString "data: " := rfl
  have hend : (("\n\n" : String) : Text) = [lineFeed, lineFeed] := rfl
  rw [frame, body, nameLine, dataLine, Text.joinWith, Text.joinWith, hbreak, hend]
  simp only [List.append_assoc]

variable {name : Text} {payload : Json}

theorem lineFeed_not_mem {t : Text} (h : t.Printed) : lineFeed ∉ t := by
  intro hmem
  exact absurd (h.noControl _ hmem) (by decide)

theorem printed_nameLine (h : name.Printed) : (nameLine name).Printed :=
  Text.Printed.append (.of_inner (by decide)) h

theorem printed_dataLine (payload : Json) : (dataLine payload).Printed :=
  Text.Printed.append (.of_inner (by decide)) (Json.printed_render payload)

/-- A frame gives its payload. -/
theorem payload?_body (h : name.Printed) (payload : Json) :
    payload? (body name payload) = some payload.render := by
  have hlines : ∀ l ∈ [nameLine name, dataLine payload], lineFeed ∉ l := by
    simp only [List.forall_mem_cons]
    exact ⟨lineFeed_not_mem (printed_nameLine h), lineFeed_not_mem (printed_dataLine payload),
      List.forall_mem_nil _⟩
  rw [payload?, body, Text.splitOn_joinWith (List.cons_ne_nil _ _) hlines]
  rfl

/-- A frame ends at its blank line and nowhere before. -/
theorem frames_frame (h : name.Printed) (payload : Json) (r : Text) :
    frames (frame name payload ++ r) = body name payload :: frames r := by
  have hname := lineFeed_not_mem (printed_nameLine h)
  have hdata := lineFeed_not_mem (printed_dataLine payload)
  have hhead : (dataLine payload ++ [lineFeed]).head? ≠ some lineFeed := by
    intro hhead
    cases hhead
  have hlast : ¬ blankLine <:+: dataLine payload ++ [lineFeed] :=
    not_blankLine_line hdata (by simp) (not_blankLine_infix_short (by simp))
  have hbody : ¬ blankLine <:+: body name payload ++ [lineFeed] := by
    have hsplit : body name payload ++ [lineFeed]
        = nameLine name ++ lineFeed :: (dataLine payload ++ [lineFeed]) := by
      simp only [body, Text.joinWith, List.append_assoc, List.cons_append, List.nil_append]
    rw [hsplit]
    exact not_blankLine_line hname hhead hlast
  rw [frame_eq, List.append_assoc, frames, List.cons_append, List.cons_append, List.nil_append,
    pieces_terminated hbody]
  rfl

/-! ## Frame after frame -/

/-- The text of frames. -/
def written (ws : List (Text × Json)) : Text := ws.flatMap fun w => frame w.1 w.2

theorem payload?_frames_written {ws : List (Text × Json)} (h : ∀ w ∈ ws, w.1.Printed) :
    (frames (written ws)).filterMap payload? = ws.map fun w => w.2.render := by
  induction ws with
  | nil => rfl
  | cons w ws ih =>
      obtain ⟨hw, hws⟩ := List.forall_mem_cons.mp h
      rw [written, List.flatMap_cons, frames_frame hw, ← written,
        List.filterMap_cons_some (payload?_body hw w.2), ih hws, List.map_cons]

theorem withoutReturns_printed {t : Text} (h : t.Printed) : withoutReturns t = t := by
  refine List.filter_eq_self.mpr fun u hu => decide_eq_true ?_
  rintro rfl
  exact absurd (h.noControl _ hu) (by decide)

theorem withoutReturns_frame (h : name.Printed) (payload : Json) :
    withoutReturns (frame name payload) = frame name payload := by
  have hbreak : withoutReturns [lineFeed] = [lineFeed] := rfl
  have hend : withoutReturns [lineFeed, lineFeed] = [lineFeed, lineFeed] := rfl
  rw [frame_eq, body, Text.joinWith, Text.joinWith, withoutReturns_append, withoutReturns_append,
    withoutReturns_append, withoutReturns_printed (printed_nameLine h),
    withoutReturns_printed (printed_dataLine payload), hbreak, hend]

theorem paired_frame (h : name.Printed) (payload : Json) : (frame name payload).Paired := by
  have hbreak : Text.Paired [lineFeed] := .unit rfl rfl .nil
  rw [frame_eq, body, Text.joinWith, Text.joinWith]
  exact (((printed_nameLine h).paired.append hbreak).append (printed_dataLine payload).paired).append
    (hbreak.append hbreak)

theorem withoutReturns_written {ws : List (Text × Json)} (h : ∀ w ∈ ws, w.1.Printed) :
    withoutReturns (written ws) = written ws := by
  induction ws with
  | nil => rfl
  | cons w ws ih =>
      obtain ⟨hw, hws⟩ := List.forall_mem_cons.mp h
      rw [written, List.flatMap_cons, withoutReturns_append, withoutReturns_frame hw, ← written,
        ih hws]

theorem paired_written {ws : List (Text × Json)} (h : ∀ w ∈ ws, w.1.Printed) :
    (written ws).Paired := by
  induction ws with
  | nil => exact .nil
  | cons w ws ih =>
      obtain ⟨hw, hws⟩ := List.forall_mem_cons.mp h
      rw [written, List.flatMap_cons]
      exact (paired_frame hw w.2).append (ih hws)

theorem head?_written (ws : List (Text × Json)) : (written ws).head? ≠ some 0xFEFF := by
  intro h
  cases ws <;> cases h

/-- Frames that are written one after another are read back, whatever chunks their bytes come in. -/
theorem payloads_frames {ws : List (Text × Json)} (h : ∀ w ∈ ws, w.1.Printed)
    {chunks : List (List UInt8)} (hchunks : chunks.flatten = Utf8.encode (written ws)) :
    (Flow.ofList (chunks.map .bytes) none).through payloads
      = .ofList (ws.map fun w => w.2.render) none := by
  rw [payloads_bytes, hchunks, Utf8.text_encode (paired_written h) (head?_written ws), reading,
    withoutReturns_written h, payload?_frames_written h]

end Sse

end ChatRelay
