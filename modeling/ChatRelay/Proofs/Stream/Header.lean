import ChatRelay.Proofs.Event.Reading
import ChatRelay.Proofs.Stream.Finality

/-!
# What a response says about its message

A message is told about itself at its start, which forgets what was known before, and by the deltas
behind it. Each delta may report a stop reason, a stop sequence and either of the counts, and each of
these four keeps the last value that was reported (`lastReport`), whatever becomes of the others: a
report that is left out or `null` changes nothing, and a count of zero is a report like any other.

`OnePass.State.Current` is what the machine keeps: as long as no violation is noted, the header of
the draft comes from the last start and the events since then. A response shows the header of the
draft in which its event results, outside of tool blocks (`OnePass.Steps.shows`), so every response
of a stream says what had been reported last by the event that it shows (`reduceStream_header`).
-/

namespace ChatRelay

/-! ## Reports -/

namespace Event

/-- Whether an event starts a message. -/
def startsMessage : Event → Bool
  | .messageStart _ => true
  | _ => false

/-- Whether an event says anything about the message as a whole. -/
def reports : Event → Bool
  | .messageStart _ => true
  | .messageDelta _ _ => true
  | _ => false

/-- The stop reason that an event reports. -/
def stopReason? : Event → Option Text
  | .messageDelta stop _ => stop.reason.value?
  | _ => none

/-- The stop sequence that an event reports. -/
def stopSequence? : Event → Option Text
  | .messageDelta stop _ => stop.sequence.value?
  | _ => none

/-- The token counts that an event reports, which may leave out either of them. -/
def usage? : Event → Option Usage
  | .messageStart header => some header.usage
  | .messageDelta _ usage => usage
  | _ => none

/-- The number of input tokens that an event reports. -/
def inputTokens? (e : Event) : Option Number := e.usage?.bind fun u => u.input.value?

/-- The number of output tokens that an event reports. -/
def outputTokens? (e : Event) : Option Number := e.usage?.bind fun u => u.output.value?

end Event

/-- The last value that events report. -/
def lastReport {α : Type} (report : Event → Option α) (es : List Event) : Option α :=
  (es.filterMap report).getLast?

/-- A message starts with a header, and no other message starts behind it. -/
structure LastStart (es : List Event) (header : Header) (later : List Event) : Prop where
  split : ∃ past, es = past ++ .messageStart header :: later
  last : ∀ e ∈ later, e.startsMessage = false

/-- A response says about its message what was reported last: by the start of the message, if it is
about names, and else by the start and the events behind it. -/
structure Response.HeaderFrom (r : Response) (header : Header) (later : List Event) : Prop where
  id : r.id = header.id
  model : r.model = header.model
  role : r.role = header.role
  stopReason : r.stopReason = .orNull (lastReport Event.stopReason? later)
  stopSequence : r.stopSequence = .orNull (lastReport Event.stopSequence? later)
  inputTokens : r.usage.input
    = .value ((lastReport Event.inputTokens? (.messageStart header :: later)).getD (.zero false))
  outputTokens : r.usage.output
    = .value ((lastReport Event.outputTokens? (.messageStart header :: later)).getD (.zero false))

section

variable {α : Type} {report : Event → Option α} {es : List Event} {e : Event}

theorem lastReport_concat : lastReport report (es ++ [e]) = (report e).or (lastReport report es) := by
  rw [lastReport, List.filterMap_append, List.getLast?_append]
  cases h : report e <;> simp [h, lastReport]

theorem lastReport_concat_none (h : report e = none) :
    lastReport report (es ++ [e]) = lastReport report es := by
  rw [lastReport_concat, h, Option.none_or]

theorem exists_of_lastReport {x : α} (h : lastReport report es = some x) :
    ∃ e ∈ es, report e = some x :=
  List.mem_filterMap.mp (List.mem_of_getLast? h)

end

theorem LastStart.start (es : List Event) (header : Header) :
    LastStart (es ++ [.messageStart header]) header [] :=
  ⟨⟨es, rfl⟩, List.forall_mem_nil _⟩

theorem LastStart.concat {es later : List Event} {header : Header} {e : Event}
    (h : LastStart es header later) (he : e.startsMessage = false) :
    LastStart (es ++ [e]) header (later ++ [e]) := by
  obtain ⟨⟨past, rfl⟩, hlast⟩ := h
  refine ⟨⟨past, by rw [List.append_assoc, List.cons_append]⟩, ?_⟩
  rw [List.forall_mem_append]
  exact ⟨hlast, List.forall_mem_singleton.mpr he⟩

/-! ## One event -/

namespace Response.HeaderFrom

variable {r : Response} {header : Header} {later : List Event} {e : Event}

/-- An event that says nothing about the message is not reflected in the header. -/
theorem concat (h : r.HeaderFrom header later) (he : e.reports = false) :
    r.HeaderFrom header (later ++ [e]) := by
  have hnone : e.stopReason? = none ∧ e.stopSequence? = none ∧ e.inputTokens? = none ∧
      e.outputTokens? = none := by
    cases e with
    | messageStart header => cases he
    | messageDelta stop usage => cases he
    | _ => exact ⟨rfl, rfl, rfl, rfl⟩
  obtain ⟨hreason, hsequence, hinput, houtput⟩ := hnone
  refine ⟨h.id, h.model, h.role, ?_, ?_, ?_, ?_⟩
  · rw [lastReport_concat_none hreason, h.stopReason]
  · rw [lastReport_concat_none hsequence, h.stopSequence]
  · rw [← List.cons_append, lastReport_concat_none hinput, h.inputTokens]
  · rw [← List.cons_append, lastReport_concat_none houtput, h.outputTokens]

theorem start (header : Header) : ((Draft.start header).respond .null []).HeaderFrom header [] := by
  obtain ⟨id, model, role, input, output⟩ := header
  refine ⟨rfl, rfl, rfl, rfl, rfl, ?_, ?_⟩
  · cases input <;> rfl
  · cases output <;> rfl

end Response.HeaderFrom

namespace Field

variable {α : Type} {f : Field α}

theorem unlessNull_orNull (h : f ≠ .missing) (o : Option α) :
    f.unlessNull (.orNull o) = .orNull (f.value?.or o) := by
  cases f with
  | missing => exact absurd rfl h
  | null => rfl
  | value x => rfl

theorem orElse_value (h : f ≠ .null) (x : α) :
    f.orElse (.value x) = .value (f.value?.getD x) := by
  cases f with
  | missing => rfl
  | null => exact absurd rfl h
  | value y => rfl

end Field

/-- A count that may be reported is not `null`. -/
theorem count_ne_null {f : Field Number}
    (h : f = .missing ∨ ∃ x : Number, x.IsCount ∧ f = .value x) : f ≠ .null := by
  rcases h with rfl | ⟨x, -, rfl⟩ <;> nofun

/-- A delta takes over what it reports and leaves the rest. -/
theorem Response.HeaderFrom.applyDelta {d : Draft} {header : Header} {later : List Event}
    (h : (d.respond .null []).HeaderFrom header later) {stop : StopInfo} {usage : Option Usage}
    (hsendable : (Event.messageDelta stop usage).Sendable) :
    ((d.applyDelta stop usage).respond .null []).HeaderFrom header
      (later ++ [.messageDelta stop usage]) := by
  obtain ⟨hreason, hsequence, husage⟩ := hsendable
  -- A delta without counts is a delta that leaves out both of them.
  have hreport : (usage.getD ⟨.missing, .missing⟩).Sendable := by
    cases usage with
    | none => exact ⟨.inl rfl, .inl rfl⟩
    | some u => exact husage u rfl
  have hinput : (Event.messageDelta stop usage).inputTokens?
      = (usage.getD ⟨.missing, .missing⟩).input.value? := by
    cases usage <;> rfl
  have houtput : (Event.messageDelta stop usage).outputTokens?
      = (usage.getD ⟨.missing, .missing⟩).output.value? := by
    cases usage <;> rfl
  refine ⟨h.id, h.model, h.role, ?_, ?_, ?_, ?_⟩
  · have hbefore : d.stopReason = _ := h.stopReason
    rw [lastReport_concat, Draft.respond, Draft.applyDelta, hbefore]
    exact Field.unlessNull_orNull hreason _
  · have hbefore : d.stopSequence = _ := h.stopSequence
    rw [lastReport_concat, Draft.respond, Draft.applyDelta, hbefore]
    exact Field.unlessNull_orNull hsequence _
  · have hbefore : d.usage.input = _ := h.inputTokens
    rw [← List.cons_append, lastReport_concat, hinput, Option.getD_or, Draft.respond,
      Draft.applyDelta, hbefore]
    exact Field.orElse_value (count_ne_null hreport.input) _
  · have hbefore : d.usage.output = _ := h.outputTokens
    rw [← List.cons_append, lastReport_concat, houtput, Option.getD_or, Draft.respond,
      Draft.applyDelta, hbefore]
    exact Field.orElse_value (count_ne_null hreport.output) _

namespace Draft

/-- A draft and one behind it that differ in their blocks at most. -/
structure SameHeader (d d' : Draft) : Prop where
  started : d'.started = d.started
  header : d'.respond .null [] = d.respond .null []

variable {d d' : Draft} {index : Number} {t : Text}

theorem sameHeader_openText (h : d.openText index t = .ok d') : d.SameHeader d' := by
  rw [openText] at h
  split at h
  · cases h
  · cases h
    exact ⟨rfl, rfl⟩

theorem sameHeader_appendText (h : d.appendText index t = .ok d') : d.SameHeader d' := by
  rw [appendText] at h
  split at h
  · cases h
  · cases h
    exact ⟨rfl, rfl⟩

theorem sameHeader_closeText (h : d.closeText index = .ok d') : d.SameHeader d' := by
  rw [closeText] at h
  split at h
  · cases h
    exact ⟨rfl, rfl⟩
  · cases h

end Draft

/-! ## What the machine keeps -/

namespace OnePass

variable {s s' : State} {e : Event} {es : List Event} {out : List (Act Effect Response)}

/-- As long as no violation is noted, the header of a message that has started comes from its start
and the events since then. -/
def State.Current (es : List Event) (s : State) : Prop :=
  s.draft.started = true → (∀ call ∈ s.call, call.violation = none) →
    ∃ header later, LastStart es header later ∧
      (s.draft.respond .null []).HeaderFrom header later

theorem State.Current.silent (h : s.Current es) (he : e.reports = false)
    (hdraft : s.draft.SameHeader s'.draft)
    (hcall : (∀ call ∈ s'.call, call.violation = none) → ∀ call ∈ s.call, call.violation = none) :
    s'.Current (es ++ [e]) := by
  intro hstarted hclean
  rw [hdraft.started] at hstarted
  obtain ⟨header, later, hlast, hheader⟩ := h hstarted (hcall hclean)
  have hstart : e.startsMessage = false := by
    cases e with
    | messageStart header => cases he
    | _ => rfl
  rw [hdraft.header]
  exact ⟨header, later ++ [e], hlast.concat hstart, hheader.concat he⟩

theorem State.Current.taken {d d' : Draft} {r : Response} {p : Text}
    (h : State.Current es ⟨d, none⟩) (hp : Event.parse p = .ok e) (htakes : d.Takes e d' r) :
    State.Current (es ++ [e]) ⟨d', none⟩ := by
  cases htakes with
  | messageStart header => exact fun _ _ => ⟨header, [], .start es header, .start header⟩
  | textStart _ hopen => exact h.silent rfl (Draft.sameHeader_openText hopen) id
  | textDelta _ happend => exact h.silent rfl (Draft.sameHeader_appendText happend) id
  | blockStop _ hclose => exact h.silent rfl (Draft.sameHeader_closeText hclose) id
  | messageDelta stop usage hstarted =>
      intro _ hclean
      obtain ⟨header, later, hlast, hheader⟩ := h hstarted hclean
      obtain ⟨ms, -, hdescribes⟩ := Event.parse_eq_ok_iff_writes.mp hp
      exact ⟨header, later ++ [.messageDelta stop usage], hlast.concat rfl,
        hheader.applyDelta (hdescribes.sendable rfl)⟩
  | _ => exact h.silent rfl ⟨rfl, rfl⟩ id

/-- A violation that is noted is not forgotten, and nothing is claimed behind it. -/
theorem State.Current.step {p : Text} (h : s.Current es) (hp : Event.parse p = .ok e)
    (hsteps : Steps s e s' out) : s'.Current (es ++ [e]) := by
  cases hsteps with
  | opens => exact h.silent rfl ⟨rfl, rfl⟩ fun _ => nofun
  | taken hd => exact h.taken hp (Draft.takes_of_applyEvent hd)
  | @fragment d call t =>
      refine h.silent rfl ⟨rfl, rfl⟩ fun hclean c hc => ?_
      cases hc
      exact hclean (call.extend t) rfl
  | @broken d call _ v =>
      intro _ hclean
      exact absurd (hclean _ rfl) (call.note_noted v)
  | finished hviolation =>
      refine h.silent rfl ⟨rfl, rfl⟩ fun _ call hcall => ?_
      cases hcall
      exact hviolation

/-- A response shows the header of the draft that its event leads to, outside of tool blocks. -/
theorem Steps.shows {r : Response} (h : Steps s e s' out) (hr : out.filterMap Act.item? = [r]) :
    s'.call = none ∧ s'.draft.started = true ∧
      ∃ type content, r = s'.draft.respond type content := by
  cases h with
  | @taken d d' _ r' hd =>
      rw [Act.items_yields, Response.shown] at hr
      split at hr
      case isTrue hshown =>
        cases hr
        refine ⟨rfl, ?_⟩
        cases Draft.takes_of_applyEvent hd with
        | @textStart _ index t hstarted hopen =>
            refine ⟨(Draft.sameHeader_openText hopen).started.trans hstarted, ?_⟩
            split
            · exact ⟨_, _, rfl⟩
            · exact ⟨_, _, rfl⟩
        | textDelta hstarted happend =>
            exact ⟨(Draft.sameHeader_appendText happend).started.trans hstarted, _, _, rfl⟩
        | messageStop hstarted => exact ⟨hstarted, _, _, rfl⟩
        | _ => cases hshown
      case isFalse => cases hr
  | finished _ hstarted =>
      rw [List.filterMap_append, Act.items_logs] at hr
      cases hr
      exact ⟨rfl, hstarted, _, _, rfl⟩
  | _ => cases hr

end OnePass

/-! ## The counts -/

theorem Event.mem_decoded {payloads : List Text} {e : Event} (h : e ∈ decoded payloads) :
    ∃ p, parse p = .ok e := by
  obtain ⟨hread, -⟩ := List.mem_filter.mp h
  obtain ⟨p, -, hp⟩ := List.mem_filterMap.mp hread
  cases hparse : parse p with
  | error v => rw [hparse] at hp; cases hp
  | ok e' =>
      rw [hparse] at hp
      cases hp
      exact ⟨p, hparse⟩

/-- The counts of an event that is read are counts. -/
theorem Event.sendable_of_usage? {p : Text} {e : Event} (hp : parse p = .ok e) {u : Usage}
    (hu : e.usage? = some u) : u.Sendable := by
  obtain ⟨ms, -, hdescribes⟩ := parse_eq_ok_iff_writes.mp hp
  cases e with
  | messageStart header =>
      cases hu
      exact hdescribes.sendable rfl
  | messageDelta stop usage =>
      obtain ⟨-, -, husage⟩ := hdescribes.sendable rfl
      exact husage u hu
  | _ => cases hu

theorem isCount_of_value? {f : Field Number} {x : Number}
    (h : f = .missing ∨ ∃ x : Number, x.IsCount ∧ f = .value x) (hx : f.value? = some x) :
    x.IsCount := by
  rcases h with rfl | ⟨y, hy, rfl⟩
  · cases hx
  · cases hx
    exact hy

/-- What is reported last is a count, if every report is. -/
theorem isCount_lastReport {report : Event → Option Number} {es : List Event}
    (h : ∀ e ∈ es, ∀ x, report e = some x → x.IsCount) :
    ((lastReport report es).getD (.zero false)).IsCount := by
  cases hlast : lastReport report es with
  | none => exact Number.isCount_zero
  | some x =>
      obtain ⟨e, he, hx⟩ := exists_of_lastReport hlast
      exact h e he x hx

theorem isCount_decoded {payloads : List Text} {e : Event} (h : e ∈ Event.decoded payloads) :
    (∀ x, e.inputTokens? = some x → x.IsCount) ∧ ∀ x, e.outputTokens? = some x → x.IsCount := by
  obtain ⟨p, hp⟩ := Event.mem_decoded h
  constructor
  · intro x hx
    obtain ⟨u, hu, hvalue⟩ := Option.bind_eq_some_iff.mp hx
    exact isCount_of_value? (Event.sendable_of_usage? hp hu).input hvalue
  · intro x hx
    obtain ⟨u, hu, hvalue⟩ := Option.bind_eq_some_iff.mp hx
    exact isCount_of_value? (Event.sendable_of_usage? hp hu).output hvalue

/-! ## Every response -/

/-- Every response of a stream says about its message what had been reported last by the payload
that shows it, and both of its counts are counts. -/
theorem reduceStream_header {payloads : List Text} {failure : Option Failure}
    {front back : List Response} {r : Response}
    (h : (reduceStream (.ofList payloads failure)).items = front ++ r :: back) :
    ∃ before p after header later, payloads = before ++ p :: after ∧
      (reduceStream (.ofList before none)).items = front ∧
      (reduceStream (.ofList (before ++ [p]) none)).items = front ++ [r] ∧
      (reduceStream (.ofList (before ++ [p]) none)).failure = none ∧
      LastStart (Event.decoded (before ++ [p])) header later ∧ r.HeaderFrom header later ∧
      ∃ input output : Number, r.usage = ⟨.value input, .value output⟩ ∧
        input.IsCount ∧ output.IsCount := by
  rw [items_reduceStream] at h
  obtain ⟨before, p, after, out, s, more, s', rfl, hrun, hout, hreact, hmore⟩ := run_shown h
  have hone : onePayload.run s [.yield p] = (more ++ [], .running s') :=
    Stage.run_yield_next hreact []
  have hwhole : onePayload.run .start ((before ++ [p]).map .yield) = (out ++ more, .running s') := by
    rw [List.map_append, List.map_singleton, Stage.run_trans hrun hone, List.append_nil]
  -- The payload has led to a state of which the header is known, and the response shows it.
  obtain hnil | ⟨e, -, hsteps⟩ := items_of_next hreact
  · rw [hmore] at hnil
    cases hnil
  obtain ⟨hcall, hstarted, type, content, rfl⟩ := hsteps.shows hmore
  have hblank : OnePass.State.Current [] .start := nofun
  have hcurrent : s'.Current (Event.decoded (before ++ [p])) :=
    onePayload_keeps (fun _ _ _ _ _ _ hcurrent hp hstep => hcurrent.step hp hstep) hblank hwhole
  obtain ⟨header, later, hlast, hheader⟩ := hcurrent hstarted (hcall ▸ nofun)
  obtain ⟨past, hsplit⟩ := hlast.split
  have hcount : ∀ e ∈ Event.messageStart header :: later,
      (∀ x, e.inputTokens? = some x → x.IsCount) ∧ ∀ x, e.outputTokens? = some x → x.IsCount :=
    fun e he => isCount_decoded (hsplit ▸ List.mem_append_right past he)
  refine ⟨before, p, after, header, later, rfl, ?_, ?_, ?_, hlast, ?_, ?_⟩
  · rw [items_reduceStream, hrun, hout]
  · rw [items_reduceStream, hwhole, List.filterMap_append, hout, hmore]
  · rw [reduceStream_ofList, hwhole]
    rfl
  · exact ⟨hheader.id, hheader.model, hheader.role, hheader.stopReason, hheader.stopSequence,
      hheader.inputTokens, hheader.outputTokens⟩
  · refine ⟨_, _, Usage.mk.injEq .. |>.mpr ⟨hheader.inputTokens, hheader.outputTokens⟩,
      isCount_lastReport fun e he => (hcount e he).1, isCount_lastReport fun e he => (hcount e he).2⟩

/-- A message that is told about itself piece by piece, with a count that drops to zero, and another
one that is told nothing. -/
def toldPiecewise : List Text :=
  [(Event.messageStart ⟨"m1", "claude", "assistant", ⟨.value (.ofNat 25), .missing⟩⟩).payload,
    (Event.blockStart (.ofNat 0) (.text "a")).payload,
    (Event.messageDelta ⟨.value "stop_sequence", .null⟩
      (some ⟨.missing, .value (.ofNat 7)⟩)).payload,
    (Event.messageDelta ⟨.null, .value "END"⟩ (some ⟨.value (.ofNat 0), .missing⟩)).payload,
    (Event.blockDelta (.ofNat 0) (.text "b")).payload,
    (Event.messageStart ⟨"m2", "claude", "assistant", ⟨.missing, .missing⟩⟩).payload,
    (Event.messageDelta ⟨.null, .null⟩ none).payload, Event.messageStop.payload]

/-- The response in between has every piece, and the last one has none of them. -/
theorem reduceStream_header_toldPiecewise :
    (reduceStream (.ofList toldPiecewise none)).items
      = [⟨"m1", .value "content_block_start", "assistant", "claude", [.text "a"], .null, .null,
            ⟨.value (.ofNat 25), .value (.zero false)⟩⟩,
          ⟨"m1", .value "content_block_delta", "assistant", "claude", [.text "b"],
            .value "stop_sequence", .value "END", ⟨.value (.ofNat 0), .value (.ofNat 7)⟩⟩,
          ⟨"m2", .value "message_stop", "assistant", "claude", [], .null, .null,
            ⟨.value (.zero false), .value (.zero false)⟩⟩] ∧
    ∃ before p after header later, toldPiecewise = before ++ p :: after ∧
      LastStart (Event.decoded (before ++ [p])) header later ∧
      Response.HeaderFrom
        ⟨"m1", .value "content_block_delta", "assistant", "claude", [.text "b"],
          .value "stop_sequence", .value "END", ⟨.value (.ofNat 0), .value (.ofNat 7)⟩⟩
        header later := by
  have hitems : (reduceStream (.ofList toldPiecewise none)).items
      = [⟨"m1", .value "content_block_start", "assistant", "claude", [.text "a"], .null, .null,
            ⟨.value (.ofNat 25), .value (.zero false)⟩⟩]
        ++ ⟨"m1", .value "content_block_delta", "assistant", "claude", [.text "b"],
            .value "stop_sequence", .value "END", ⟨.value (.ofNat 0), .value (.ofNat 7)⟩⟩
        :: [⟨"m2", .value "message_stop", "assistant", "claude", [], .null, .null,
            ⟨.value (.zero false), .value (.zero false)⟩⟩] := by
    decide +kernel
  obtain ⟨before, p, after, header, later, hsplit, -, -, -, hlast, hheader, -⟩ :=
    reduceStream_header hitems
  exact ⟨hitems, before, p, after, header, later, hsplit, hlast, hheader⟩

end ChatRelay
