import ChatRelay.Proofs.Event.Shape
import ChatRelay.Proofs.Stream.DoneMark
import ChatRelay.Proofs.Stream.OnePass

/-!
# The events of a stream of payloads

`Event.decoded` lists the events that payloads write before the mark that ends the stream, control
events left out. As long as every payload is an event, the reduction is a run of the one-pass
machine over this list (`run_decoded`), and a reduction that does not fail has met nothing else
(`accepted_of_run`).
-/

namespace ChatRelay

/-- The payloads before the mark that ends a stream. -/
def Sse.beforeMark (payloads : List Text) : List Text :=
  payloads.takeWhile fun p => p.trim ≠ doneMark

/-- The events that payloads write before the mark, without the control events. -/
def Event.decoded (payloads : List Text) : List Event :=
  ((Sse.beforeMark payloads).filterMap fun p => (parse p).toOption).filter fun e => !e.isControl

/-- Every payload before the mark is an event. -/
def Accepted (payloads : List Text) : Prop :=
  ∀ p ∈ Sse.beforeMark payloads, ∃ e, Event.parse p = .ok e

section

variable {p : Text} {e : Event} (ps : List Text)

theorem Sse.beforeMark_mark (h : p.trim = doneMark) : beforeMark (p :: ps) = [] := by
  simp [beforeMark, h]

theorem Sse.beforeMark_cons (h : p.trim ≠ doneMark) :
    beforeMark (p :: ps) = p :: beforeMark ps := by
  simp [beforeMark, h]

theorem Event.decoded_nil : decoded [] = [] := rfl

theorem Event.decoded_mark (h : p.trim = Sse.doneMark) : decoded (p :: ps) = [] := by
  rw [decoded, Sse.beforeMark_mark ps h]
  rfl

theorem Event.decoded_cons (h : p.trim ≠ Sse.doneMark) (he : parse p = .ok e) :
    decoded (p :: ps) = (if e.isControl then [] else [e]) ++ decoded ps := by
  have hread : (parse p).toOption = some e := by rw [he]; rfl
  rw [decoded, Sse.beforeMark_cons ps h, List.filterMap_cons, hread]
  cases hcontrol : e.isControl with
  | true => exact List.filter_cons_of_neg (by simp [hcontrol])
  | false => exact List.filter_cons_of_pos (by simp [hcontrol])

theorem accepted_mark (h : p.trim = Sse.doneMark) : Accepted (p :: ps) := by
  rw [Accepted, Sse.beforeMark_mark ps h]
  exact List.forall_mem_nil _

theorem accepted_cons (h : p.trim ≠ Sse.doneMark) :
    Accepted (p :: ps) ↔ (∃ e, Event.parse p = .ok e) ∧ Accepted ps := by
  rw [Accepted, Sse.beforeMark_cons ps h, List.forall_mem_cons, Accepted]

end

/-! ## One payload -/

/-- A payload that is an event is not the mark. -/
theorem trim_of_parse {p : Text} {e : Event} (h : Event.parse p = .ok e) :
    p.trim ≠ Sse.doneMark := by
  obtain ⟨ms, hms, -⟩ := Event.parse_eq_ok.mp h
  exact Sse.trim_cut_object hms (.refl p)

/-- Control events leave the state as it is, whatever it is, and debug notes at most. -/
theorem onePayload_control {p : Text} (h : p.trim ≠ Sse.doneMark) {e : Event}
    (hp : Event.parse p = .ok e) (hcontrol : e.isControl = true) :
    ∃ entries : List Log.Entry, (∀ entry ∈ entries, entry.level = .debug) ∧
      ∀ s, onePayload.react s p = .next s (Act.logs entries) := by
  cases e with
  | ping =>
      refine ⟨[], List.forall_mem_nil _, fun s => ?_⟩
      simp only [onePayload, if_neg h, hp]
      rfl
  | unknown type =>
      refine ⟨[.debug "Skipping unrecognized stream event" [("eventType", some (.str type))]],
        List.forall_mem_singleton.mpr rfl, fun s => ?_⟩
      simp only [onePayload, if_neg h, hp]
  | _ => cases hcontrol

/-- What becomes of a payload: it is the mark, it is refused, it is a control event, which changes
nothing, or it is an event that the machine takes. -/
inductive Reads (s : OnePass.State) (p : Text) : Reaction Effect OnePass.State Response → Prop
  | mark : p.trim = Sse.doneMark → Reads s p (.stop [] none)
  | refused {v : Violation} : p.trim ≠ Sse.doneMark → Event.parse p = .error v →
      Reads s p (.stop [] (some (.violation v)))
  | control {e : Event} (entries : List Log.Entry) : p.trim ≠ Sse.doneMark →
      Event.parse p = .ok e → e.isControl = true → Reads s p (.next s (Act.logs entries))
  | next {e : Event} {s' : OnePass.State} {out : List (Act Effect Response)} :
      p.trim ≠ Sse.doneMark → Event.parse p = .ok e → e.isControl = false →
      onePass.react s e = .next s' out → Reads s p (.next s' out)
  | stop {e : Event} {out : List (Act Effect Response)} {f : Option Failure} :
      p.trim ≠ Sse.doneMark → Event.parse p = .ok e → e.isControl = false →
      onePass.react s e = .stop out f → Reads s p (.stop out f)

theorem onePayload_reads {s : OnePass.State} {p : Text}
    {reaction : Reaction Effect OnePass.State Response} (h : onePayload.react s p = reaction) :
    Reads s p reaction := by
  subst h
  by_cases hmark : p.trim = Sse.doneMark
  · have hstop : onePayload.react s p = .stop [] none := by simp only [onePayload, if_pos hmark]
    rw [hstop]
    exact .mark hmark
  · cases hp : Event.parse p with
    | error v =>
        rw [onePayload_error hmark hp]
        exact .refused hmark hp
    | ok e =>
        cases hcontrol : e.isControl with
        | true =>
            obtain ⟨entries, -, hnext⟩ := onePayload_control hmark hp hcontrol
            rw [hnext s]
            exact .control entries hmark hp hcontrol
        | false =>
            rw [onePayload_event hmark hp hcontrol]
            cases hreact : onePass.react s e with
            | next s' out => exact .next hmark hp hcontrol hreact
            | stop out f => exact .stop hmark hp hcontrol hreact

theorem OnePass.advance_stop {result : Except Failure (Draft × Response)}
    {out : List (Act Effect Response)} {f : Option Failure}
    (h : advance result = .stop out f) : f ≠ none := by
  cases result with
  | error g => cases h; nofun
  | ok r => cases h

/-- The machine ends the responses with a failure, or not at all. -/
theorem onePass_stop {s : OnePass.State} {e : Event} {out : List (Act Effect Response)}
    {f : Option Failure} (h : onePass.react s e = .stop out f) : f ≠ none := by
  simp only [onePass] at h
  split at h
  · simp only [OnePass.outside] at h
    split at h
    · cases h
    · cases h; exact Option.some_ne_none _
    · exact OnePass.advance_stop h
  · simp only [OnePass.inside, OnePass.finish] at h
    repeat' split at h
    all_goals cases h
    all_goals exact Option.some_ne_none _

/-! ## All payloads -/

/-- A reduction that does not fail has accepted every payload before the mark. -/
theorem accepted_of_run {s : OnePass.State} {payloads : List Text}
    (h : (onePayload.run s (payloads.map .yield)).2.failure = none) : Accepted payloads := by
  induction payloads generalizing s with
  | nil => exact List.forall_mem_nil _
  | cons p ps ih =>
      rw [List.map_cons] at h
      cases hreact : onePayload.react s p with
      | next s' out =>
          rw [Stage.run_yield_next hreact] at h
          cases onePayload_reads hreact with
          | control _ hmark hp => exact (accepted_cons ps hmark).mpr ⟨⟨_, hp⟩, ih h⟩
          | next hmark hp => exact (accepted_cons ps hmark).mpr ⟨⟨_, hp⟩, ih h⟩
      | stop out f =>
          rw [Stage.run_yield_stop hreact] at h
          cases onePayload_reads hreact with
          | mark hmark => exact accepted_mark ps hmark
          | refused => cases h
          | stop _ _ _ hstep => exact absurd h (onePass_stop hstep)

/-- Payloads that are all accepted give the responses of their events, and end as these do. -/
theorem run_decoded {payloads : List Text} (h : Accepted payloads) (s : OnePass.State) :
    (onePayload.run s (payloads.map .yield)).1.filterMap Act.item?
        = (onePass.run s ((Event.decoded payloads).map .yield)).1.filterMap Act.item? ∧
      (onePayload.run s (payloads.map .yield)).2.failure
        = (onePass.run s ((Event.decoded payloads).map .yield)).2.failure := by
  induction payloads generalizing s with
  | nil => exact ⟨rfl, rfl⟩
  | cons p ps ih =>
      rw [List.map_cons]
      cases hreact : onePayload.react s p with
      | next s' out =>
          rw [Stage.run_yield_next hreact, List.filterMap_append]
          cases onePayload_reads hreact with
          | control entries hmark hp hcontrol =>
              obtain ⟨-, hps⟩ := (accepted_cons ps hmark).mp h
              rw [Event.decoded_cons ps hmark hp, if_pos hcontrol, Act.items_logs]
              exact ih hps s
          | next hmark hp hcontrol hstep =>
              obtain ⟨-, hps⟩ := (accepted_cons ps hmark).mp h
              obtain ⟨hitems, hend⟩ := ih hps s'
              rw [Event.decoded_cons ps hmark hp, hcontrol, if_neg Bool.false_ne_true,
                List.singleton_append, List.map_cons, Stage.run_yield_next hstep,
                List.filterMap_append, hitems]
              exact ⟨rfl, hend⟩
      | stop out f =>
          rw [Stage.run_yield_stop hreact]
          cases onePayload_reads hreact with
          | mark hmark =>
              rw [Event.decoded_mark ps hmark]
              exact ⟨rfl, rfl⟩
          | refused hmark hp =>
              obtain ⟨⟨e, he⟩, -⟩ := (accepted_cons ps hmark).mp h
              rw [hp] at he
              cases he
          | stop hmark hp hcontrol hstep =>
              rw [Event.decoded_cons ps hmark hp, hcontrol, if_neg Bool.false_ne_true,
                List.singleton_append, List.map_cons, Stage.run_yield_stop hstep]
              exact ⟨rfl, rfl⟩

end ChatRelay
