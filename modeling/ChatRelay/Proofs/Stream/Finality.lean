import ChatRelay.Proofs.Stream.Decoding
import ChatRelay.Proofs.Stream.Steps

/-!
# The final response

A reduction does not end with the final response of its message: a message stop gives that response
and leaves the state as it is (`onePayload_final`), so whatever stands behind it is read as if it
were not there. The final response is therefore the last one exactly if the payloads behind it show
nothing (`reduceStream_finalLast`), and a message stop that is repeated gives a second final
response.

The way from a response back to its payload is `run_shown`: a payload shows one response at most, so
every response splits the payloads in those before its payload and those behind it.
-/

namespace ChatRelay

/-- No response stands behind a final one. -/
def FinalLast (rs : List Response) : Prop :=
  ∀ front r back, rs = front ++ r :: back → r.isFinal = true → back = []

/-- Behind some payloads, one more gives a final response. -/
def EndsMessage (before : List Text) (p : Text) : Prop :=
  ∃ r : Response, r.isFinal = true ∧ (reduceStream (.ofList (before ++ [p]) none)).items
    = (reduceStream (.ofList before none)).items ++ [r]

/-! ## One step -/

namespace OnePass

variable {s s' : State} {e : Event} {out : List (Act Effect Response)}

/-- An event shows one response at most. -/
theorem Steps.nil_or_singleton (h : Steps s e s' out) :
    out.filterMap Act.item? = [] ∨ ∃ r, out.filterMap Act.item? = [r] := by
  cases h with
  | taken =>
      rw [Act.items_yields, Response.shown]
      split
      · exact .inr ⟨_, rfl⟩
      · exact .inl rfl
  | finished =>
      rw [List.filterMap_append, Act.items_logs]
      exact .inr ⟨_, rfl⟩
  | _ => exact .inl rfl

theorem takes_final {d d' : Draft} {r : Response} (h : d.Takes e d' r)
    (hfinal : r.isFinal = true) : e = .messageStop ∧ d' = d := by
  cases h with
  | messageStop => exact ⟨rfl, rfl⟩
  | textStart =>
      split at hfinal
      · cases hfinal
      · cases hfinal
  | _ => cases hfinal

/-- Only a message stop shows a final response, and it leaves the state as it is. -/
theorem Steps.final {r : Response} (h : Steps s e s' out) (hr : out.filterMap Act.item? = [r])
    (hfinal : r.isFinal = true) : e = .messageStop ∧ s' = s := by
  cases h with
  | taken hd =>
      rw [Act.items_yields, Response.shown] at hr
      split at hr
      · cases hr
        obtain ⟨rfl, rfl⟩ := takes_final (Draft.takes_of_applyEvent hd) hfinal
        exact ⟨rfl, rfl⟩
      · cases hr
  | finished =>
      rw [List.filterMap_append, Act.items_logs] at hr
      cases hr
      cases hfinal
  | _ => cases hr

/-- An event that ends the responses shows nothing. -/
theorem items_of_stop {f : Option Failure} (h : onePass.react s e = .stop out f) :
    out.filterMap Act.item? = [] := by
  obtain ⟨d, _ | call⟩ := s
  · replace h : outside d e = .stop out f := h
    unfold outside advance at h
    repeat' split at h
    all_goals cases h
    all_goals rfl
  · replace h : inside d call e = .stop out f := h
    unfold inside finish at h
    repeat' split at h
    all_goals cases h
    all_goals first | rfl | exact Act.items_logs _

end OnePass

/-! ## One payload -/

variable {s s' : OnePass.State} {p : Text} {out : List (Act Effect Response)}

theorem items_of_next (h : onePayload.react s p = .next s' out) :
    out.filterMap Act.item? = [] ∨ ∃ e, Event.parse p = .ok e ∧ OnePass.Steps s e s' out := by
  cases onePayload_reads h with
  | control entries => exact .inl (Act.items_logs entries)
  | next _ hp _ hstep => exact .inr ⟨_, hp, OnePass.steps_of_react hstep⟩

theorem items_of_stop {f : Option Failure} (h : onePayload.react s p = .stop out f) :
    out.filterMap Act.item? = [] := by
  cases onePayload_reads h with
  | mark => rfl
  | refused => rfl
  | stop _ _ _ hstep => exact OnePass.items_of_stop hstep

/-! ## Runs -/

/-- Behind some payloads the machine is in a state in which one more shows a final response. -/
structure EndsAt (before : List Text) (p : Text) (s : OnePass.State)
    (out more : List (Act Effect Response)) (r : Response) : Prop where
  run : onePayload.run .start (before.map .yield) = (out, .running s)
  stop : Event.parse p = .ok .messageStop
  react : onePayload.react s p = .next s more
  shows : more.filterMap Act.item? = [r]
  final : r.isFinal = true

/-- The payload of a response: those before it have shown the responses before it. -/
theorem run_shown {payloads : List Text} {front back : List Response} {r : Response}
    (h : (onePayload.run s (payloads.map .yield)).1.filterMap Act.item? = front ++ r :: back) :
    ∃ before p after out s₁ more s₂, payloads = before ++ p :: after ∧
      onePayload.run s (before.map .yield) = (out, .running s₁) ∧
      out.filterMap Act.item? = front ∧ onePayload.react s₁ p = .next s₂ more ∧
      more.filterMap Act.item? = [r] := by
  induction payloads generalizing s front with
  | nil => cases front <;> cases h
  | cons p payloads ih =>
      rw [List.map_cons] at h
      cases hreact : onePayload.react s p with
      | stop out f =>
          rw [Stage.run_yield_stop hreact, items_of_stop hreact] at h
          cases front <;> cases h
      | next s' out =>
          rw [Stage.run_yield_next hreact, List.filterMap_append] at h
          -- The payload either shows the response itself or is one of those before it.
          have hbefore {shown front' : List Response} (hshown : out.filterMap Act.item? = shown)
              (hfront : front = shown ++ front')
              (hrest : (onePayload.run s' (payloads.map .yield)).1.filterMap Act.item?
                = front' ++ r :: back) :
              ∃ before q after out' s₁ more s₂, p :: payloads = before ++ q :: after ∧
                onePayload.run s (before.map .yield) = (out', .running s₁) ∧
                out'.filterMap Act.item? = front ∧ onePayload.react s₁ q = .next s₂ more ∧
                more.filterMap Act.item? = [r] := by
            obtain ⟨before, q, after, out', s₁, more, s₂, rfl, hrun, hout, hq, hmore⟩ := ih hrest
            refine ⟨p :: before, q, after, out ++ out', s₁, more, s₂, rfl, ?_, ?_, hq, hmore⟩
            · rw [List.map_cons, Stage.run_yield_next hreact, hrun]
            · rw [List.filterMap_append, hshown, hout, hfront]
          have hone : out.filterMap Act.item? = [] ∨ ∃ r, out.filterMap Act.item? = [r] := by
            rcases items_of_next hreact with hnil | ⟨e, -, hsteps⟩
            · exact .inl hnil
            · exact hsteps.nil_or_singleton
          rcases hone with hnil | ⟨x, hx⟩
          · rw [hnil, List.nil_append] at h
            exact hbefore hnil rfl h
          · rw [hx, List.singleton_append] at h
            cases front with
            | nil =>
                obtain ⟨rfl, -⟩ := List.cons.inj h
                exact ⟨[], p, payloads, [], s, out, s', rfl, rfl, rfl, hreact, hx⟩
            | cons y front =>
                obtain ⟨rfl, hrest⟩ := List.cons.inj h
                exact hbefore hx rfl hrest

/-- A final response is shown by a message stop, which leaves the state as it is. -/
theorem onePayload_final {r : Response} (h : onePayload.react s p = .next s' out)
    (hout : out.filterMap Act.item? = [r]) (hfinal : r.isFinal = true) :
    Event.parse p = .ok .messageStop ∧ s' = s := by
  rcases items_of_next h with hnil | ⟨e, hp, hsteps⟩
  · rw [hout] at hnil
    cases hnil
  · obtain ⟨rfl, rfl⟩ := hsteps.final hout hfinal
    exact ⟨hp, rfl⟩

/-- A final response splits the payloads at the one that ends its message. -/
theorem exists_endsAt {payloads : List Text} {front back : List Response} {r : Response}
    (h : (onePayload.run .start (payloads.map .yield)).1.filterMap Act.item?
      = front ++ r :: back) (hfinal : r.isFinal = true) :
    ∃ before p after s out more, payloads = before ++ p :: after ∧
      EndsAt before p s out more r ∧ out.filterMap Act.item? = front := by
  obtain ⟨before, p, after, out, s₁, more, s₂, hsplit, hrun, hout, hreact, hmore⟩ := run_shown h
  obtain ⟨hp, rfl⟩ := onePayload_final hreact hmore hfinal
  exact ⟨before, p, after, s₂, out, more, hsplit, ⟨hrun, hp, hreact, hmore, hfinal⟩, hout⟩

namespace EndsAt

variable {before : List Text} {more : List (Act Effect Response)} {r : Response}

/-- The payload adds its response; what stands behind it is read as if it were not there. -/
theorem run_eq (h : EndsAt before p s out more r) (after : List Text) :
    onePayload.run .start ((before ++ p :: after).map .yield)
        = (out ++ (more ++ (onePayload.run s (after.map .yield)).1),
          (onePayload.run s (after.map .yield)).2) ∧
      onePayload.run .start ((before ++ after).map .yield)
        = (out ++ (onePayload.run s (after.map .yield)).1,
          (onePayload.run s (after.map .yield)).2) := by
  constructor
  · rw [List.map_append, Stage.run_append, h.run, List.map_cons, Stage.resume,
      Stage.run_yield_next h.react]
  · rw [List.map_append, Stage.run_append, h.run, Stage.resume]

theorem endsMessage (h : EndsAt before p s out more r) : EndsMessage before p := by
  refine ⟨r, h.final, ?_⟩
  rw [items_reduceStream, items_reduceStream, (h.run_eq []).1, h.run, List.filterMap_append,
    List.filterMap_append, h.shows]
  rfl

end EndsAt

/-- What a payload that ends a message is. -/
theorem EndsMessage.endsAt {before : List Text} (h : EndsMessage before p) :
    ∃ s out more r, EndsAt before p s out more r := by
  obtain ⟨r, hfinal, hitems⟩ := h
  rw [items_reduceStream, items_reduceStream, List.map_append, Stage.run_append] at hitems
  cases hrun : onePayload.run .start (before.map .yield) with
  | mk out progress =>
      rw [hrun] at hitems
      cases progress with
      | ended f => simp [Stage.resume] at hitems
      | running s =>
          cases hreact : onePayload.react s p with
          | stop more f =>
              have hstop : onePayload.run s [.yield p] = (more, .ended f) :=
                Stage.run_yield_stop hreact []
              simp [Stage.resume, hstop, items_of_stop hreact] at hitems
          | next s' more =>
              have hnext : onePayload.run s [.yield p] = (more ++ [], .running s') :=
                Stage.run_yield_next hreact []
              have hmore : more.filterMap Act.item? = [r] := by
                simpa [Stage.resume, hnext] using hitems
              obtain ⟨hp, rfl⟩ := onePayload_final hreact hmore hfinal
              exact ⟨s', out, more, r, hrun, hp, hreact, hmore, hfinal⟩

/-- A repeated message stop ends the message again. -/
theorem EndsMessage.again {before : List Text} (h : EndsMessage before p) {q : Text}
    (hq : Event.parse q = .ok .messageStop) : EndsMessage (before ++ [p]) q := by
  obtain ⟨s, out, more, r, hends⟩ := h.endsAt
  -- Both payloads are the same event, so the machine reacts to both alike.
  have hreact : onePayload.react s q = .next s more := by
    rw [← hends.react, onePayload_event (trim_of_parse hq) hq rfl,
      onePayload_event (trim_of_parse hends.stop) hends.stop rfl]
  have hrun : onePayload.run .start ((before ++ [p]).map .yield) = (out ++ more, .running s) := by
    rw [(hends.run_eq []).1]
    simp
  exact EndsAt.endsMessage ⟨hrun, hq, hreact, hends.shows, hends.final⟩

/-! ## The whole stream -/

/-- The responses of a stream with a payload that ends a message: those before the payload, the one
of the payload, and those that the payloads behind it give as if it were not there. -/
theorem EndsAt.items_eq {before : List Text} {more : List (Act Effect Response)} {r : Response}
    (h : EndsAt before p s out more r) (after : List Text) (failure : Option Failure) :
    (reduceStream (.ofList before none)).items = out.filterMap Act.item? ∧
      (reduceStream (.ofList (before ++ p :: after) failure)).items
        = out.filterMap Act.item? ++
          r :: (onePayload.run s (after.map .yield)).1.filterMap Act.item? ∧
      (reduceStream (.ofList (before ++ after) failure)).items
        = out.filterMap Act.item? ++
          (onePayload.run s (after.map .yield)).1.filterMap Act.item? := by
  obtain ⟨hrun, hwithout⟩ := h.run_eq after
  refine ⟨?_, ?_, ?_⟩
  · rw [items_reduceStream, h.run]
  · rw [items_reduceStream, hrun, List.filterMap_append, List.filterMap_append, h.shows]
    rfl
  · rw [items_reduceStream, hwithout, List.filterMap_append]

/-- The final response is the last one exactly if the payloads behind the one that ends the message
show nothing. -/
theorem finalLast_iff (payloads : List Text) (failure : Option Failure) :
    FinalLast (reduceStream (.ofList payloads failure)).items ↔
      ∀ before p after, payloads = before ++ p :: after → EndsMessage before p →
        (reduceStream (.ofList (before ++ after) failure)).items
          = (reduceStream (.ofList before none)).items := by
  constructor
  · rintro hlast before p after rfl hends
    obtain ⟨s, out, more, r, hat⟩ := hends.endsAt
    obtain ⟨hbefore, hwhole, hwithout⟩ := hat.items_eq after failure
    have hnil := hlast _ r _ hwhole hat.final
    rw [hwithout, hbefore, hnil, List.append_nil]
  · intro hnothing front r back hitems hfinal
    rw [items_reduceStream] at hitems
    obtain ⟨before, p, after, s, out, more, rfl, hat, hout⟩ := exists_endsAt hitems hfinal
    obtain ⟨hbefore, hwhole, hwithout⟩ := hat.items_eq after failure
    have hsame := hnothing before p after rfl hat.endsMessage
    rw [hwithout, hbefore] at hsame
    have hrest := List.append_right_eq_self.mp hsame
    rw [← items_reduceStream _ failure, hwhole, hrest, hout] at hitems
    have htail := List.append_cancel_left hitems
    exact (List.cons.inj htail).2.symm

/-- A message stop adds its response and nothing else changes, so that the final response is the
last one exactly if the payloads behind it show nothing; a second message stop shows a second final
response. -/
theorem reduceStream_finalLast (payloads : List Text) (failure : Option Failure) :
    (FinalLast (reduceStream (.ofList payloads failure)).items ↔
      ∀ before p after, payloads = before ++ p :: after → EndsMessage before p →
        (reduceStream (.ofList (before ++ after) failure)).items
          = (reduceStream (.ofList before none)).items) ∧
    ∀ before p after, payloads = before ++ p :: after → EndsMessage before p →
      Event.parse p = .ok .messageStop ∧
      (∃ r rest, r.isFinal = true ∧
        (reduceStream (.ofList payloads failure)).items
          = (reduceStream (.ofList before none)).items ++ r :: rest ∧
        (reduceStream (.ofList (before ++ after) failure)).items
          = (reduceStream (.ofList before none)).items ++ rest ∧
        (reduceStream (.ofList (before ++ after) failure)).failure
          = (reduceStream (.ofList payloads failure)).failure) ∧
      ∀ q, Event.parse q = .ok .messageStop → EndsMessage (before ++ [p]) q := by
  refine ⟨finalLast_iff payloads failure, ?_⟩
  rintro before p after rfl hends
  obtain ⟨s, out, more, r, hat⟩ := hends.endsAt
  obtain ⟨hbefore, hwhole, hwithout⟩ := hat.items_eq after failure
  refine ⟨hat.stop, ⟨r, (onePayload.run s (after.map .yield)).1.filterMap Act.item?, hat.final,
    ?_, ?_, ?_⟩, fun q hq => hends.again hq⟩
  · rw [hwhole, hbefore]
  · rw [hwithout, hbefore]
  · obtain ⟨hrun, hrunWithout⟩ := hat.run_eq after
    rw [reduceStream_eq_close, reduceStream_eq_close, hrun, hrunWithout]
    exact Stage.failure_close onePayload failure _ _ _

/-- A message that is stopped twice. -/
def stoppedTwice : List Text :=
  [(Event.messageStart
      ⟨"m1", "claude", "assistant", ⟨.value (.ofNat 10), .value (.ofNat 1)⟩⟩).payload,
    Event.messageStop.payload, Event.messageStop.payload]

/-- A message that is stopped twice has two final responses. -/
theorem stoppedTwice_not_finalLast :
    ¬ FinalLast (reduceStream (.ofList stoppedTwice none)).items := by
  intro hlast
  have hitems : (reduceStream (.ofList stoppedTwice none)).items =
      [⟨"m1", .value "message_stop", "assistant", "claude", [], .null, .null,
          ⟨.value (.ofNat 10), .value (.ofNat 1)⟩⟩,
        ⟨"m1", .value "message_stop", "assistant", "claude", [], .null, .null,
          ⟨.value (.ofNat 10), .value (.ofNat 1)⟩⟩] := by
    decide +kernel
  cases hlast [] _ _ hitems rfl

/-- The first of the two stops ends the message, and so does the second one. -/
theorem reduceStream_finalLast_stoppedTwice :
    EndsMessage (stoppedTwice.take 1) Event.messageStop.payload ∧
      EndsMessage (stoppedTwice.take 1 ++ [Event.messageStop.payload])
        Event.messageStop.payload := by
  have hends : EndsMessage (stoppedTwice.take 1) Event.messageStop.payload := by
    refine ⟨⟨"m1", .value "message_stop", "assistant", "claude", [], .null, .null,
      ⟨.value (.ofNat 10), .value (.ofNat 1)⟩⟩, rfl, ?_⟩
    decide +kernel
  obtain ⟨hstop, -, hagain⟩ := (reduceStream_finalLast stoppedTwice none).2 (stoppedTwice.take 1)
    Event.messageStop.payload [Event.messageStop.payload] rfl hends
  exact ⟨hends, hagain Event.messageStop.payload hstop⟩

end ChatRelay
