import Mathlib.Data.List.Forall2
import ChatRelay.Proofs.Reply.Block
import ChatRelay.Proofs.Turn.Course

/-!
# How responses are relayed

`Turn.events` turns a source of responses into events for the client. `Relays` says what becomes of
every source: increments are told block by block, and the first thing that ends the turn is told by
itself. This is a final response, which is handed over before the client hears of it; the end or the
failure of the source; or a signal that has fired when the next response arrives. What stands behind
a response that ends the turn has no part in the result, so it is not read; these are sources that
raise nothing when they are left there.

The signal may look at how many events the client has received, and debug events count. So two
turns, one with debug events and one without, show the same apart from them if their signals are
seen alike at every point of the source, and may differ if they are not.

All cases follow from one law: a beginning that does not end the turn is told and left behind
(`events_append`).
-/

namespace ChatRelay

open List (Forall₂)

/-! ## What is told of a source -/

/-- An event that tells a block. -/
structure Block.ToldBy (b : Block) (e : ChatEvent) : Prop where
  token : ∀ t, b.IsText t → e = .token t
  toolUse : ∀ tool, b.IsCall tool → e = .toolUse tool

/-- The moment behind some acts of a source all of which were relayed. -/
def Moment.behind (debugging : Bool) (m : Moment) (acts : List (Act Effect Response)) : Moment :=
  acts.foldl (fun m act => m.step.receive
    (act.item?.elim 0 fun r => r.content.length + if debugging then 1 else 0)) m

namespace Turn

/-- What is told of acts of a source: an event for every block, and a debug event behind those of a
response if such events are wanted. -/
inductive Relayed (debugging : Bool) :
    List (Act Effect Response) → List (Act TurnEffect ChatEvent) → Prop
  | nil : Relayed debugging [] []
  | log {entry acts shown} (h : Relayed debugging acts shown) :
      Relayed debugging (.effect (.log entry) :: acts) (.effect (.log entry) :: shown)
  | call {c acts shown} (h : Relayed debugging acts shown) :
      Relayed debugging (.effect (.call c) :: acts) (.effect (.call c) :: shown)
  | poll {acts shown} (h : Relayed debugging acts shown) :
      Relayed debugging (.effect .poll :: acts) shown
  | response {r events acts shown} (hr : Forall₂ Block.ToldBy r.content events)
      (h : Relayed debugging acts shown) :
      Relayed debugging (.yield r :: acts)
        (events.map .yield
          ++ (if debugging then
              [.yield (.debug "Stream chunk" (some (.object [("type", r.type.toJson? .str)])))]
            else [])
          ++ shown)

/-- Acts of a source without a final response. -/
def NoneFinal (acts : List (Act Effect Response)) : Prop :=
  ∀ r ∈ acts.filterMap Act.item?, r.type ≠ .value "message_stop"

/-- Whether the signal is looked at when a source does something. -/
def looks : Act Effect Response → Bool
  | .effect .poll => true
  | .effect _ => false
  | .yield _ => true

/-- The signal has not fired whenever it is looked at while a source is read. -/
def Quiet (view : View) (m : Moment) (acts : List (Act Effect Response)) : Prop :=
  ∀ before act after, acts = before ++ act :: after → looks act →
    view.signal.fired (m.behind view.debugging before) = false

/-- What a turn that starts at a moment tells of every source. -/
structure Relays (view : View) (complete : Response → List TurnEffect) (m : Moment)
    (tell : Flow Effect Response → Flow TurnEffect ChatEvent) : Prop where
  finished : ∀ before r, Quiet view m (before ++ [.yield r]) → NoneFinal before →
    r.type = .value "message_stop" →
    ∃ shown reason, Relayed view.debugging before shown ∧
      (∀ t, reason = some t ↔ r.stopReason = .value t ∧ t ≠ []) ∧
      ∀ rest failure, tell ⟨before ++ .yield r :: rest, failure⟩
        = ⟨shown ++ (complete r).map .effect ++ [.yield (.usage r.usage), .yield (.done .stop reason),
            .effect (.log (.debug "Chat stream completed" [("threadId", some (.str view.threadId)),
              ("messageId", some (.str r.id)), ("stopReason", r.stopReason.toJson? .str)]))], none⟩
  unfinished : ∀ acts, Quiet view m acts → NoneFinal acts →
    ∃ shown, Relayed view.debugging acts shown ∧
      tell ⟨acts, none⟩ = ⟨shown ++ [.effect (.log (.warn "Chat stream ended before message_stop"
          [("threadId", some (.str view.threadId))])), .yield (.done .incomplete none)], none⟩
  failed : ∀ acts f, Quiet view m acts → NoneFinal acts →
    ∃ shown, Relayed view.debugging acts shown ∧ tell ⟨acts, some f⟩ = ⟨shown, some f⟩
  stopped : ∀ before r, Quiet view m before → NoneFinal before →
    view.signal.fired (m.behind view.debugging before) = true →
    ∃ shown, Relayed view.debugging before shown ∧
      ∀ rest failure, tell ⟨before ++ .yield r :: rest, failure⟩
        = ⟨shown ++ [.yield (.done .aborted none)], none⟩
  interrupted : ∀ before, Quiet view m before → NoneFinal before →
    view.signal.fired (m.behind view.debugging before) = true →
    ∃ shown, Relayed view.debugging before shown ∧
      ∀ rest failure, tell ⟨before ++ .effect .poll :: rest, failure⟩ = ⟨shown, some .aborted⟩

/-- Whether an act shows a debug event. -/
def isDebug : Act TurnEffect ChatEvent → Bool
  | .yield (.debug _ _) => true
  | _ => false

/-- A turn without its debug events. -/
def withoutDebug (told : Flow TurnEffect ChatEvent) : Flow TurnEffect ChatEvent :=
  ⟨told.acts.filter fun act => !isDebug act, told.failure⟩

/-! ## One act -/

/-- What happens for one act that does not end the turn. -/
def relay (debugging : Bool) : Act Effect Response → List (Act TurnEffect ChatEvent)
  | .effect (.log entry) => [.effect (.log entry)]
  | .effect (.call c) => [.effect (.call c)]
  | .effect .poll => []
  | .yield r => (ChatEvent.ofIncrement debugging r).map .yield

theorem length_ofIncrement (debugging : Bool) (r : Response) :
    (ChatEvent.ofIncrement debugging r).length
      = r.content.length + if debugging then 1 else 0 := by
  rw [ChatEvent.ofIncrement, List.length_append, List.length_map]
  cases debugging <;> rfl

theorem relay_response (debugging : Bool) (r : Response) :
    relay debugging (.yield r) = (r.content.map ChatEvent.ofBlock).map .yield
      ++ if debugging then
          [.yield (.debug "Stream chunk" (some (.object [("type", r.type.toJson? .str)])))]
        else [] := by
  rw [relay, ChatEvent.ofIncrement, List.map_append]
  cases debugging <;> rfl

theorem toldBy_ofBlock (b : Block) : b.ToldBy (.ofBlock b) := by
  constructor
  · intro t ht
    rw [ChatEvent.ofBlock, ht.tool?, ht.textPart]
  · intro tool htool
    rw [ChatEvent.ofBlock, htool.tool?]

section

variable {view : View} {complete : Response → List TurnEffect} {rescue : Rescue}
  {failure : Option Failure} {m : Moment} {act : Act Effect Response}
  {acts before : List (Act Effect Response)}

theorem events_poll (acts : List (Act Effect Response)) :
    events view complete rescue m ⟨.effect .poll :: acts, failure⟩
      = if view.signal.fired m then rescue m .aborted
        else events view complete rescue m.step ⟨acts, failure⟩ := rfl

/-- A turn over responses that raise nothing when they are left ends where it has told its end. -/
theorem events_yield (r : Response) (acts : List (Act Effect Response)) :
    events view complete rescue m ⟨.yield r :: acts, failure⟩
      = if view.signal.fired m then ⟨[.yield (.done .aborted none)], none⟩
        else if r.isFinal then ⟨finished view r (complete r), none⟩
        else
          let told := ChatEvent.ofIncrement view.debugging r
          (events view complete rescue (m.step.receive told.length) ⟨acts, failure⟩).after
            (told.map .yield) := by
  show eventsFrom view complete rescue failure m
    (.yield ⟨r, none⟩ :: acts.map (Act.map (Held.mk · none))) = _
  rw [eventsFrom, leave, leave, Flow.after, Flow.after, Flow.done, List.append_nil, List.append_nil]
  rfl

theorem events_cons (hquiet : looks act → view.signal.fired m = false)
    (hopen : ∀ r, act = .yield r → r.isFinal = false) (acts : List (Act Effect Response)) :
    events view complete rescue m ⟨act :: acts, failure⟩
      = (events view complete rescue (m.behind view.debugging [act]) ⟨acts, failure⟩).after
          (relay view.debugging act) := by
  cases act with
  | effect e =>
      cases e with
      | log entry | call c => rfl
      | poll =>
          rw [events_poll, hquiet rfl]
          rfl
  | yield r =>
      have hbehind : m.behind view.debugging [.yield r]
          = m.step.receive (ChatEvent.ofIncrement view.debugging r).length := by
        rw [length_ofIncrement]
        rfl
      rw [events_yield, hquiet rfl, hopen r rfl, hbehind]
      rfl

/-! ## A beginning of a source -/

theorem Quiet.head (h : Quiet view m (act :: acts)) :
    looks act → view.signal.fired m = false :=
  h [] act acts rfl

theorem Quiet.tail (h : Quiet view m (act :: acts)) :
    Quiet view (m.behind view.debugging [act]) acts := by
  intro before act' after hacts
  exact h (act :: before) act' after (congrArg (act :: ·) hacts)

theorem Quiet.beginning (h : Quiet view m (before ++ acts)) : Quiet view m before := by
  rintro front act' after rfl
  refine h front act' (after ++ acts) ?_
  rw [List.append_assoc, List.cons_append]

theorem NoneFinal.head {r : Response} (h : NoneFinal (.yield r :: acts)) : r.isFinal = false :=
  decide_eq_false (h r List.mem_cons_self)

theorem NoneFinal.tail (h : NoneFinal (act :: acts)) : NoneFinal acts := by
  cases act with
  | effect e => exact h
  | yield r => exact fun r' hr' => h r' (List.mem_cons_of_mem r hr')

/-- A beginning that does not end the turn is told, and the turn goes on behind it. -/
theorem events_append (hquiet : Quiet view m before) (hopen : NoneFinal before)
    (rest : List (Act Effect Response)) :
    events view complete rescue m ⟨before ++ rest, failure⟩
      = (events view complete rescue (m.behind view.debugging before) ⟨rest, failure⟩).after
          (before.flatMap (relay view.debugging)) := by
  induction before generalizing m with
  | nil => rfl
  | cons act before ih =>
      have hact : ∀ r, act = .yield r → r.isFinal = false := by
        rintro r rfl
        exact hopen.head
      rw [List.cons_append, events_cons hquiet.head hact, ih hquiet.tail hopen.tail,
        Flow.after_after]
      rfl

/-- What happens for acts that do not end the turn is what is to be told of them. -/
theorem relayed_flatMap (debugging : Bool) (acts : List (Act Effect Response)) :
    Relayed debugging acts (acts.flatMap (relay debugging)) := by
  induction acts with
  | nil => exact .nil
  | cons act acts ih =>
      cases act with
      | effect e =>
          cases e with
          | log entry => exact .log ih
          | call c => exact .call ih
          | poll => exact .poll ih
      | yield r =>
          have hblocks : Forall₂ Block.ToldBy r.content (r.content.map ChatEvent.ofBlock) := by
            rw [List.forall₂_map_right_iff, List.forall₂_same]
            exact fun b _ => toldBy_ofBlock b
          rw [List.flatMap_cons, relay_response]
          exact .response hblocks ih

end

/-! ## Every source -/

theorem events_of_quiet {view : View} (complete : Response → List TurnEffect) {m : Moment}
    {acts : List (Act Effect Response)} (hquiet : Quiet view m acts) (hopen : NoneFinal acts)
    (failure : Option Failure) :
    events view complete passOn m ⟨acts, failure⟩
      = (events view complete passOn (m.behind view.debugging acts) ⟨[], failure⟩).after
          (acts.flatMap (relay view.debugging)) := by
  have happend := @events_append view complete passOn failure m acts hquiet hopen []
  rwa [List.append_nil] at happend

theorem relays_events (view : View) (complete : Response → List TurnEffect) (m : Moment) :
    Relays view complete m (events view complete passOn m) := by
  refine ⟨?finished, ?unfinished, ?failed, ?stopped, ?interrupted⟩
  case finished =>
    intro before r hquiet hopen hfinal
    have hunfired := hquiet before (.yield r) [] rfl rfl
    refine ⟨_, r.stopReason.value?.filter (· ≠ []), relayed_flatMap _ before, ?_, ?_⟩
    · intro t
      cases r.stopReason <;> simp [Field.value?, Option.filter_eq_some_iff]
    · intro rest failure
      rw [events_append hquiet.beginning hopen, events_yield, hunfired]
      have hfinal : r.isFinal = true := decide_eq_true hfinal
      rw [hfinal]
      simp [Flow.after, Turn.finished]
  case unfinished =>
    intro acts hquiet hopen
    refine ⟨_, relayed_flatMap _ acts, ?_⟩
    exact events_of_quiet complete hquiet hopen none
  case failed =>
    intro acts f hquiet hopen
    refine ⟨_, relayed_flatMap _ acts, ?_⟩
    rw [events_of_quiet complete hquiet hopen]
    exact congrArg (Flow.mk · (some f)) (List.append_nil _)
  case stopped =>
    intro before r hquiet hopen hfired
    refine ⟨_, relayed_flatMap _ before, ?_⟩
    intro rest failure
    rw [events_append hquiet hopen, events_yield, hfired]
    rfl
  case interrupted =>
    intro before hquiet hopen hfired
    refine ⟨_, relayed_flatMap _ before, ?_⟩
    intro rest failure
    rw [events_append hquiet hopen, events_poll, hfired]
    simp [passOn, Flow.fail, Flow.after]

/-! ## Debug events -/

theorem withoutDebug_after (acts : List (Act TurnEffect ChatEvent))
    (told : Flow TurnEffect ChatEvent) :
    withoutDebug (told.after acts)
      = (withoutDebug told).after (acts.filter fun act => !isDebug act) := by
  rw [withoutDebug, Flow.after, List.filter_append]
  rfl

/-- Apart from a debug event there is nothing but the events of the blocks. -/
theorem filter_relay (debugging : Bool) (r : Response) :
    (relay debugging (.yield r)).filter (fun act => !isDebug act)
      = (r.content.map ChatEvent.ofBlock).map .yield := by
  have hblocks : ∀ act ∈ (r.content.map ChatEvent.ofBlock).map (Act.yield (ε := TurnEffect)),
      (!isDebug act) = true := by
    intro act hact
    obtain ⟨e, he, rfl⟩ := List.mem_map.mp hact
    obtain ⟨b, -, rfl⟩ := List.mem_map.mp he
    rw [ChatEvent.ofBlock]
    split <;> rfl
  rw [relay_response, List.filter_append, List.filter_eq_self.mpr hblocks]
  cases debugging <;> simp [isDebug]

/-- Two signals that are seen alike at every point of a source, in turns that count events in their
own way. -/
def SeenAlike (view view' : View) (m m' : Moment) (acts : List (Act Effect Response)) : Prop :=
  ∀ before after, acts = before ++ after →
    view.signal.fired (m.behind view.debugging before)
      = view'.signal.fired (m'.behind view'.debugging before)

theorem SeenAlike.tail {view view' : View} {m m' : Moment} {act : Act Effect Response}
    {acts : List (Act Effect Response)} (h : SeenAlike view view' m m' (act :: acts)) :
    SeenAlike view view' (m.behind view.debugging [act]) (m'.behind view'.debugging [act]) acts := by
  intro before after hacts
  exact h (act :: before) after (congrArg (act :: ·) hacts)

/-- Debug events change nothing else in a turn. -/
theorem withoutDebug_events {view view' : View} (hthread : view.threadId = view'.threadId)
    (complete : Response → List TurnEffect) (failure : Option Failure) {m m' : Moment}
    {acts : List (Act Effect Response)} (h : SeenAlike view view' m m' acts) :
    withoutDebug (events view complete passOn m ⟨acts, failure⟩)
      = withoutDebug (events view' complete passOn m' ⟨acts, failure⟩) := by
  induction acts generalizing m m' with
  | nil =>
      cases failure with
      | none =>
          have hunfinished : unfinished view = unfinished view' := by
            rw [unfinished, unfinished, hthread]
          exact congrArg (fun acts => withoutDebug ⟨acts, none⟩) hunfinished
      | some f => rfl
  | cons act acts ih =>
      have hseen : view.signal.fired m = view'.signal.fired m' := h [] (act :: acts) rfl
      have hrest := ih h.tail
      cases act with
      | effect e =>
          cases e with
          | log entry | call c =>
              rw [events_cons (fun hlooks => by cases hlooks) (fun r hr => by cases hr),
                events_cons (fun hlooks => by cases hlooks) (fun r hr => by cases hr),
                withoutDebug_after, withoutDebug_after]
              exact congrArg (Flow.after _) hrest
          | poll =>
              rw [events_poll, events_poll, hseen]
              split
              · rfl
              · exact hrest
      | yield r =>
          by_cases hfired : view'.signal.fired m' = true
          · rw [events_yield, events_yield, hseen, if_pos hfired, if_pos hfired]
          · by_cases hfinal : r.isFinal = true
            · rw [events_yield, events_yield, hseen, if_neg hfired, if_neg hfired, if_pos hfinal,
                if_pos hfinal, Turn.finished, Turn.finished, hthread]
            · -- The response is told in both turns, and only a debug event may differ.
              have hquiet : view'.signal.fired m' = false := Bool.eq_false_iff.mpr hfired
              have hopen : ∀ r', Act.yield (ε := Effect) r = .yield r' → r'.isFinal = false := by
                rintro r' ⟨⟩
                exact Bool.eq_false_iff.mpr hfinal
              rw [events_cons (fun _ => hseen.trans hquiet) hopen,
                events_cons (fun _ => hquiet) hopen, withoutDebug_after, withoutDebug_after,
                filter_relay, filter_relay, hrest]

/-- Every source is relayed as it should be, and debug events change nothing else in what the client
is told. -/
theorem events_relayed (view : View) (complete : Response → List TurnEffect) (m : Moment) :
    Relays view complete m (events view complete passOn m) ∧
      ∀ (debugging : Bool) (signal : Signal) (responses : Flow Effect Response),
        SeenAlike ⟨debugging, view.threadId, signal⟩ view m m responses.acts →
        withoutDebug (events ⟨debugging, view.threadId, signal⟩ complete passOn m responses)
          = withoutDebug (events view complete passOn m responses) := by
  refine ⟨relays_events view complete m, ?_⟩
  intro debugging signal responses hseen
  have hthread : (View.mk debugging view.threadId signal).threadId = view.threadId := rfl
  exact withoutDebug_events hthread complete responses.failure hseen

/-- A client that stops when it has received two events sees less of the message if one of them is a
debug event. -/
example :
    let letter (t : Text) : Response :=
      ⟨"id", .value "content_block_delta", "assistant", "model", [.text t], .null, .null,
        ⟨.missing, .missing⟩⟩
    let told (debugging : Bool) : List ChatEvent :=
      (withoutDebug (events ⟨debugging, "thread", .afterEvents 2⟩ (fun _ => []) passOn .start
        (.ofList [letter "a", letter "b", letter "c"] none))).items
    told false = [.token "a", .token "b", .done .aborted none] ∧
      told true = [.token "a", .done .aborted none] := by
  decide +kernel

end Turn

end ChatRelay
