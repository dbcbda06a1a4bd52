import ChatRelay.Proofs.Event.Shape
import ChatRelay.Reply

/-!
# What a draft takes

`Draft.Takes` says, event by event, when a draft takes an event outside of tool blocks, what becomes
of it and which response shows the event. Every statement about a message that is being written
goes by these cases; nothing below opens `Draft.applyEvent` again.
-/

namespace ChatRelay.Draft

theorem requireStarted_ok {d : Draft} (h : d.started = true) (type : Text) :
    d.requireStarted type = .ok d := by
  rw [requireStarted, if_pos h]

theorem requireStarted_eq_ok {d d' : Draft} {type : Text} (h : d.requireStarted type = .ok d') :
    d.started = true ∧ d' = d := by
  rw [requireStarted] at h
  split at h
  · cases h; exact ⟨‹_›, rfl⟩
  · cases h

theorem lift_eq_ok {α : Type} {x : Except Violation α} {a : α} (h : lift x = .ok a) :
    x = .ok a := by
  cases x with
  | error v => cases h
  | ok b => cases h; rfl

/-- A draft takes an event and becomes another one; the response shows what the event added. -/
inductive Takes (d : Draft) : Event → Draft → Response → Prop
  | messageStart (header : Header) :
      Takes d (.messageStart header) (start header) ((start header).respond .null [])
  | textStart {d' : Draft} {index : Number} {t : Text} : d.started = true →
      d.openText index t = .ok d' → Takes d (.blockStart index (.text t)) d'
        (if t.isEmpty then d'.respond .null []
          else d'.respond (.value "content_block_start") [.text t])
  | textDelta {d' : Draft} {index : Number} {t : Text} : d.started = true →
      d.appendText index t = .ok d' → Takes d (.blockDelta index (.text t)) d'
        (d'.respond (.value "content_block_delta") [.text t])
  | blockStop {d' : Draft} {index : Number} : d.started = true →
      d.closeText index = .ok d' → Takes d (.blockStop index) d' (d'.respond .null [])
  | messageDelta (stop : StopInfo) (usage : Option Usage) : d.started = true →
      Takes d (.messageDelta stop usage) (d.applyDelta stop usage)
        ((d.applyDelta stop usage).respond .null [])
  | messageStop : d.started = true → Takes d .messageStop d (d.build (.value "message_stop"))
  | ping : Takes d .ping d (d.respond .null [])
  | unknown (type : Text) : Takes d (.unknown type) d (d.respond .null [])

/-- These are all the ways in which a draft takes an event. -/
theorem takes_of_applyEvent {d d' : Draft} {e : Event} {r : Response}
    (h : d.applyEvent e = .ok (d', r)) : d.Takes e d' r := by
  cases e with
  | messageStart header => cases h; exact .messageStart header
  | blockStart index block =>
      cases block with
      | text t =>
          obtain ⟨_, hready, hrest⟩ := Except.bind_eq_ok h
          obtain ⟨hstarted, rfl⟩ := requireStarted_eq_ok hready
          obtain ⟨_, hopen, hlast⟩ := Except.bind_eq_ok hrest
          cases hlast
          exact .textStart hstarted (lift_eq_ok hopen)
      | toolUse id name =>
          obtain ⟨_, -, hrest⟩ := Except.bind_eq_ok h
          cases hrest
      | unsupported kind =>
          obtain ⟨_, -, hrest⟩ := Except.bind_eq_ok h
          cases hrest
  | blockDelta index delta =>
      cases delta with
      | text t =>
          obtain ⟨_, hready, hrest⟩ := Except.bind_eq_ok h
          obtain ⟨hstarted, rfl⟩ := requireStarted_eq_ok hready
          obtain ⟨_, happend, hlast⟩ := Except.bind_eq_ok hrest
          cases hlast
          exact .textDelta hstarted (lift_eq_ok happend)
      | inputJson t =>
          obtain ⟨_, -, hrest⟩ := Except.bind_eq_ok h
          cases hrest
      | unsupported kind =>
          obtain ⟨_, -, hrest⟩ := Except.bind_eq_ok h
          cases hrest
  | blockStop index =>
      obtain ⟨_, hready, hrest⟩ := Except.bind_eq_ok h
      obtain ⟨hstarted, rfl⟩ := requireStarted_eq_ok hready
      obtain ⟨_, hclose, hlast⟩ := Except.bind_eq_ok hrest
      cases hlast
      exact .blockStop hstarted (lift_eq_ok hclose)
  | messageDelta stop usage =>
      obtain ⟨_, hready, hrest⟩ := Except.bind_eq_ok h
      obtain ⟨hstarted, rfl⟩ := requireStarted_eq_ok hready
      cases hrest
      exact .messageDelta stop usage hstarted
  | messageStop =>
      obtain ⟨_, hready, hrest⟩ := Except.bind_eq_ok h
      obtain ⟨hstarted, rfl⟩ := requireStarted_eq_ok hready
      cases hrest
      exact .messageStop hstarted
  | ping => cases h; exact .ping
  | error type message => cases h
  | unknown type => cases h; exact .unknown type

/-- Finished blocks are taken only by a message that has started. -/
theorem apply_tools_eq_ok {d d' : Draft} {a : Aggregate} {r : Response}
    (h : d.apply (.tools a) = .ok (d', r)) :
    d.started = true ∧ d' = d.appendBlocks (a.finished.map Block.toolUse) ∧
      r = d'.respond (if (a.finished.map Block.toolUse).isEmpty then .null else .value "tool_use")
        (a.finished.map Block.toolUse) := by
  obtain ⟨_, hready, hrest⟩ := Except.bind_eq_ok h
  obtain ⟨hstarted, rfl⟩ := requireStarted_eq_ok hready
  cases hrest
  exact ⟨hstarted, rfl, rfl⟩

/-! ## Content that is not handled -/

theorem requireStarted_ne_unsupported (d : Draft) (type : Text) (u : Unsupported) :
    d.requireStarted type ≠ .error (.unsupported u) := by
  rw [requireStarted]
  split <;> nofun

theorem lift_ne_unsupported {α : Type} (x : Except Violation α) (u : Unsupported) :
    lift x ≠ .error (.unsupported u) := by
  cases x <;> nofun

/-- A step behind the start of the message finds content that is not handled. -/
theorem behind_start {α : Type} {d : Draft} {type : Text} {f : Draft → Except Failure α}
    {u : Unsupported} (h : (d.requireStarted type >>= f) = .error (.unsupported u)) :
    f d = .error (.unsupported u) := by
  obtain hready | ⟨_, hready, hrest⟩ := Except.bind_eq_error h
  · exact absurd hready (requireStarted_ne_unsupported d type u)
  · obtain ⟨-, rfl⟩ := requireStarted_eq_ok hready
    exact hrest

/-- What is not handled is the start of a block or a delta, and not of a text. -/
theorem applyEvent_unsupported {d : Draft} {e : Event} {u : Unsupported}
    (h : d.applyEvent e = .error (.unsupported u)) :
    (∃ index block, e = .blockStart index block ∧ u = .block block.type index) ∨
      ∃ index delta, e = .blockDelta index delta ∧ u = .delta delta.type index := by
  -- The steps that take blocks of text fail with violations only.
  have htext {α : Type} {x : Except Violation Draft} {f : Draft → α}
      (hx : (lift x >>= fun d => .ok (f d)) = (.error (.unsupported u) : Except Failure α)) :
      False := by
    obtain hlift | ⟨_, -, hrest⟩ := Except.bind_eq_error hx
    · exact lift_ne_unsupported x u hlift
    · cases hrest
  cases e with
  | blockStart index block =>
      cases block with
      | text t => exact (htext (behind_start h)).elim
      | _ => cases behind_start h; exact .inl ⟨index, _, rfl, rfl⟩
  | blockDelta index delta =>
      cases delta with
      | text t => exact (htext (behind_start h)).elim
      | _ => cases behind_start h; exact .inr ⟨index, _, rfl, rfl⟩
  | blockStop index => exact (htext (behind_start h)).elim
  | messageDelta stop usage => cases behind_start h
  | messageStop => cases behind_start h
  | _ => cases h

/-- Finished calls are handled always. -/
theorem apply_tools_ne_unsupported (d : Draft) (a : Aggregate) (u : Unsupported) :
    d.apply (.tools a) ≠ .error (.unsupported u) := by
  intro h
  cases behind_start h

end ChatRelay.Draft
