import ChatRelay.Proofs.Stream.Stage
import ChatRelay.Stream.Window

/-!
# The shape of the windows

Windows cut a list of events into pieces, and `Event.Windowing` says which: events of their own that
start no tool block, whole tool blocks, and at the end maybe a tool block that is still open. Every
list of events can be cut so (`exists_windowing`, one event at a time), and the splitter, which
remembers a single bit, puts out the pieces of any such cut (`Event.Windowing.run`). So there is one
only, and it is the one that the splitter makes (`windows_cut`).
-/

namespace ChatRelay

namespace Event

/-- Whether an event closes the tool block that it meets. -/
def closesTool : Event → Bool
  | .blockStop _ => true
  | .error _ _ => true
  | _ => false

/-- One event that starts no tool block, or a tool block from its start to the first event that
closes it. -/
inductive Window : List Event → Prop
  | single {e : Event} : e.startsTool = false → Window [e]
  | block {first last : Event} {inner : List Event} : first.startsTool = true →
      (∀ e ∈ inner, e.closesTool = false) → last.closesTool = true →
      Window (first :: inner ++ [last])

/-- Nothing, or a tool block that no event has closed. -/
inductive Unclosed : List Event → Prop
  | nothing : Unclosed []
  | block {first : Event} {inner : List Event} : first.startsTool = true →
      (∀ e ∈ inner, e.closesTool = false) → Unclosed (first :: inner)

/-- A list of events cut into windows and a rest that is none. -/
structure Windowing (events : List Event) (ws : List (List Event)) (rest : List Event) : Prop where
  whole : ws.flatten ++ rest = events
  closed : ∀ w ∈ ws, Window w
  unclosed : Unclosed rest

theorem Window.ne_nil {w : List Event} (h : Window w) : w ≠ [] := by
  cases h with
  | single | block => exact List.cons_ne_nil _ _

/-! ## Every list of events can be cut -/

/-- One more event is a window of its own, closes the open block, joins it, or opens one. -/
theorem Windowing.concat {events rest : List Event} {ws : List (List Event)}
    (h : Windowing events ws rest) (e : Event) :
    ∃ ws' rest', Windowing (events ++ [e]) ws' rest' := by
  obtain ⟨rfl, hws, hrest⟩ := h
  have hmore {w : List Event} (hw : Window w) : ∀ w' ∈ ws ++ [w], Window w' :=
    List.forall_mem_append.mpr ⟨hws, List.forall_mem_singleton.mpr hw⟩
  cases hrest with
  | nothing =>
      cases hstarts : e.startsTool with
      | false => exact ⟨ws ++ [[e]], [], by simp, hmore (.single hstarts), .nothing⟩
      | true => exact ⟨ws, [e], by simp, hws, .block hstarts (List.forall_mem_nil _)⟩
  | @block first inner hfirst hinner =>
      cases hcloses : e.closesTool with
      | false =>
          have hinner' : ∀ x ∈ inner ++ [e], x.closesTool = false :=
            List.forall_mem_append.mpr ⟨hinner, List.forall_mem_singleton.mpr hcloses⟩
          exact ⟨ws, first :: (inner ++ [e]), by simp, hws, .block hfirst hinner'⟩
      | true =>
          exact ⟨ws ++ [first :: inner ++ [e]], [], by simp, hmore (.block hfirst hinner hcloses),
            .nothing⟩

theorem Windowing.append {events rest : List Event} {ws : List (List Event)}
    (h : Windowing events ws rest) (more : List Event) :
    ∃ ws' rest', Windowing (events ++ more) ws' rest' := by
  induction more generalizing events ws rest with
  | nil => exact ⟨ws, rest, by rwa [List.append_nil]⟩
  | cons e more ih =>
      obtain ⟨ws', rest', hcut⟩ := h.concat e
      rw [← List.singleton_append, ← List.append_assoc]
      exact ih hcut

theorem exists_windowing (events : List Event) : ∃ ws rest, Windowing events ws rest :=
  Windowing.append ⟨rfl, List.forall_mem_nil _, .nothing⟩ events

/-! ## What the splitter does with a cut -/

theorem splitStep_outside (e : Event) : e.splitStep false = (e.startsTool, !e.startsTool) := by
  cases e with
  | blockStart index block => cases block <;> rfl
  | _ => rfl

theorem splitStep_inside (e : Event) : e.splitStep true = (!e.closesTool, e.closesTool) := by
  cases e <;> rfl

end Event

/-! ## The splitter over a cut -/

open Event

section

variable {inside inside' : Bool} {window : List Event} {e : Event}

/-- The splitter outside or inside of a tool block, with the window under way, over some events. -/
abbrev windowsFrom (inside : Bool) (window events : List Event) :
    List (Act Effect (List Event)) × Progress (Bool × List Event) :=
  toolSplitter.windows.run (inside, window) (events.map .yield)

theorem windowsFrom_closes (h : e.splitStep inside = (inside', true)) (events : List Event) :
    windowsFrom inside window (e :: events)
      = (.yield (window ++ [e]) :: (windowsFrom inside' [] events).1,
          (windowsFrom inside' [] events).2) := by
  have hreact : toolSplitter.windows.react (inside, window) e
      = .next (inside', []) [.yield (window ++ [e])] := by
    simp only [Splitter.windows, toolSplitter, h, if_true]
  exact Stage.run_yield_next hreact _

theorem windowsFrom_waits (h : e.splitStep inside = (inside', false)) (events : List Event) :
    windowsFrom inside window (e :: events) = windowsFrom inside' (window ++ [e]) events := by
  have hreact : toolSplitter.windows.react (inside, window) e
      = .next (inside', window ++ [e]) [] := by
    simp only [Splitter.windows, toolSplitter, h, Bool.false_eq_true, if_false]
  exact Stage.run_yield_next hreact _

end

/-- Events that close nothing stay in the block under way. -/
theorem windowsFrom_inner {inner : List Event} (h : ∀ e ∈ inner, e.closesTool = false)
    (window events : List Event) :
    windowsFrom true window (inner ++ events) = windowsFrom true (window ++ inner) events := by
  induction inner generalizing window with
  | nil => rw [List.nil_append, List.append_nil]
  | cons e inner ih =>
      obtain ⟨he, hinner⟩ := List.forall_mem_cons.mp h
      have hwaits : e.splitStep true = (true, false) := by rw [splitStep_inside, he]; rfl
      rw [List.cons_append, windowsFrom_waits hwaits, ih hinner, List.append_assoc,
        List.singleton_append]

theorem windowsFrom_block {first : Event} {inner : List Event} (hfirst : first.startsTool = true)
    (hinner : ∀ e ∈ inner, e.closesTool = false) (events : List Event) :
    windowsFrom false [] (first :: inner ++ events) = windowsFrom true (first :: inner) events := by
  have hwaits : first.splitStep false = (true, false) := by rw [splitStep_outside, hfirst]; rfl
  rw [List.cons_append, windowsFrom_waits hwaits, windowsFrom_inner hinner]
  rfl

/-- A window is put out as a whole, and the splitter begins anew behind it. -/
theorem Event.Window.run {w : List Event} (h : Window w) (events : List Event) :
    windowsFrom false [] (w ++ events)
      = (.yield w :: (windowsFrom false [] events).1, (windowsFrom false [] events).2) := by
  cases h with
  | single hfirst =>
      have hcloses (e : Event) (he : e.startsTool = false) : e.splitStep false = (false, true) := by
        rw [splitStep_outside, he]; rfl
      exact windowsFrom_closes (hcloses _ hfirst) events
  | @block first last inner hfirst hinner hlast =>
      have hcloses : last.splitStep true = (false, true) := by rw [splitStep_inside, hlast]; rfl
      rw [List.append_assoc, windowsFrom_block hfirst hinner]
      exact windowsFrom_closes hcloses events

/-- A block that is not closed stays under way. -/
theorem Event.Unclosed.run {rest : List Event} (h : Unclosed rest) :
    windowsFrom false [] rest = ([], .running (!rest.isEmpty, rest)) := by
  cases h with
  | nothing => rfl
  | @block first inner hfirst hinner =>
      have hblock := windowsFrom_block hfirst hinner []
      rw [List.append_nil] at hblock
      exact hblock

/-- The splitter puts out the windows of a cut and keeps its rest. -/
theorem Event.Windowing.run {events rest : List Event} {ws : List (List Event)}
    (h : Windowing events ws rest) :
    windowsFrom false [] events = (ws.map .yield, .running (!rest.isEmpty, rest)) := by
  obtain ⟨rfl, hws, hrest⟩ := h
  induction ws with
  | nil => exact hrest.run
  | cons w ws ih =>
      obtain ⟨hw, hws⟩ := List.forall_mem_cons.mp hws
      rw [List.flatten_cons, List.append_assoc, hw.run, ih hws]
      rfl

/-! ## The one cut -/

/-- The events that are still in an open window when the events end. -/
def remainder (events : List Event) : List Event :=
  match (windowsFrom false [] events).2 with
  | .running (_, window) => window
  | .ended _ => []

theorem items_windows (source : Flow Effect Event) :
    (source.through toolSplitter.windows).items
      = (windowsFrom false [] source.items).1.filterMap Act.item? := by
  rw [Stage.through_eq_read, Flow.items, Stage.read, Stage.acts_close (fun _ => rfl)]
  exact (Stage.run_filterMap _ (fun _ _ => rfl) _).1

theorem windows_eq (events : List Event) :
    windows events = (windowsFrom false [] events).1.filterMap Act.item? := by
  rw [windows, items_windows]
  exact congrArg (fun events => (windowsFrom false [] events).1.filterMap Act.item?)
    (Act.items_yields events)

theorem Event.Windowing.eq {events rest : List Event} {ws : List (List Event)}
    (h : Windowing events ws rest) :
    ws = windows events ∧ rest = remainder events := by
  constructor
  · rw [windows_eq, h.run, Act.items_yields]
  · rw [remainder, h.run]

theorem windowing_windows (events : List Event) :
    Windowing events (windows events) (remainder events) := by
  obtain ⟨ws, rest, hcut⟩ := exists_windowing events
  obtain ⟨rfl, rfl⟩ := hcut.eq
  exact hcut

/-- The windows and the rest are the only cut of the events, and windows that are put together again
are cut into the same windows. -/
theorem windows_cut (events : List Event) :
    Windowing events (windows events) (remainder events) ∧ [] ∉ windows events ∧
      (∀ ws rest, Windowing events ws rest → ws = windows events ∧ rest = remainder events) ∧
      windows (windows events).flatten = windows events := by
  have hcut := windowing_windows events
  have hagain : Windowing (windows events).flatten (windows events) [] :=
    ⟨List.append_nil _, hcut.closed, .nothing⟩
  exact ⟨hcut, fun hnil => (hcut.closed [] hnil).ne_nil rfl, fun _ _ h => h.eq, hagain.eq.1.symm⟩

end ChatRelay
