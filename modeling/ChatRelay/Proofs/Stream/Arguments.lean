import ChatRelay.Proofs.Stream.Message
import ChatRelay.Proofs.Stream.WindowFolds

/-!
# The arguments of a tool call

The arguments of a call arrive as pieces of a text, cut anywhere, and whatever the text is, the block
folds to one finished call. `argumentsIn` says what the joined text means, without a word about
pieces: the members of the object that it is, and nothing if it is none. A blank text needs no case
of its own there, because it is no JSON text; it differs from other such texts in the log only, where
nothing is said about it (`Remarked`). Blank is what `trim` leaves nothing of, and that is more than
the white space of JSON: a no-break space alone is blank, but around an object it spoils the text.
-/

namespace ChatRelay

open Json (lookup)

/-- The arguments that a text says. -/
def argumentsIn (t : Text) : Json.Members :=
  match Json.parse? t with
  | some (.obj ms) => Json.without Check.reservedKey ms
  | _ => []

/-- A warning that names a call. -/
structure Log.Entry.WarnsAbout (entry : Log.Entry) (id name : Text) : Prop where
  level : entry.level = .warn
  names : ∃ ms, entry.data = .json (.obj ms) ∧ lookup "id" ms = some (.str id) ∧
    lookup "name" ms = some (.str name)

/-- What is logged about the text of a call's arguments, and what the arguments then are. -/
structure Remarked (t id name : Text) (notes : List Log.Entry) : Prop where
  blank : t.trim = [] → argumentsIn t = [] ∧ notes = []
  object : ∀ ms, Json.parse? t = some (.obj ms) →
    argumentsIn t = Json.without Check.reservedKey ms ∧ notes = []
  refused : t.trim ≠ [] → (∀ ms, Json.parse? t ≠ some (.obj ms)) →
    argumentsIn t = [] ∧ ∃ entry, notes = [entry] ∧ entry.WarnsAbout id name ∧
      ∀ debugging, Log.lines debugging notes = [entry.line]

/-! ## The meaning of a text -/

theorem argumentsIn_object {t : Text} {ms : Json.Members} (h : Json.parse? t = some (.obj ms)) :
    argumentsIn t = Json.without Check.reservedKey ms := by
  rw [argumentsIn, h]

theorem argumentsIn_refused {t : Text} (h : ∀ ms, Json.parse? t ≠ some (.obj ms)) :
    argumentsIn t = [] := by
  unfold argumentsIn
  split
  · exact absurd ‹_› (h _)
  · rfl

theorem argumentsIn_blank {t : Text} (h : t.trim = []) : argumentsIn t = [] := by
  refine argumentsIn_refused fun ms hms => ?_
  rw [Json.parse?_blank h] at hms
  cases hms

namespace OpenTool

variable (tool : OpenTool)

theorem malformedWarning_warnsAbout : tool.malformedWarning.WarnsAbout tool.id tool.name :=
  ⟨rfl, _, rfl, rfl, rfl⟩

theorem shapeWarning_warnsAbout : tool.shapeWarning.WarnsAbout tool.id tool.name :=
  ⟨rfl, _, rfl, rfl, rfl⟩

theorem input_refused (hne : tool.partialJson.trim ≠ [])
    (h : ∀ ms, Json.parse? tool.partialJson ≠ some (.obj ms)) :
    ∃ entry, tool.input = ([], [entry]) ∧ entry.WarnsAbout tool.id tool.name := by
  rw [input, if_neg hne]
  split
  · exact ⟨_, rfl, tool.malformedWarning_warnsAbout⟩
  · exact absurd ‹_› (h _)
  · exact ⟨_, rfl, tool.shapeWarning_warnsAbout⟩

/-- The arguments of a call are those that its text says, whatever the call is otherwise. -/
theorem input_eq_argumentsIn : tool.input.1 = argumentsIn tool.partialJson := by
  by_cases hobject : ∃ ms, Json.parse? tool.partialJson = some (.obj ms)
  · obtain ⟨ms, hms⟩ := hobject
    rw [tool.input_object hms, argumentsIn_object hms]
  · have hrefused : ∀ ms, Json.parse? tool.partialJson ≠ some (.obj ms) := not_exists.mp hobject
    rw [argumentsIn_refused hrefused]
    by_cases hblank : tool.partialJson.trim = []
    · rw [tool.input_blank hblank]
    · obtain ⟨entry, hinput, -⟩ := tool.input_refused hblank hrefused
      rw [hinput]

theorem input_remarked : Remarked tool.partialJson tool.id tool.name tool.input.2 where
  blank h := by
    refine ⟨argumentsIn_blank h, ?_⟩
    rw [tool.input_blank h]
  object ms h := by
    refine ⟨argumentsIn_object h, ?_⟩
    rw [tool.input_object h]
  refused hne h := by
    obtain ⟨entry, hinput, hwarns⟩ := tool.input_refused hne h
    rw [hinput]
    refine ⟨argumentsIn_refused h, entry, rfl, hwarns, fun debugging => ?_⟩
    simp [Log.lines, hwarns.level]

end OpenTool

/-! ## The fold over a block -/

namespace Merged

theorem mergeAll_fragments (tool : OpenTool) (fragments : List Text) :
    mergeAll (.tools ⟨some tool, []⟩)
        (fragments.map fun t => .blockDelta tool.index (.inputJson t))
      = ([], .ok (.tools
          ⟨some { tool with partialJson := tool.partialJson ++ fragments.flatten }, []⟩)) := by
  -- The text of the call grows from left to right, so it is general in the induction.
  induction fragments generalizing tool with
  | nil => rw [List.flatten_nil, List.append_nil]; rfl
  | cons t fragments ih =>
      have hrest := ih { tool with partialJson := tool.partialJson ++ t }
      rw [List.map_cons, mergeAll, merge_fragment rfl]
      simp only [hrest, List.flatten_cons, List.append_assoc, List.nil_append]

/-- A block that is started, told and stopped under one index folds to its call. -/
theorem ofWindow_toolBlock (index : Number) (id name : Text) (fragments : List Text) :
    ofWindow (toolBlock index id name fragments)
      = ((OpenTool.input ⟨index, id, name, fragments.flatten⟩).2,
          .ok (.tools ⟨none, [OpenTool.finished ⟨index, id, name, fragments.flatten⟩]⟩)) := by
  have hopen : ofWindow (.blockStart index (.toolUse id name) ::
      fragments.map fun t => .blockDelta index (.inputJson t))
      = ([], .ok (.tools ⟨some ⟨index, id, name, fragments.flatten⟩, []⟩)) :=
    mergeAll_fragments ⟨index, id, name, []⟩ fragments
  rw [ofWindow] at hopen
  rw [ofWindow, toolBlock, mergeAll_append, hopen]
  simp only [merge_stop, List.nil_append]
  rfl

end Merged

/-- A message that has started takes a finished call and goes on. -/
theorem respondToWindows_call {d : Draft} (hstarted : d.started = true) {w : List Event}
    {notes : List Log.Entry} {call : ToolUse}
    (hw : Merged.ofWindow w = (notes, .ok (.tools ⟨none, [call]⟩))) :
    respondToWindows.react d w = .next (d.appendBlocks [.toolUse call])
      (Act.logs notes ++
        [.yield ((d.appendBlocks [.toolUse call]).respond (.value "tool_use") [.toolUse call])]) := by
  simp only [respondToWindows, hw, Draft.apply, Draft.requireStarted_ok hstarted]
  rfl

/-- A complete block always folds to one finished call, with the id and the name of its start, and
its arguments are what the joined text of its fragments says. The log says something only of a text
that is neither blank nor an object, and then it is one warning that names the call. A message that
has started takes the call and goes on. -/
theorem toolBlock_arguments (index : Number) (id name : Text) (fragments : List Text) :
    ∃ notes, Merged.ofWindow (Merged.toolBlock index id name fragments)
        = (notes, .ok (.tools ⟨none, [⟨id, name, argumentsIn fragments.flatten⟩]⟩)) ∧
      Remarked fragments.flatten id name notes ∧
      ∀ d : Draft, d.started = true → ∃ r : Response,
        respondToWindows.react d (Merged.toolBlock index id name fragments)
          = .next (d.appendBlocks [.toolUse ⟨id, name, argumentsIn fragments.flatten⟩])
            (Act.logs notes ++ [.yield r]) ∧
        r.content = [.toolUse ⟨id, name, argumentsIn fragments.flatten⟩] := by
  have hinput := OpenTool.input_eq_argumentsIn ⟨index, id, name, fragments.flatten⟩
  have hfold := Merged.ofWindow_toolBlock index id name fragments
  rw [OpenTool.finished, hinput] at hfold
  refine ⟨_, hfold, OpenTool.input_remarked ⟨index, id, name, fragments.flatten⟩, ?_⟩
  intro d hstarted
  exact ⟨_, respondToWindows_call hstarted hfold, rfl⟩

/-- A no-break space is blank, but no white space of JSON. -/
example : argumentsIn [0xA0] = [] ∧ argumentsIn " \x7b\"a\":null\x7d\n" = [(("a" : Text), .null)] ∧
    argumentsIn (0xA0 :: "\x7b\"a\":null\x7d") = [] := by
  decide +kernel

end ChatRelay
