import ChatRelay.Console.Arguments
import ChatRelay.Proofs.Text.Cutting

/-!
# What a command line says

A command line is a sequence of parts, each written as one word or two: a switch, a word of the table of
options with the word behind it, or a word of the prompt. At its end there may be a word of the
table with nothing behind it. A `CommandLine` is such a sequence, and which words the table holds
beside the options is a parameter of what is `Proper`.

Every list of words is a command line (`CommandLine.exists_proper`), and what is read from it is told by
its parts (`Tells`). The reader adds part by part, so this is an invariant: `Tells.add_part` for one
part, `Tells.add` for all of them.

With a table that holds the options alone every other word would belong to the prompt. That is what is read
as long as none of these words is reserved (`CommandLine.Proper.reserve`); a reserved one is lost, with
the word behind it.
-/

namespace ChatRelay.Console

/-- A part of a command line. -/
inductive CommandPart where
  | switch (word : Text)
  | setting (setter : Setter) (word value : Text)
  | plain (word : Text)

/-- A command line in parts, with a word of the table at its end that has no value. -/
structure CommandLine where
  parts : List CommandPart
  bare : Option Text

/-- The words of the table that set something; `others` are those that set nothing. -/
def Setter.names (others : List Text) : Setter → List Text
  | .model => ["--model", "-m"]
  | .system => ["--system", "-s"]
  | .nothing => others

/-- What holds for every setter can be checked for each of them. -/
instance {P : Setter → Prop} [DecidablePred P] : Decidable (∀ setter, P setter) :=
  decidable_of_iff (P .model ∧ P .system ∧ P .nothing) <| by
    constructor
    · rintro ⟨hmodel, hsystem, hnothing⟩ (_ | _ | _)
      exacts [hmodel, hsystem, hnothing]
    · exact fun h => ⟨h .model, h .system, h .nothing⟩

namespace CommandPart

/-- The words that a part is written as. -/
def words : CommandPart → List Text
  | .switch word => [word]
  | .setting _ word value => [word, value]
  | .plain word => [word]

/-- A part is what its first word is: a switch, a word of the table, or neither of them. -/
def Proper (others : List Text) : CommandPart → Prop
  | .switch word => word = "--interactive" ∨ word = "-i"
  | .setting setter word _ => word ∈ setter.names others
  | .plain word => ¬ (word = "--interactive" ∨ word = "-i") ∧ ∀ setter : Setter, word ∉ setter.names others

instance (others : List Text) : DecidablePred (Proper others)
  | .switch _ => inferInstanceAs (Decidable (_ ∨ _))
  | .setting _ _ _ => inferInstanceAs (Decidable (_ ∈ _))
  | .plain _ => inferInstanceAs (Decidable (_ ∧ _))

/-- The value that a part names for an option, trimmed and unless it is blank. -/
def value? (option : Setter) : CommandPart → Option Text
  | .setting setter _ value => if setter = option ∧ value.trim ≠ [] then some value.trim else none
  | _ => none

/-- A part that makes the session interactive. -/
def isSwitch : CommandPart → Bool
  | .switch _ => true
  | _ => false

/-- The word of the prompt, if the part is one. -/
def plain? : CommandPart → Option Text
  | .plain word => some word
  | _ => none

end CommandPart

namespace CommandLine

variable {others : List Text}

/-- The words of a command line from left to right. -/
def words (line : CommandLine) : List Text := line.parts.flatMap CommandPart.words ++ line.bare.toList

/-- A command line whose parts are what their words say. -/
structure Proper (others : List Text) (line : CommandLine) : Prop where
  parts : ∀ part ∈ line.parts, part.Proper others
  bare : ∀ word, line.bare = some word →
    ¬ (word = "--interactive" ∨ word = "-i") ∧ ∃ setter : Setter, word ∈ setter.names others

/-- The words of a command line without those that are not part of the prompt, joined with single
spaces and trimmed. -/
def prompt (line : CommandLine) : Text :=
  (Text.joinWith " " (line.parts.filterMap CommandPart.plain?)).trim

theorem Proper.cons {line : CommandLine} (hline : line.Proper others) (part : CommandPart)
    (hpart : part.Proper others) : Proper others ⟨part :: line.parts, line.bare⟩ :=
  ⟨List.forall_mem_cons.mpr ⟨hpart, hline.parts⟩, hline.bare⟩

theorem words_cons (part : CommandPart) (line : CommandLine) :
    words ⟨part :: line.parts, line.bare⟩ = part.words ++ line.words := by
  rw [words, List.flatMap_cons, List.append_assoc]
  rfl

/-- Every list of words is a command line, whatever the table holds. -/
theorem exists_proper (others : List Text) (ws : List Text) :
    ∃ line : CommandLine, line.Proper others ∧ line.words = ws := by
  induction h : ws.length using Nat.strongRecOn generalizing ws with
  | ind n ih =>
      subst h
      cases ws with
      | nil => exact ⟨⟨[], none⟩, ⟨nofun, nofun⟩, rfl⟩
      | cons word rest =>
          obtain ⟨line, hline, hwords⟩ := ih rest.length (Nat.lt_succ_self _) rest rfl
          by_cases hswitch : word = "--interactive" ∨ word = "-i"
          · exact ⟨_, hline.cons (.switch word) hswitch, by rw [words_cons, hwords]; rfl⟩
          by_cases hset : ∃ setter : Setter, word ∈ setter.names others
          · cases rest with
            | nil =>
                refine ⟨⟨[], some word⟩, ⟨nofun, ?_⟩, rfl⟩
                rintro w ⟨⟩
                exact ⟨hswitch, hset⟩
            | cons value rest =>
                obtain ⟨setter, hsetter⟩ := hset
                obtain ⟨line, hline, hwords⟩ := 
                  ih rest.length (Nat.lt_succ_of_lt (Nat.lt_succ_self _)) rest rfl
                refine ⟨_, hline.cons (.setting setter word value) hsetter, ?_⟩
                rw [words_cons, hwords]
                rfl
          · refine ⟨_, hline.cons (.plain word) ⟨hswitch, fun s hs => hset ⟨s, hs⟩⟩, ?_⟩
            rw [words_cons, hwords]
            rfl

end CommandLine

namespace Arguments

variable {a : Arguments} {past : List CommandPart} {part : CommandPart}

theorem contains_switches {word : Text} :
    switches.contains word = true ↔ word = "--interactive" ∨ word = "-i" := by
  simp [switches]

/-- What a word sets is what it is in the table for. -/
theorem setter?_of_mem {setter : Setter} {word : Text} (h : word ∈ setter.names reserved) :
    setter? word = some setter := by
  have hall : ∀ setter : Setter, ∀ word ∈ setter.names reserved, setter? word = some setter := by
    decide
  exact hall setter word h

theorem setter?_of_not_mem {word : Text} (h : ∀ setter : Setter, word ∉ setter.names reserved) :
    setter? word = none := by
  have hmodel : ¬ (word = "--model" ∨ word = "-m") := by simpa [Setter.names] using h .model
  have hsystem : ¬ (word = "--system" ∨ word = "-s") := by simpa [Setter.names] using h .system
  have hreserved : reserved.contains word = false := by simpa [Setter.names] using h .nothing
  rw [setter?, if_neg hmodel, if_neg hsystem, hreserved]
  rfl

/-- No word of the table is a switch. -/
theorem not_switch_of_mem {setter : Setter} {word : Text} (h : word ∈ setter.names reserved) :
    switches.contains word = false := by
  have hall : ∀ setter : Setter, ∀ word ∈ setter.names reserved, switches.contains word = false := by
    decide
  exact hall setter word h

/-- The arguments with one part more. -/
def addPart (a : Arguments) (part : CommandPart) : Arguments where
  interactive := a.interactive || part.isSwitch
  model := (part.value? .model).or a.model
  system := (part.value? .system).or a.system
  words := a.words ++ part.plain?.toList

theorem addPart_setting (a : Arguments) (setter : Setter) (word value : Text) :
    a.addPart (.setting setter word value) = a.setTrimmed setter value := by
  have hblank : value.trimmed? = if value.trim ≠ [] then some value.trim else none := by
    rw [Text.trimmed?]
    cases value.trim <;> rfl
  rw [setTrimmed, hblank]
  by_cases hvalue : value.trim ≠ [] <;> cases setter <;>
    simp [addPart, CommandPart.isSwitch, CommandPart.value?, CommandPart.plain?, set, hvalue]

theorem add_words (hpart : part.Proper reserved) (rest : List Text) :
    a.add (part.words ++ rest) = (a.addPart part).add rest := by
  cases part with
  | switch word =>
      have hadd : a.addPart (.switch word) = { a with interactive := true } := by
        simp [addPart, CommandPart.isSwitch, CommandPart.value?, CommandPart.plain?]
      rw [hadd, CommandPart.words, List.singleton_append, add.eq_def]
      exact if_pos (contains_switches.mpr hpart)
  | setting setter word value =>
      rw [addPart_setting, CommandPart.words, List.cons_append, List.singleton_append, add,
        not_switch_of_mem hpart]
      · rfl
      · exact setter?_of_mem hpart
  | plain word =>
      have hadd : a.addPart (.plain word) = { a with words := a.words ++ [word] } := by
        simp [addPart, CommandPart.isSwitch, CommandPart.value?, CommandPart.plain?]
      rw [hadd, CommandPart.words, List.singleton_append, add,
        if_neg (mt contains_switches.mp hpart.1)]
      exact setter?_of_not_mem hpart.2

/-- A word of the table with nothing behind it says nothing. -/
theorem add_bare {word : Text} {setter : Setter} (h : word ∈ setter.names reserved) :
    a.add [word] = a := by
  rw [add, not_switch_of_mem h]
  · rfl
  · exact setter
  · exact setter?_of_mem h

/-- What the arguments are that were read from some parts: interactive if there is a switch, for each
option its last value that is not blank, and the words of the prompt. -/
structure Tells (a : Arguments) (parts : List CommandPart) : Prop where
  interactive : a.interactive = parts.any CommandPart.isSwitch
  model : a.model = (parts.filterMap (CommandPart.value? .model)).getLast?
  system : a.system = (parts.filterMap (CommandPart.value? .system)).getLast?
  words : a.words = parts.filterMap CommandPart.plain?

theorem tells_nil : Tells {} [] := ⟨rfl, rfl, rfl, rfl⟩

theorem getLast?_value (option : Setter) (past : List CommandPart) (part : CommandPart) :
    ((past ++ [part]).filterMap (CommandPart.value? option)).getLast?
      = (part.value? option).or (past.filterMap (CommandPart.value? option)).getLast? := by
  rw [List.filterMap_append, List.getLast?_append]
  cases h : part.value? option <;> simp [h]

theorem Tells.add_part (h : a.Tells past) (part : CommandPart) :
    (a.addPart part).Tells (past ++ [part]) := by
  refine ⟨?_, ?_, ?_, ?_⟩
  · rw [addPart, h.interactive, List.any_append, List.any_cons, List.any_nil, Bool.or_false]
  · rw [getLast?_value, ← h.model]
    rfl
  · rw [getLast?_value, ← h.system]
    rfl
  · rw [List.filterMap_append, ← h.words, addPart]
    cases hplain : part.plain? <;> simp [hplain]

theorem Tells.add (h : a.Tells past) {line : CommandLine} (hline : line.Proper reserved) :
    (a.add line.words).Tells (past ++ line.parts) := by
  obtain ⟨parts, bare⟩ := line
  induction parts generalizing a past with
  | nil =>
      rw [List.append_nil]
      cases bare with
      | none => exact h
      | some word =>
          obtain ⟨-, setter, hword⟩ := hline.bare word rfl
          exact (add_bare hword).symm ▸ h
  | cons part parts ih =>
      obtain ⟨hpart, hparts⟩ := List.forall_mem_cons.mp hline.parts
      have hrest := ih (h.add_part part) ⟨hparts, hline.bare⟩
      rw [List.append_assoc, List.singleton_append] at hrest
      rw [CommandLine.words_cons part ⟨parts, bare⟩, add_words hpart]
      exact hrest

theorem tells_read {line : CommandLine} (hline : line.Proper reserved) :
    (read line.words).Tells line.parts ∧ (read line.words).prompt = line.prompt := by
  have h := tells_nil.add hline
  exact ⟨h, congrArg (fun words => (Text.joinWith " " words).trim) h.words⟩

end Arguments

/-- A command line whose table holds the options alone, and none of whose words of the prompt is reserved,
is also one with the reserved words in the table. -/
theorem CommandLine.Proper.reserve {line : CommandLine} (h : line.Proper [])
    (hplain : ∀ word, .plain word ∈ line.parts → word ∉ Arguments.reserved) :
    line.Proper Arguments.reserved := by
  have hnames {setter : Setter} {word : Text} (hword : word ∈ setter.names []) :
      word ∈ setter.names Arguments.reserved := by
    cases setter with
    | model | system => exact hword
    | nothing => exact absurd hword List.not_mem_nil
  refine ⟨fun part hpart => ?_, fun word hbare => ?_⟩
  · have hproper := h.parts part hpart
    cases part with
    | switch word => exact hproper
    | setting setter word value => exact hnames hproper
    | plain word =>
        refine ⟨hproper.1, fun setter => ?_⟩
        cases setter with
        | model => exact hproper.2 .model
        | system => exact hproper.2 .system
        | nothing => exact hplain word hpart
  · obtain ⟨hswitch, setter, hword⟩ := h.bare word hbare
    exact ⟨hswitch, setter, hnames hword⟩

/-- A list of words is read as what the parts say that it is made of: the interactive mode, the last
value of each option that is not blank, and as the prompt all words that are neither switches nor
words of the table nor their values. The table holds the reserved words beside the options; if none
of them stands where a word of the prompt would stand, it is as if the table held the options
alone. -/
theorem Arguments.read_tells (words : List Text) :
    (∀ others, ∃ line : CommandLine, line.Proper others ∧ line.words = words) ∧
      (∀ line : CommandLine, line.Proper reserved → line.words = words →
        (read words).Tells line.parts ∧ (read words).prompt = line.prompt) ∧
      ∀ line : CommandLine, line.Proper [] → line.words = words →
        (∀ word, .plain word ∈ line.parts → word ∉ reserved) →
          (read words).Tells line.parts ∧ (read words).prompt = line.prompt := by
  refine ⟨fun others => CommandLine.exists_proper others words, ?_, ?_⟩
  · rintro line hline rfl
    exact tells_read hline
  · rintro line hline rfl hplain
    exact tells_read (hline.reserve hplain)

/-- A command line with a switch, an option that is named twice, and one at its end that has no value. A
reserved word is the value of an option there, and no word of the prompt is one. -/
def greetingLine : CommandLine :=
  ⟨[.plain "hello", .setting .model "-m" "constructor", .switch "-i", .setting .model "--model" " ",
    .plain "world"], some "-s"⟩

theorem Arguments.read_tells_greetingLine :
    greetingLine.Proper [] ∧ (∀ word, .plain word ∈ greetingLine.parts → word ∉ reserved) ∧
      (read ["hello", "-m", "constructor", "-i", "--model", " ", "world", "-s"]).Tells greetingLine.parts ∧
      (read ["hello", "-m", "constructor", "-i", "--model", " ", "world", "-s"]).prompt
        = "hello world" := by
  have hproper : greetingLine.Proper [] := by
    refine ⟨by decide, ?_⟩
    rintro word ⟨⟩
    exact ⟨by decide, .system, by decide⟩
  have hplain : ∀ word, .plain word ∈ greetingLine.parts → word ∉ reserved := by
    have hwords : ∀ word ∈ greetingLine.parts.filterMap CommandPart.plain?, word ∉ reserved := by decide
    exact fun word hword => hwords word (List.mem_filterMap.mpr ⟨_, hword, rfl⟩)
  obtain ⟨htells, hprompt⟩ := (read_tells
    ["hello", "-m", "constructor", "-i", "--model", " ", "world", "-s"]).2.2 _ hproper rfl hplain
  refine ⟨hproper, hplain, htells, hprompt.trans ?_⟩
  decide

/-- A reserved word is lost with the word behind it, although neither is an option or its value. -/
theorem Arguments.reserved_word_lost :
    ¬ ∀ line : CommandLine, line.Proper [] → (read line.words).prompt = line.prompt := by
  intro h
  have hwords : ∀ word ∈ [Text.ofString "constructor", "hello", "world"],
      ¬ (word = "--interactive" ∨ word = "-i") ∧ ∀ setter : Setter, word ∉ setter.names [] := by
    decide
  have hproper : CommandLine.Proper []
      ⟨[Text.ofString "constructor", "hello", "world"].map .plain, none⟩ :=
    ⟨List.forall_mem_map.mpr hwords, nofun⟩
  exact absurd (h _ hproper) (by decide)

end ChatRelay.Console
