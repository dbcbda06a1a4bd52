import ChatRelay.Text.Basic

/-!
# Arguments of the command line

Words are read from left to right. A switch stands alone; an option takes the word behind it as its
value, whatever that is, and a blank value leaves the option as it was. All other words make up the
prompt.

Some words are reserved in the table of options: they take a value like an option and set nothing.
-/

namespace ChatRelay.Console

/-- What the arguments say. -/
structure Arguments where
  interactive : Bool := false
  model : Option Text := none
  system : Option Text := none
  words : List Text := []
  deriving DecidableEq

/-- What an option sets. -/
inductive Setter where
  | model
  | system
  | nothing
  deriving DecidableEq

namespace Arguments

/-- The words that switch the interactive mode on. -/
def switches : List Text := ["--interactive", "-i"]

/-- The words that are reserved in the table of options. -/
def reserved : List Text :=
  ["constructor", "__proto__", "hasOwnProperty", "isPrototypeOf", "propertyIsEnumerable",
    "toLocaleString", "toString", "valueOf", "__defineGetter__", "__defineSetter__",
    "__lookupGetter__", "__lookupSetter__"]

/-- What a word sets, if it is an option. -/
def setter? (word : Text) : Option Setter :=
  if word = "--model" ∨ word = "-m" then some .model
  else if word = "--system" ∨ word = "-s" then some .system
  else if reserved.contains word then some .nothing
  else none

/-- The arguments with an option set. -/
def set (a : Arguments) (value : Text) : Setter → Arguments
  | .model => { a with model := some value }
  | .system => { a with system := some value }
  | .nothing => a

/-- The arguments with the value of an option, which counts only if it is not blank. -/
def setTrimmed (a : Arguments) (setter : Setter) (value : Text) : Arguments :=
  match value.trimmed? with
  | some value => a.set value setter
  | none => a

/-- The arguments after further words. -/
def add (a : Arguments) : List Text → Arguments
  | [] => a
  | word :: rest =>
    if switches.contains word then add { a with interactive := true } rest
    else
      match setter? word, rest with
      | some _, [] => a
      | some setter, value :: rest => add (a.setTrimmed setter value) rest
      | none, rest => add { a with words := a.words ++ [word] } rest

/-- What the words of a command line say. -/
def read (words : List Text) : Arguments := add {} words

/-- The prompt, which may be blank. -/
def prompt (a : Arguments) : Text := (Text.joinWith " " a.words).trim

end Arguments

end ChatRelay.Console
