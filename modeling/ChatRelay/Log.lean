import ChatRelay.Failure

/-!
# Log lines

A log entry is a level, a message and optional data. A logger has a scope, which it puts in front,
and writes debug entries only when debugging is on; the other levels are always written.
-/

namespace ChatRelay

namespace Log

/-- Data of a log entry: JSON that may hold places without a value and things that have no JSON
form. -/
inductive Detail where
  | json (value : Json)
  | list (items : List Detail)
  | record (members : List (Text × Detail))
  | missing
  | unprintable

mutual

/-- The JSON of a detail: `none` if it holds something without a JSON form, `some none` if there is
nothing to write. Members without a value are left out, items without one become `null`. -/
def Detail.toJson? : Detail → Option (Option Json)
  | .json v => some (some v)
  | .list items => (itemsToJson? items).map fun xs => some (.arr xs)
  | .record members => (membersToJson? members).map fun ms => some (.obj ms)
  | .missing => some none
  | .unprintable => none

/-- The items of a list. -/
def itemsToJson? : List Detail → Option (List Json)
  | [] => some []
  | x :: xs =>
    match x.toJson?, itemsToJson? xs with
    | some v, some vs => some (v.getD .null :: vs)
    | _, _ => none

/-- The members of a record. -/
def membersToJson? : List (Text × Detail) → Option Json.Members
  | [] => some []
  | (key, x) :: xs =>
    match x.toJson?, membersToJson? xs with
    | some (some v), some vs => some ((key, v) :: vs)
    | some none, some vs => some vs
    | _, _ => none

end

/-- The importance of an entry. -/
inductive Level where
  | debug
  | info
  | warn
  | error
  deriving DecidableEq

/-- The name of a level. -/
def Level.name : Level → Text
  | .debug => "DEBUG"
  | .info => "INFO"
  | .warn => "WARN"
  | .error => "ERROR"

/-- One thing to be logged, with the scope of the part that logs it; an empty scope is none. -/
structure Entry where
  level : Level
  message : Text
  data : Detail
  scope : Text := []

namespace Entry

/-- An entry with the given members as its data. -/
def of (level : Level) (message : String) (data : List (String × Option Json)) : Entry :=
  ⟨level, message, .json (.object data), []⟩

/-- A debug entry. -/
def debug (message : String) (data : List (String × Option Json)) : Entry := of .debug message data

/-- An informative entry. -/
def info (message : String) (data : List (String × Option Json)) : Entry := of .info message data

/-- A warning. -/
def warn (message : String) (data : List (String × Option Json)) : Entry := of .warn message data

/-- An error entry that shows a failure. -/
def failure (message : String) (f : Failure) : Entry := of .error message [("error", some f.toJson)]

/-- The entry as logged by a part named `outer`. -/
def within (outer : Text) (e : Entry) : Entry :=
  { e with scope :=
      if outer.isEmpty then e.scope
      else if e.scope.isEmpty then outer
      else outer ++ ":" ++ e.scope }

/-- The message with the data behind it. -/
def body (e : Entry) : Text :=
  match e.data.toJson? with
  | some none => e.message
  | some (some v) => e.message ++ " " ++ v.render
  | none => e.message ++ " [unserializable-data]"

/-- The line that is written for an entry. -/
def line (e : Entry) : Text :=
  let scope : Text := if e.scope.isEmpty then [] else " [" ++ e.scope ++ "]"
  "[" ++ e.level.name ++ "]" ++ scope ++ " " ++ e.body

end Entry

/-- The lines that are written for a list of entries: all but the debug entries, and those too
when debugging is on. -/
def lines (debugging : Bool) (entries : List Entry) : List Text :=
  (entries.filter fun e => debugging || e.level != .debug).map Entry.line

end Log

/-- A logger writes entries under its scope. -/
structure Logger where
  debugging : Bool
  scope : Text := []

namespace Logger

/-- The logger of a part of what this logger speaks for. -/
def child (logger : Logger) (scope : Text) : Logger :=
  { logger with scope := if logger.scope.isEmpty then scope else logger.scope ++ ":" ++ scope }

/-- The lines written for an entry: one or none. -/
def write (logger : Logger) (e : Log.Entry) : List Text :=
  Log.lines logger.debugging [e.within logger.scope]

end Logger

end ChatRelay
