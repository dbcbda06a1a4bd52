import ChatRelay.Json.Basic

/-!
# Checking the shape of values

A check reads one place of a value and answers what it found and every issue it has with it. It sees
only the `Shape` of the value, so the same checks read JSON and data from other formats, which may
hold kinds of values that JSON does not have. Checks of the fields of an object are combined so that
the issues add up in field order and none hides another (`Checked.both`). A value of the wrong kind
yields no result at all; a value of the right kind that breaks a bound yields its issue and still
counts as read, so that a condition on the whole object is checked as long as every field has the
right kind (`Checked.require`).
-/

namespace ChatRelay

/-- The kind of a value, as issues name it. -/
inductive Kind where
  | string
  | number
  | nan
  | integer
  | float
  | boolean
  | object
  | array
  | null
  | missing
  | map
  | set
  | date
  | symbol
  deriving DecidableEq

/-- The name of a kind. -/
def Kind.name : Kind → Text
  | .string => "string"
  | .number => "number"
  | .nan => "nan"
  | .integer => "integer"
  | .float => "float"
  | .boolean => "boolean"
  | .object => "object"
  | .array => "array"
  | .null => "null"
  | .missing => "undefined"
  | .map => "map"
  | .set => "set"
  | .date => "date"
  | .symbol => "symbol"

/-- What a value looks like from outside; of a value of a kind that no check accepts, only the kind
is seen. -/
inductive Shape (δ : Type) where
  | null
  | bool (b : Bool)
  | num (x : Number)
  | str (s : Text)
  | arr (items : List δ)
  | obj (members : List (Text × δ))
  | other (kind : Kind)

/-- Data that can be checked. -/
class Shaped (δ : Type) where
  shape : δ → Shape δ

export Shaped (shape)

/-- The shape of a JSON value. -/
def Json.shape : Json → Shape Json
  | .null => .null
  | .bool b => .bool b
  | .num x => .num x
  | .str s => .str s
  | .arr items => .arr items
  | .obj ms => .obj ms

instance : Shaped Json := ⟨Json.shape⟩

/-- The kind of a shape. -/
def Shape.kind {δ : Type} : Shape δ → Kind
  | .null => .null
  | .bool _ => .boolean
  | .num .nan => .nan
  | .num _ => .number
  | .str _ => .string
  | .arr _ => .array
  | .obj _ => .object
  | .other kind => kind

/-- The kind of what stands at a place. -/
def Kind.of {δ : Type} [Shaped δ] : Option δ → Kind
  | none => .missing
  | some v => (shape v).kind

/-- One step into a value. -/
inductive PathStep where
  | key (name : Text)
  | index (i : Nat)
  deriving DecidableEq

/-- What is wrong at a place. -/
inductive Fault where
  | wrongKind (expected received : Kind)
  | fractional
  | emptyString
  | notPositive
  | negative
  | aboveOne
  | unmatched (message : Text)
  | invalidUrl
  | unknownVariant (options : List Text)
  | unmet (message : Text)
  deriving DecidableEq

/-- A fault and its place. -/
structure Issue where
  path : List PathStep
  fault : Fault
  deriving DecidableEq

/-- A text in single quotes. -/
def singleQuoted (t : Text) : Text := "'" ++ t ++ "'"

/-- The sentence that describes a fault. -/
def Fault.message : Fault → Text
  | .wrongKind _ .missing => "Required"
  | .wrongKind expected received => "Expected " ++ expected.name ++ ", received " ++ received.name
  | .fractional => "Expected integer, received float"
  | .emptyString => "String must contain at least 1 character(s)"
  | .notPositive => "Number must be greater than 0"
  | .negative => "Number must be greater than or equal to 0"
  | .aboveOne => "Number must be less than or equal to 1"
  | .unmatched message => message
  | .invalidUrl => "Invalid url"
  | .unknownVariant options =>
    "Invalid discriminator value. Expected " ++ Text.joinWith " | " (options.map singleQuoted)
  | .unmet message => message

/-- A path as a JSON array. -/
def PathStep.toJson : PathStep → Json
  | .key name => .str name
  | .index i => Json.ofNat i

/-- The members that report a number or a string out of bounds. -/
def boundMembers (code bound : String) (limit : Nat) (type : String) (inclusive : Bool) :
    List (String × Option Json) :=
  [("code", some (.str code)), (bound, some (Json.ofNat limit)), ("type", some (.str type)),
    ("inclusive", some (.bool inclusive)), ("exact", some (.bool false))]

/-- An issue as JSON, its members in the order in which they are reported. -/
def Issue.toJson (issue : Issue) : Json :=
  let path := ("path", some (Json.arr (issue.path.map PathStep.toJson)))
  let message := ("message", some (Json.str issue.fault.message))
  match issue.fault with
  | .wrongKind expected received =>
    .object [("code", some (.str "invalid_type")), ("expected", some (.str expected.name)),
      ("received", some (.str received.name)), path, message]
  | .fractional =>
    .object [("code", some (.str "invalid_type")), ("expected", some (.str Kind.integer.name)),
      ("received", some (.str Kind.float.name)), message, path]
  | .emptyString => .object (boundMembers "too_small" "minimum" 1 "string" true ++ [message, path])
  | .notPositive => .object (boundMembers "too_small" "minimum" 0 "number" false ++ [message, path])
  | .negative => .object (boundMembers "too_small" "minimum" 0 "number" true ++ [message, path])
  | .aboveOne => .object (boundMembers "too_big" "maximum" 1 "number" true ++ [message, path])
  | .unmatched _ =>
    .object [("validation", some (.str "regex")), ("code", some (.str "invalid_string")),
      message, path]
  | .invalidUrl =>
    .object [("validation", some (.str "url")), ("code", some (.str "invalid_string")),
      message, path]
  | .unknownVariant options =>
    .object [("code", some (.str "invalid_union_discriminator")),
      ("options", some (.arr (options.map .str))), path, message]
  | .unmet _ => .object [("code", some (.str "custom")), message, path]

/-- A list of issues as JSON. -/
def issuesToJson (issues : List Issue) : Json := .arr (issues.map Issue.toJson)

/-! ## Results of checks -/

/-- What a check read, unless something had the wrong kind, and the issues it found. -/
structure Checked (α : Type) where
  value : Option α
  issues : List Issue

namespace Checked

variable {α β : Type}

/-- A value without issues. -/
def accept (a : α) : Checked α := ⟨some a, []⟩

/-- A value of the wrong kind. -/
def reject (issue : Issue) : Checked α := ⟨none, [issue]⟩

/-- A value of the right kind, with issues. -/
def flag (a : α) (issues : List Issue) : Checked α := ⟨some a, issues⟩

/-- Changes what was read. -/
def map (f : α → β) (c : Checked α) : Checked β := ⟨c.value.map f, c.issues⟩

/-- Combines two checks; the issues of the first come first. -/
def both (f : Checked (α → β)) (c : Checked α) : Checked β :=
  ⟨f.value.bind fun g => c.value.map g, f.issues ++ c.issues⟩

instance : Functor Checked := ⟨map, fun a => map fun _ => a⟩

instance : Applicative Checked where
  pure := accept
  seq f c := both f (c ())

/-- A condition on a value whose parts all have the right kind. -/
def require (c : Checked α) (holds : α → Bool) (issue : Issue) : Checked α :=
  match c.value with
  | none => c
  | some a => if holds a then c else ⟨some a, c.issues ++ [issue]⟩

/-- The value if nothing is wrong with it, else the issues. -/
def toExcept (c : Checked α) : Except (List Issue) α :=
  match c.value, c.issues with
  | some a, [] => .ok a
  | _, issues => .error issues

end Checked

/-! ## Checks -/

/-- Reads what stands at a place, which may be nothing. -/
abbrev Check (α : Type) (δ : Type := Json) := List PathStep → Option δ → Checked α

namespace Check

variable {α δ : Type} [Shaped δ]

/-- The issue of a value that is not of the expected kind. -/
def wrongKind (expected : Kind) (path : List PathStep) (found : Option δ) : Checked α :=
  .reject ⟨path, .wrongKind expected (Kind.of found)⟩

/-- A string. -/
def string : Check Text δ := fun path found =>
  match found.map shape with
  | some (.str s) => .accept s
  | _ => wrongKind .string path found

/-- A string with at least one character. -/
def nonEmptyString : Check Text δ := fun path found =>
  match found.map shape with
  | some (.str s) => .flag s (if s.isEmpty then [⟨path, .emptyString⟩] else [])
  | _ => wrongKind .string path found

/-- A boolean. -/
def boolean : Check Bool δ := fun path found =>
  match found.map shape with
  | some (.bool b) => .accept b
  | _ => wrongKind .boolean path found

/-- A number that satisfies the bounds whose faults are listed. -/
def number (bounds : List (Fault × (Number → Bool))) : Check Number δ := fun path found =>
  match found.map shape with
  | some (.num .nan) => wrongKind .number path found
  | some (.num x) => .flag x (bounds.filterMap fun (fault, holds) =>
      if holds x then none else some ⟨path, fault⟩)
  | _ => wrongKind .number path found

/-- A whole number that is not negative. -/
def count : Check Number δ := fun path found =>
  (number [(.fractional, Number.isInteger), (.negative, Number.isNonNegative)] path found).map
    Number.plainZero

/-- A whole number above zero. -/
def positive : Check Number δ :=
  number [(.fractional, Number.isInteger), (.notPositive, Number.isPositive)]

/-- A number from zero to one. -/
def fraction : Check Number δ :=
  number [(.negative, Number.isNonNegative), (.aboveOne, Number.isAtMostOne)]

/-- A value that may be left out. -/
def optional (check : Check α δ) : Check (Option α) δ := fun path found =>
  match found with
  | none => .accept none
  | some v => (check path (some v)).map some

/-- A value that may be `null`. -/
def nullable (check : Check α δ) : Check (Option α) δ := fun path found =>
  match found.map shape with
  | some .null => .accept none
  | _ => (check path found).map some

/-- A value that may be left out or `null`; both read as nothing. -/
def optionalOrNull (check : Check α δ) : Check (Option α) δ := fun path found =>
  (optional (nullable check) path found).map Option.join

/-- The members of an object. -/
def object (fields : List PathStep → List (Text × δ) → Checked α) : Check α δ := fun path found =>
  match found.map shape with
  | some (.obj ms) => fields path ms
  | _ => wrongKind .object path found

/-- The key that records leave out. -/
def reservedKey : Text := "__proto__"

/-- An object with arbitrary members, of which the reserved key is dropped. -/
def record : Check (List (Text × δ)) δ := object fun _ ms => .accept (Json.without reservedKey ms)

/-- A member of an object. -/
def field (check : Check α δ) (path : List PathStep) (ms : List (Text × δ)) (name : Text) :
    Checked α :=
  check (path ++ [.key name]) (Json.lookup name ms)

/-- The items of an array from position `i` on. -/
def itemsFrom (check : Check α δ) (path : List PathStep) : Nat → List δ → Checked (List α)
  | _, [] => .accept []
  | i, x :: xs =>
    (check (path ++ [.index i]) (some x)).map List.cons |>.both (itemsFrom check path (i + 1) xs)

/-- An array. -/
def array (check : Check α δ) : Check (List α) δ := fun path found =>
  match found.map shape with
  | some (.arr xs) => itemsFrom check path 0 xs
  | _ => wrongKind .array path found

end Check

end ChatRelay
