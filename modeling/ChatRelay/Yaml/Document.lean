import ChatRelay.Yaml.Outline.Build
import ChatRelay.Yaml.Resolution

/-!
# YAML documents

A text holds one document. Directives stand before it, which `---` has to end: they say the version,
and what the handles of tags stand for. `...` ends a document, and nothing but comments and
directives may follow. A text without a document means null.
-/

namespace ChatRelay.Yaml

/-! ## Directives -/

/-- The words of a directive. -/
def directiveWords (line : Text) : List Text :=
  (line.trim.splitBy fun u v => isBlank u == isBlank v).filter fun w =>
    !(w.head?.map isBlank).getD true

/-- Whether a text is a version number. -/
def isVersion (t : Text) : Bool :=
  match Text.splitOn (Text.unit '.') t with
  | [major, minor] =>
    !major.isEmpty && !minor.isEmpty && Scalar.areDigits major && Scalar.areDigits minor
  | _ => false

/-- What holds behind a directive. Versions that are not known and other directives say nothing. -/
def Scope.direct? (scope : Scope) (line : Text) : Option Scope :=
  match directiveWords line with
  | [] => some scope
  | name :: words =>
    if name = "%YAML" then
      match words with
      | [version] =>
        if version = "1.1" then some { scope with version := .older }
        else if version = "1.2" then some { scope with version := .current }
        else if isVersion version then some scope
        else none
      | _ => none
    else if name = "%TAG" then
      match words with
      | [handle, start] => some { scope with handles := scope.handles.set handle start }
      | _ => none
    else some scope

/-! ## The document of a text -/

/-- What has been read of a text: what its directives say, whether there are any that no document
has followed, and the document with what held for it. -/
structure Stream where
  scope : Scope := {}
  directed : Bool := false
  document : Option (Scope × Node) := none

/-- Reads a section, if it may stand there. -/
def Stream.next? (fuel : Nat) (s : Stream) : Section → Option Stream
  | .directive line =>
    (s.scope.direct? line.text).map fun scope => { s with scope := scope, directed := true }
  | .document d =>
    if s.document.isSome then none
    else
      match documentNode? s.scope fuel d with
      | none => none
      | some (node, marked) =>
        if s.directed && !marked then none
        else some { s with directed := false, document := some (s.scope, node) }
  | .ending _ tail =>
    if s.document.isNone then none else (trailing? true 0 tail).map fun _ => s

/-- The stream that a text is, if it follows the grammar. Nodes are not deeper than the number of
lexemes. -/
def stream? (text : Text) : Option Stream := do
  let xs ← lexemes? text
  let s ← (← sections? xs).foldlM (Stream.next? (xs.length + 1)) {}
  if s.document.isNone && s.directed then none else return s

/-- The value of a text. -/
def parse (text : Text) : Except Error Value :=
  match stream? text with
  | none => .error .malformed
  | some s =>
    match s.document with
    | none => .ok .null
    | some (scope, node) => node.value scope

end ChatRelay.Yaml
