import ChatRelay.Log
import ChatRelay.Options
import ChatRelay.Yaml.Document

/-!
# The tools file

A YAML file declares the tools that are sent with every request. A declaration may be switched off,
and the configuration restricts by name which of the others are used: if it enables any name, only
the enabled ones, and never a disabled one. Of several usable declarations of one name the first
counts; the others are reported.
-/

namespace ChatRelay

/-- A declaration of a tool. -/
structure ToolDeclaration where
  name : Text
  description : Option Text
  enabled : Bool
  inputSchema : Json.Members
  deriving DecidableEq

/-- Which tools the configuration allows. -/
structure ToolChoice where
  enabled : List Text
  disabled : List Text

/-- The declarations of the tools that are sent, and what was logged while they were chosen. -/
structure ToolSet where
  chosen : List ToolDeclaration
  log : List Log.Entry

namespace ToolDeclaration

open Check

/-- Whether a unit may stand in the name of a tool. -/
def isNameUnit (u : CodeUnit) : Bool :=
  (97 ≤ u && u ≤ 122) || (65 ≤ u && u ≤ 90) || (48 ≤ u && u ≤ 57) || u == Text.unit '_' ||
    u == Text.unit '-'

/-- The longest name of a tool. -/
def maxNameLength : Nat := 64

/-- Whether a text is a name for a tool. -/
def isName (t : Text) : Bool := 1 ≤ t.length && t.length ≤ maxNameLength && t.all isNameUnit

/-- The complaint about a name. -/
def nameRule : Text := "Tool names may only use letters, digits, '_' and '-'"

/-- A name. The empty one has two issues. -/
def toolName : Check Text Yaml.Value := fun path found =>
  let c := nonEmptyString path found
  match c.value with
  | some t => ⟨some t, c.issues ++ if isName t then [] else [⟨path, .unmatched nameRule⟩]⟩
  | none => c

/-- The schema of a tool that declares none: an object without properties. -/
def defaultSchema : Json.Members :=
  [("type", .str "object"), ("properties", .obj [])]

/-- A declaration. -/
def check : Check ToolDeclaration Yaml.Value := object fun path ms =>
  (fun name description enabled schema =>
      ToolDeclaration.mk name description (enabled.getD true)
        ((schema.map Yaml.Value.membersToJson).getD defaultSchema))
    <$> field toolName path ms "name"
    <*> field (optional string) path ms "description"
    <*> field (optional boolean) path ms "enabled"
    <*> field (optional record) path ms "input_schema"

/-- The declarations of a file. -/
def checkFile : Check (List ToolDeclaration) Yaml.Value := object fun path ms =>
  (fun declarations => declarations.getD []) <$> field (optional (array check)) path ms "tools"

/-- The tool that is declared; an empty description counts as none. -/
def toTool (d : ToolDeclaration) : Tool :=
  .define d.name (.obj d.inputSchema) (d.description.bind nonEmpty?)

end ToolDeclaration

/-- Whether a declaration may be used. -/
def ToolChoice.allows (choice : ToolChoice) (d : ToolDeclaration) : Bool :=
  d.enabled && (choice.enabled.isEmpty || choice.enabled.contains d.name) &&
    !choice.disabled.contains d.name

namespace ToolSet

/-- The complaint about an alias that leads nowhere. -/
def unresolvedAlias (name : Text) : Text :=
  "Unresolved alias (the anchor must be set before the alias): " ++ name

/-- The failure to read a file that is not YAML, or whose text has no value. -/
def readFailure : Yaml.Error → Failure
  | .malformed => .foreign "YAMLParseError" "The tools file is not YAML"
  | .unresolvedAlias name => .foreign "ReferenceError" (unresolvedAlias name)
  | .excessiveAliases =>
    .foreign "ReferenceError" "Excessive alias count indicates a resource exhaustion attack"
  | .endless => .foreign "RangeError" "Maximum call stack size exceeded"
  | .mergedNoMap => .error "Merge sources must be maps or map aliases"
  | .repeatedKey => .error "Ordered maps must not include duplicate keys"
  | .unwritable name =>
    .error ("Anchor must not contain whitespace or control characters: " ++ Json.quote name)
  | .unresolvedInKey name => .error (unresolvedAlias name)
  | .keyWithoutText => .kindFailure "Cannot convert a key to text"

/-- The declarations in the text of a file; a file that says null has none. -/
def declarations (text : Text) : Except Failure (List ToolDeclaration) :=
  match Yaml.parse text with
  | .error e => .error (readFailure e)
  | .ok value =>
    let value := match value with
      | .null => .obj []
      | value => value
    match (ToolDeclaration.checkFile [] (some value)).toExcept with
    | .ok ds => .ok ds
    | .error issues => .error (.invalid issues)

/-- Keeps the first of the declarations of each name that is not yet seen; the second result are
the names of the others. -/
def distinct (seen : List Text) : List ToolDeclaration → List ToolDeclaration × List Text
  | [] => ([], [])
  | d :: ds =>
    if seen.contains d.name then
      let (first, repeated) := distinct seen ds
      (first, d.name :: repeated)
    else
      let (first, repeated) := distinct (d.name :: seen) ds
      (d :: first, repeated)

/-- The names of tools as JSON. -/
def names (ds : List ToolDeclaration) : Json := .arr (ds.map fun d => .str d.name)

/-- The tools as they are sent. -/
def tools (set : ToolSet) : List Tool := set.chosen.map ToolDeclaration.toTool

/-- The tools of a file at a path. -/
def choose (path : Text) (choice : ToolChoice) (ds : List ToolDeclaration) : ToolSet :=
  let (first, repeated) := distinct [] (ds.filter choice.allows)
  ⟨first,
    repeated.map (fun name =>
      .warn "Duplicate tool declaration, keeping the first one" [("name", some (.str name))]) ++
      [.debug "Loaded tools config"
        [("sourcePath", some (.str path)), ("enabledTools", some (names first))]]⟩

/-- The tools of the file at a path, which may not exist. -/
def load (path : Text) (file : Option Text) (choice : ToolChoice) : Except Failure ToolSet :=
  match file with
  | none =>
    .ok ⟨[], [.warn "Tools config file does not exist, requests carry no tools"
      [("sourcePath", some (.str path))]]⟩
  | some text => (declarations text).map (choose path choice)

end ToolSet

end ChatRelay
