import ChatRelay.Text.Basic

/-!
# File paths

A path is resolved against a directory by putting the directory in front, unless the path is
absolute, and walking its components: empty components and `.` stay where they are, `..` goes up
and never above the root. The result is absolute and has no such component left.
-/

namespace ChatRelay.Path

/-- The separator of components. -/
def separator : CodeUnit := Text.unit '/'

/-- Whether a path starts at the root. -/
def isAbsolute (path : Text) : Bool := path.head? = some separator

/-- One step of a walk; the components are kept in reverse. -/
def walk (above : List Text) (component : Text) : List Text :=
  if component = [] ∨ component = ("." : Text) then above
  else if component = (".." : Text) then above.tail
  else component :: above

/-- The absolute path without redundant components. -/
def normalize (path : Text) : Text :=
  let components := ((Text.splitOn separator path).foldl walk []).reverse
  separator :: Text.joinWith [separator] components

/-- A path as seen from a directory. -/
def resolve (directory path : Text) : Text :=
  if isAbsolute path then normalize path else normalize (directory ++ [separator] ++ path)

end ChatRelay.Path
