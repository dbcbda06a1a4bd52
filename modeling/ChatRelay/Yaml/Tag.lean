import ChatRelay.Text.Percent
import ChatRelay.Yaml.Scalar

/-!
# Tags

A tag is written as a handle and a suffix, or in full between angle brackets. What a handle stands
for is said by the directives of the document. `tagName?` reads a tag, `tagText` writes it.
-/

namespace ChatRelay.Yaml

open Text (unit)

/-- What the handles of tags stand for. -/
abbrev Handles := List (Text × Text)

/-- The handles that every document has. -/
def defaultHandles : Handles := [("!!", standardTag)]

/-- Gives a handle a meaning; one that is known keeps its place. -/
def Handles.set (handles : Handles) (handle start : Text) : Handles :=
  if handles.any (·.1 == handle) then
    handles.map fun h => if h.1 = handle then (handle, start) else h
  else handles ++ [(handle, start)]

/-- The tag that only says that a scalar is a text. -/
def nonSpecificTag : Text := "!"

/-- The name of a tag that is written in full. Neither handle may stand there alone. -/
def verbatimName? (t : Text) : Option Text :=
  let name := t.dropLast
  if t.getLast? ≠ some (unit '>') ∨ name = ("!" : Text) ∨ name = ("!!" : Text) then none
  else some name

/-- The name of a tag as it is written. A handle that is not known is an error, apart from the
primary one, which then stands for itself. -/
def tagName? (handles : Handles) (t : Text) : Option Text :=
  if t = nonSpecificTag then some t
  else
    match Text.after? "!<" t with
    | some verbatim => verbatimName? verbatim
    | none =>
      let suffix := (t.reverse.takeWhile (· ≠ unit '!')).reverse
      let handle := t.take (t.length - suffix.length)
      if suffix.isEmpty then none
      else
        match (handles.lookup handle).bind nonEmpty? with
        | some start => (Percent.unescape? [] suffix).map (start ++ ·)
        | none => if handle = "!" then some t else none

/-- The characters of a suffix that are written as escapes. -/
def escapedInTag : List (CodeUnit × Text) :=
  [(unit '!', "%21"), (unit ',', "%2C"), (unit '[', "%5B"), (unit ']', "%5D"),
    (unit '\x7b', "%7B"), (unit '\x7d', "%7D")]

/-- The shortest way to write a tag: with the first handle that stands for its beginning. -/
def tagText (handles : Handles) (name : Text) : Text :=
  match handles.findSome? fun (handle, start) => (Text.after? start name).map fun r => (handle, r) with
  | some (handle, suffix) => handle ++ suffix.flatMap fun u => (escapedInTag.lookup u).getD [u]
  | none => if name.head? = some (unit '!') then name else "!<" ++ name ++ ">"

/-! ## Collections -/

/-- The kinds of collections that tags tell apart. -/
inductive CollectionTag where
  | set
  | orderedMap
  | pairs
  deriving DecidableEq, Repr

/-- The name of the tag of lists. -/
def listTag : Text := standardTag ++ "seq"

/-- The name of the tag of maps. -/
def mapTag : Text := standardTag ++ "map"

/-- What the tag of a list says about it. -/
def CollectionTag.ofList? (name : Text) : Option CollectionTag :=
  if name = standardTag ++ "omap" then some .orderedMap
  else if name = standardTag ++ "pairs" then some .pairs
  else none

/-- What the tag of a map says about it. -/
def CollectionTag.ofMap? (name : Text) : Option CollectionTag :=
  if name = standardTag ++ "set" then some .set else none

end ChatRelay.Yaml
