import ChatRelay.Text.Percent
import ChatRelay.Url

/-!
# Targets of requests

The target of a request is a URL as seen from the root of the service: a path, or an address that
names a host, which then does not matter. `path?` resolves it to a path in which no `.` and no `..`
is left; a target that names an impossible host has none. `place?` is the path as routes are looked
up by: escapes stand for what they escape, except those of characters that have a meaning in URLs,
which stay as they are. A path with an escape that is none has no place.
-/

namespace ChatRelay.Url

open Text (unit)

/-! ## The path of a target -/

/-- The two ways to write a dot in a path. -/
def dots : List Text := [".", "%2e"]

/-- Whether a segment of a path means the place where it stands. -/
def isHere (segment : Text) : Bool := dots.contains segment.toLowerAscii

/-- Whether a segment of a path means the place above. -/
def isAbove (segment : Text) : Bool :=
  (dots.flatMap fun a => dots.map fun b => a ++ b).contains segment.toLowerAscii

/-- A walk along segments; what has been walked is kept in reverse. A last segment that goes nowhere
leaves an empty one. -/
def walkSegments (walked : List Text) : List Text → List Text
  | [] => walked.reverse
  | [segment] =>
    if isAbove segment then ([] :: walked.tail).reverse
    else if isHere segment then ([] :: walked).reverse
    else (segment :: walked).reverse
  | segment :: next :: rest =>
    if isAbove segment then walkSegments walked.tail (next :: rest)
    else if isHere segment then walkSegments walked (next :: rest)
    else walkSegments (segment :: walked) (next :: rest)

/-- The path that a text spells; a first slash makes no difference. -/
def pathOf (special : Bool) (t : Text) : Text :=
  let t : Text := if special then t.map fun u => if isSlash u then unit '/' else u else t
  let segments := Text.splitOn (unit '/') ((Text.after? "/" t).getD t)
  (walkSegments [] segments).flatMap fun s => unit '/' :: s

/-- The path behind a host. -/
def pathBehindHost? (special : Bool) (t : Text) : Option Text :=
  if isAuthority special t then
    let rest := t.dropWhile fun u => !endsAuthority special u
    some (if rest.isEmpty && !special then [] else pathOf special rest)
  else none

/-- The path of a target with a scheme. Behind the scheme of the service itself a target without
slashes is a path like any other. -/
def pathUnderScheme? (scheme rest : Text) : Option Text :=
  if scheme = ("file" : Text) then
    if isFile rest then
      some (pathOf true (if (rest.take 2).all isSlash && 2 ≤ rest.length then
        (rest.drop 2).dropWhile fun u => !endsAuthority true u else rest))
    else none
  else if webSchemes.contains scheme then
    if scheme = ("http" : Text) && !((rest.take 2).all isSlash && 2 ≤ rest.length) then
      some (pathOf true rest)
    else pathBehindHost? true (rest.dropWhile isSlash)
  else
    match Text.after? "//" rest with
    | some authority => pathBehindHost? false authority
    | none => some (if rest.head? = some (unit '/') then pathOf false rest else rest)

/-- The path of a target. Two slashes at its very beginning are part of the path; behind white space
they begin a host. -/
def path? (target : Text) : Option Text :=
  if (Text.after? "//" target).isSome then some (pathOf true (unhooked (cleaned target)))
  else
    let t := unhooked (cleaned target)
    match scheme? t with
    | some (scheme, rest) => pathUnderScheme? scheme rest
    | none =>
      if (t.take 2).all isSlash && 2 ≤ t.length then pathBehindHost? true (t.dropWhile isSlash)
      else some (pathOf true t)
where
  /-- A target without its query and its fragment. -/
  unhooked (t : Text) : Text := t.takeWhile fun u => u ≠ unit '?' && u ≠ unit '#'

/-! ## The place of a path -/

/-- The characters whose escapes stay: they have a meaning of their own in URLs. -/
def meaningful : Text := "#$&+,/:;=?@%"

/-- The place that a path names. -/
def place? (path : Text) : Option Text := Percent.unescape? meaningful path

end ChatRelay.Url
