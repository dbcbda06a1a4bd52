import ChatRelay.Url.NameTable
import ChatRelay.Url.Punycode

/-!
# Names of hosts

A name of a host is a row of labels between dots. Before it is judged it takes its final form:
ASCII letters become small, characters that stand for others are written out, and a few are left out.
A label outside of ASCII must then be valid, and a label that begins with `xn--` must spell a valid
one in punycode. `asciiForm?` is the name as it is looked up, as far as it decides whether the name
can be one: it has the labels that are in ASCII, and `xn--` alone for the others.

Characters that stand for characters outside of ASCII stay as they are, because what is asked about
them has the same answer; and no composition takes place.
-/

namespace ChatRelay.Url.Domain

open Text (unit)

/-! ## The final form -/

/-- What a code point becomes in a name; none if no name may hold it. -/
def finalForm? (point : Nat) : Option (List Nat) :=
  if point < 0x80 then some [if 65 ≤ point && point ≤ 90 then point + 32 else point]
  else if 0x10FFFF < point || inRanges disallowedPoints point then none
  else if inRanges ignoredPoints point then some []
  else
    match asciiSpellings.find? (·.range.holds point) with
    | some ⟨range, [first]⟩ => some [first + (point - range.first)]
    | some spelling => some spelling.spelled
    | none => some [point]

/-- Whether a code point is part of names in their final form. -/
def isFinal (point : Nat) : Bool :=
  finalForm? point == some [point] && (point < 0x80 || !inRanges changedPoints point)

/-! ## Direction -/

/-- The direction in which a code point is written. -/
inductive Direction where
  | leftToRight
  | rightToLeft
  | arabicNumber
  | europeanNumber
  | weightless
  | undirected
  deriving DecidableEq, Repr

/-- The direction of a code point of a name in its final form. -/
def direction (point : Nat) : Direction :=
  if point < 0x80 then
    if 97 ≤ point && point ≤ 122 || 65 ≤ point && point ≤ 90 then .leftToRight
    else if 48 ≤ point && point ≤ 57 then .europeanNumber
    else .undirected
  else if inRanges rightToLeftLetters point then .rightToLeft
  else if inRanges arabicNumbers point then .arabicNumber
  else if inRanges europeanNumbers point then .europeanNumber
  else if inRanges weightlessPoints point then .weightless
  else if inRanges undirectedPoints point then .undirected
  else .leftToRight

/-- Whether the directions of a label make it hard to read: a label with right-to-left parts must be
of one direction but for numbers, and end in a letter or a number. -/
def areOrderly (label : List Direction) : Bool :=
  let body := (label.reverse.dropWhile (· == .weightless)).reverse
  if !label.any (fun d => d == .rightToLeft || d == .arabicNumber) then true
  else if label.head? = some .leftToRight then
    body.all (fun d => d != .rightToLeft && d != .arabicNumber) &&
      (body.getLast? == some .leftToRight || body.getLast? == some .europeanNumber)
  else
    body.all (· != .leftToRight) && !(body.contains .europeanNumber && body.contains .arabicNumber) &&
      (body.getLast? == some .rightToLeft || body.getLast? == some .arabicNumber ||
        body.getLast? == some .europeanNumber)

/-! ## Labels -/

/-- What the invisible joiners of a label say about it; none if there are no joiners. The first one
decides: behind a mark that takes the vowel away it is right, and the one that parts letters also
between letters that would join. -/
def joinersAnswer? (before : List Nat) : List Nat → Option Bool
  | [] => none
  | point :: r =>
    if point = 0x200C || point = 0x200D then
      if before.head?.any (inRanges viramaPoints) then some true
      else some (point == 0x200C && before.any (inRanges joinsOnward) && r.any (inRanges joinsBackward))
    else joinersAnswer? (point :: before) r

/-- Whether a label outside of ASCII can be one. A label whose joiners are right is not judged
further. -/
def isLabel (label : List Nat) : Bool :=
  match label with
  | [] => false
  | first :: _ =>
    !(label.take 4 == [120, 110, 45, 45]) && !label.contains 46 && !inRanges markPoints first &&
      (joinersAnswer? [] label).getD (areOrderly (label.map direction))

/-- The beginning of a label that is written in punycode. -/
def encodedMark : Text := "xn--"

/-- Whether what follows the mark of an encoded label spells a valid one. -/
def isEncodedLabel (t : Text) : Bool :=
  (Text.after? encodedMark t).isNone &&
    match Punycode.decode? t with
    | none => false
    | some label => label.any (0x80 ≤ ·) && label.all isFinal && isLabel label

/-- The label in ASCII, as far as it decides. -/
def asciiLabel? (label : List Nat) : Option Text :=
  if label.all (· < 0x80) then
    let t : Text := label.map (·.toUInt16)
    match Text.after? encodedMark t with
    | none => some t
    | some rest => if isEncodedLabel rest then some t else none
  else if isLabel label then some encodedMark
  else none

/-! ## Names -/

/-- The labels of a name, between its dots. -/
def labels : List Nat → List (List Nat)
  | [] => [[]]
  | point :: r =>
    if point = 46 then [] :: labels r
    else
      match labels r with
      | [] => [[point]]
      | label :: rest => (point :: label) :: rest

/-- The name in ASCII, as far as it decides; none if the text cannot be a name. -/
def asciiForm? (name : Text) : Option Text :=
  match name.points.mapM finalForm? with
  | none => none
  | some forms =>
    ((labels forms.flatten).mapM asciiLabel?).map (Text.joinWith [unit '.'])

end ChatRelay.Url.Domain
