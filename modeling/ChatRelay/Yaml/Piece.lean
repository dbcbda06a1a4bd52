import ChatRelay.Text.Basic

/-!
# Pieces of a YAML text

The first reading of a text cuts it into pieces: white space, line breaks, comments, indicators,
properties and scalars, each as it is written. Nothing is lost: the pieces of a text make up the
text (`Piece.written`). Where a piece ends depends on what surrounds it, so the reader knows the
indentation of the line, how far a scalar has to be indented to go on, and how deep in brackets it
is. It never fails; what does not fit is cut as well as can be and found to be wrong later.

The reader is a `Scan`: the text, a place in it, and what it has cut so far. `Scan.mode` says what
is expected next.
-/

namespace ChatRelay.Yaml

open Text (unit)

/-! ## Characters -/

/-- A line feed. -/
def lineFeed : CodeUnit := 10

/-- A carriage return, which belongs to the line break if a line feed follows. -/
def carriageReturn : CodeUnit := 13

/-- A space or a tab. -/
def isBlank (u : CodeUnit) : Bool := u == 32 || u == 9

/-- White space within and between lines. -/
def isSpace (u : CodeUnit) : Bool := isBlank u || u == lineFeed || u == carriageReturn

/-- A unit with a meaning of its own inside of brackets. -/
def isFlowIndicator (u : CodeUnit) : Bool := (",[]\x7b\x7d" : Text).contains u

/-- A unit that may stand in the name of an anchor. -/
def isAnchorUnit (u : CodeUnit) : Bool := !isSpace u && !isFlowIndicator u

/-- A unit that may stand in a tag. -/
def isTagUnit (u : CodeUnit) : Bool :=
  (Text.digit? u).isSome || (97 ≤ u && u ≤ 122) || (65 ≤ u && u ≤ 90) ||
    ("-#;/?:@&=+$_.!~*'()" : Text).contains u

/-! ## Pieces -/

/-- A part of a text as it is written; of the contents of scalars that are not in quotes it is known
that they are, because they look like anything. `content` begins a document without a marker, and
`broken` ends brackets that are left open. -/
inductive Piece where
  | content
  | broken
  | plain (written : Text)
  | block (written : Text)
  | other (written : Text)
  deriving DecidableEq, Repr

/-- The part of the text that a piece is. -/
def Piece.written : Piece → Text
  | .content => []
  | .broken => []
  | .plain t => t
  | .block t => t
  | .other t => t

/-- What is expected next: something between documents, the beginning of something in a block, its
rest, or something in brackets. -/
inductive Mode where
  | outside
  | opening
  | inside
  | brackets
  deriving DecidableEq, Repr

/-- A reading of a text. A scalar goes on in the next line if that is indented by `needed` spaces;
`indent` is where the current entry begins; `afterKey` tells whether a colon in brackets is an
indicator even without white space behind it. -/
structure Scan where
  text : Array CodeUnit
  place : Nat := 0
  needed : Nat := 0
  indent : Nat := 0
  depth : Nat := 0
  afterKey : Bool := false
  pieces : List Piece := []
  mode : Mode := .outside

namespace Scan

/-! ## Looking -/

/-- The unit that stands some units behind the place. -/
def ahead? (s : Scan) (n : Nat) : Option CodeUnit := s.text[s.place + n]?

/-- Whether a unit is white space or missing. -/
def isGap (u : Option CodeUnit) : Bool := (u.map isSpace).getD true

/-- Whether a given character stands at some place. -/
def hasAt (s : Scan) (i : Nat) (c : Char) : Bool := s.text[i]? == some (unit c)

/-- The first place from some place on whose unit does not fit. -/
def skip (text : Array CodeUnit) (fits : CodeUnit → Bool) (i : Nat) : Nat :=
  if h : i < text.size then if fits text[i] then skip text fits (i + 1) else i else i
termination_by text.size - i

/-- The first line feed from some place on, or the end. -/
def breakFrom (s : Scan) (i : Nat) : Nat := skip s.text (· != lineFeed) i

/-- The end of the current line, without its line break. -/
def lineEnd (s : Scan) : Nat :=
  let i := s.breakFrom s.place
  if i < s.text.size && s.place < i && s.text[i - 1]? == some carriageReturn then i - 1 else i

/-- The next unit of the current line. -/
def inLine? (s : Scan) : Option CodeUnit := if s.place < s.lineEnd then s.ahead? 0 else none

/-- Whether three given characters with a gap behind them stand at some place. -/
def isMarkerAt (s : Scan) (i : Nat) (c : Char) : Bool :=
  s.hasAt i c && s.hasAt (i + 1) c && s.hasAt (i + 2) c && isGap s.text[i + 3]?

/-- Where a scalar goes on in the line that begins at some place, if it does: an empty line and a
line that is indented enough continue it, and outside of everything each line but a marker. -/
def continued? (s : Scan) (i : Nat) : Option Nat :=
  if 0 < s.needed then
    let j := skip s.text (· == 32) i
    if s.text[j]? == some carriageReturn && s.text[j + 1]? == some lineFeed then some (j + 1)
    else if s.text[j]? == some lineFeed || s.needed ≤ j - i then some j
    else none
  else if s.isMarkerAt i '-' || s.isMarkerAt i '.' then none
  else some i

/-! ## Cutting -/

/-- Cuts up to a place; nothing if that is not ahead. -/
def upTo (s : Scan) (i : Nat) (piece : Text → Piece := .other) : Scan :=
  let stop := min i s.text.size
  if s.place < stop then
    { s with
      place := stop
      pieces := piece (s.text.extract s.place stop).toList :: s.pieces }
  else s

/-- Cuts the text of a scalar, which may be empty. -/
def scalarUpTo (s : Scan) (i : Nat) (piece : Text → Piece) : Scan :=
  if s.place < min i s.text.size then s.upTo i piece
  else { s with pieces := piece [] :: s.pieces }

/-- Cuts some units. -/
def take (s : Scan) (n : Nat) : Scan := s.upTo (s.place + n)

/-- Cuts the units that fit. -/
def takeWhile (s : Scan) (fits : CodeUnit → Bool) : Scan := s.upTo (skip s.text fits s.place)

/-- Cuts spaces and tabs. -/
def blanks (s : Scan) : Scan := s.takeWhile isBlank

/-- Cuts spaces. -/
def spaces (s : Scan) : Scan := s.takeWhile (· == 32)

/-- Cuts a line break. -/
def lineBreak (s : Scan) : Scan :=
  if s.ahead? 0 == some lineFeed then s.take 1
  else if s.ahead? 0 == some carriageReturn && s.ahead? 1 == some lineFeed then s.take 2
  else s

/-- Cuts the rest of the line. -/
def lineRest (s : Scan) : Scan := s.upTo s.lineEnd

/-- Adds a piece that is not written. -/
def mark (s : Scan) (piece : Piece) : Scan := { s with pieces := piece :: s.pieces }

/-! ## Properties and indicators -/

/-- The end of the units of a tag; an escape is a percent sign and two digits. -/
def tagEnd (text : Array CodeUnit) (i : Nat) : Nat :=
  if h : i < text.size then
    if isTagUnit text[i] then tagEnd text (i + 1)
    else if text[i] == unit '%' && (text[i + 1]?.bind Text.hexDigit?).isSome &&
        (text[i + 2]?.bind Text.hexDigit?).isSome then tagEnd text (i + 3)
    else i
  else i
termination_by text.size - i

/-- Cuts a tag. -/
def tag (s : Scan) : Scan :=
  if s.ahead? 1 == some (unit '<') then
    let stop := skip s.text (fun u => !isSpace u && u != unit '>') (s.place + 2)
    s.upTo (if s.hasAt stop '>' then stop + 1 else stop)
  else s.upTo (tagEnd s.text (s.place + 1))

/-- Cuts an anchor or an alias, which begin with a character of their own. -/
def named (s : Scan) : Scan := s.takeWhile isAnchorUnit

/-- Whether the next unit is an indicator of an entry, of a key or of a value. -/
def atIndicator (s : Scan) : Bool :=
  (s.hasAt s.place '-' || s.hasAt s.place '?' || s.hasAt s.place ':') &&
    (isGap (s.ahead? 1) || (0 < s.depth && ((s.ahead? 1).map isFlowIndicator).getD false))

/-- Cuts the properties and the indicators in front of something, with the blanks behind each. -/
def indicators : Nat → Scan → Scan
  | 0, s => s
  | fuel + 1, s =>
    if s.hasAt s.place '!' then indicators fuel s.tag.blanks
    else if s.hasAt s.place '&' then indicators fuel s.named.blanks
    else if s.atIndicator then
      let s :=
        if s.depth = 0 then { s with needed := s.indent + 1 } else { s with afterKey := false }
      indicators fuel (s.take 1).blanks
    else s

/-- Cuts all properties and indicators that stand here. -/
def allIndicators (s : Scan) : Scan := indicators (s.text.size - s.place) s

/-! ## Scalars -/

/-- The mode behind something that is complete. -/
def behind (s : Scan) : Scan := { s with mode := if 0 < s.depth then .brackets else .inside }

/-- The quote that ends a scalar in single quotes; one that is doubled does not. -/
def singleQuoteEnd? (text : Array CodeUnit) (i : Nat) : Option Nat :=
  if h : i < text.size then
    if text[i] == unit '\'' then
      if text[i + 1]? == some (unit '\'') then singleQuoteEnd? text (i + 2) else some i
    else singleQuoteEnd? text (i + 1)
  else none
termination_by text.size - i

/-- The quote that ends a scalar in double quotes; one behind a backslash does not. -/
def doubleQuoteEnd? (text : Array CodeUnit) (i : Nat) : Option Nat :=
  if h : i < text.size then
    if text[i] == unit '"' then some i
    else if text[i] == unit '\\' then doubleQuoteEnd? text (i + 2)
    else doubleQuoteEnd? text (i + 1)
  else none
termination_by text.size - i

/-- The first line break before a place behind which a scalar does not go on, looked for from some
place on. -/
def outdent? (s : Scan) (stop : Nat) : Nat → Nat → Option Nat
  | 0, _ => none
  | fuel + 1, i =>
    let found := s.breakFrom i
    if found < stop then
      match s.continued? (found + 1) with
      | none => some found
      | some j => outdent? s stop fuel j
    else none

/-- Cuts a scalar in quotes: up to its other quote, to the end if there is none, or to a line break
behind which it does not go on. -/
def quoted (s : Scan) : Scan :=
  let close? :=
    if s.hasAt s.place '"' then doubleQuoteEnd? s.text (s.place + 1)
    else singleQuoteEnd? s.text (s.place + 1)
  match close? with
  | none => (s.upTo s.text.size).behind
  | some close =>
    match s.outdent? close (s.text.size + 1) s.place with
    | none => (s.upTo (close + 1)).behind
    | some stop =>
      (s.upTo (if s.text[stop - 1]? == some carriageReturn then stop - 1 else stop)).behind

/-- The end of a plain scalar that has been read up to place `i`; `stop` is the end of what surely
belongs to it. A colon ends it before a gap, a hash behind one, and in brackets any of their
indicators does. -/
def plainEnd (s : Scan) : Nat → Nat → Nat → Nat
  | 0, _, stop => stop
  | fuel + 1, i, stop =>
    let inBrackets (u : Option CodeUnit) : Bool := 0 < s.depth && (u.map isFlowIndicator).getD false
    match s.text[i]? with
    | none => stop
    | some u =>
      let next := s.text[i + 1]?
      if u == unit ':' then
        if isGap next || inBrackets next then stop else plainEnd s fuel (i + 1) (i + 1)
      else if isSpace u then
        let paired := u == carriageReturn && next == some lineFeed
        let stop := if u == carriageReturn && !paired then i + 1 else stop
        let i := if paired then i + 1 else i
        let next := s.text[i + 1]?
        if next == some (unit '#') || inBrackets next then stop
        else if u == lineFeed || paired then
          match s.continued? (i + 1) with
          | none => stop
          | some j => plainEnd s fuel (max i (j - 2) + 1) stop
        else plainEnd s fuel (i + 1) stop
      else if inBrackets (some u) then stop
      else plainEnd s fuel (i + 1) (i + 1)

/-- Cuts a plain scalar. -/
def plain (s : Scan) : Scan :=
  (s.scalarUpTo (plainEnd s (s.text.size + 1) s.place s.place) .plain).behind

/-- The last line break before the content of a block scalar, and the indentation of its first line
that is not empty. -/
def leading (text : Array CodeUnit) (lastBreak indent i : Nat) : Nat × Nat :=
  if h : i < text.size then
    if text[i] == 32 then leading text lastBreak (indent + 1) (i + 1)
    else if text[i] == lineFeed then leading text i 0 (i + 1)
    else if text[i] == carriageReturn && text[i + 1]? == some lineFeed then
      leading text lastBreak indent (i + 1)
    else (lastBreak, indent)
  else (lastBreak, indent)
termination_by text.size - i

/-- The line break that ends a block scalar, or the end. -/
def blockEnd (s : Scan) : Nat → Nat → Nat
  | 0, lastBreak => lastBreak
  | fuel + 1, lastBreak =>
    match s.continued? (lastBreak + 1) with
    | none => lastBreak
    | some j =>
      let next := s.breakFrom j
      if next < s.text.size then blockEnd s fuel next else s.text.size

/-- The place of the last unit before a place that is no space, if there is one. -/
def backOver (s : Scan) : Nat → Option Nat
  | 0 => none
  | i + 1 => if s.text[i]? == some 32 then backOver s i else some i

/-- The end of a block scalar without the lines behind it that are empty and not indented more. -/
def chomped (s : Scan) (indent : Nat) : Nat → Nat → Nat
  | 0, lastBreak => lastBreak
  | fuel + 1, lastBreak =>
    let stop :=
      if 0 < lastBreak && s.text[lastBreak - 1]? == some carriageReturn then lastBreak - 1
      else lastBreak
    match s.backOver stop with
    | none => lastBreak
    | some i =>
      if s.text[i]? == some lineFeed && s.place ≤ i && stop < i + 2 + indent then
        chomped s indent fuel i
      else lastBreak

/-- Cuts the content of a block scalar behind its header, to which it belongs whether there are
trailing lines to be kept, and the indentation if it is given. Tabs behind the content are no
indentation and belong to it. -/
def blockContent (s : Scan) (keep : Bool) (given : Option Nat) : Scan :=
  let (lastBreak, indent) := leading s.text (s.place - 1) 0 s.place
  let enough := s.needed ≤ indent
  let s :=
    if enough then
      match given with
      | none => { s with needed := indent }
      | some n => { s with needed := n - 1 + (if s.needed = 0 then 1 else s.needed) }
    else s
  let stop := if enough then s.blockEnd (s.text.size + 1) lastBreak else lastBreak
  let next := skip s.text (· == 32) (stop + 1)
  let stop :=
    if s.text[next]? == some 9 then skip s.text isSpace next - 1
    else if keep then stop
    else s.chomped indent (s.text.size + 1) stop
  s.scalarUpTo (stop + 1) .block

/-- What the header of a block scalar says from some place on: whether trailing lines are kept, and
the last digit in it. -/
def blockHeader (s : Scan) : Nat → Nat → Bool × Option Nat → Bool × Option Nat
  | 0, _, said => said
  | fuel + 1, i, (keep, given) =>
    if s.hasAt i '+' then blockHeader s fuel (i + 1) (true, given)
    else if s.hasAt i '-' then blockHeader s fuel (i + 1) (keep, given)
    else
      match (s.text[i]?.bind Text.digit?).filter (0 < ·) with
      | some n => blockHeader s fuel (i + 1) (keep, some n)
      | none => (keep, given)

/-! ## Lines -/

/-- What begins at a place in a line: an indicator of a block, behind which another one may begin,
or something else. -/
def entryStart (s : Scan) : Scan :=
  if (s.hasAt s.place '-' || s.hasAt s.place '?' || s.hasAt s.place ':') && isGap (s.ahead? 1) then
    let next := (s.take 1).blanks
    { next with needed := s.indent + 1, indent := s.indent + (next.place - s.place), mode := .opening }
  else { s with mode := .inside }

/-- The beginning of a line: a marker, or the indentation and what begins behind it. -/
def lineStart (s : Scan) : Scan :=
  if s.isMarkerAt s.place '-' then { s.take 3 with indent := 0, needed := 0, mode := .inside }
  else if s.isMarkerAt s.place '.' then { s.take 3 with indent := 0, needed := 0, mode := .outside }
  else
    let next := s.spaces
    let indent := next.place - s.place
    let needed := if indent < s.needed && !isGap (next.ahead? 1) then indent else s.needed
    { next with indent := indent, needed := needed }.entryStart

/-- The beginning of a line up to a comment, which needs a blank in front. -/
def beforeComment (afterBlank : Bool) : Text → Text
  | [] => []
  | u :: r => if afterBlank && u == unit '#' then [] else u :: beforeComment (isBlank u) r

/-- Cuts a directive, and a comment behind it. -/
def directive (s : Scan) : Scan :=
  let said := beforeComment false (s.text.extract s.place s.lineEnd).toList
  (s.take (said.reverse.dropWhile isBlank).length).blanks.lineRest

/-- A line between documents: a directive, nothing, or the beginning of a document. -/
def outside (s : Scan) : Scan :=
  let s := if s.ahead? 0 == some 0xFEFF then s.take 1 else s
  if s.hasAt s.place '%' then s.directive
  else
    let next := s.blanks
    match next.inLine? with
    | none => next.lineBreak
    | some u =>
      if u == unit '#' then next.lineRest.lineBreak else (s.mark .content).lineStart

/-! ## Contents -/

/-- Cuts a block scalar from its header on. -/
def blockScalar (s : Scan) : Scan :=
  let (keep, given) := s.blockHeader (s.text.size - s.place) (s.place + 1) (false, none)
  let next := (s.takeWhile fun u => !isSpace u && u != unit '#').blanks.lineRest.lineBreak
  (next.blockContent keep given).lineStart

/-- Something in a block: what is left of a line. -/
def inside (s : Scan) : Scan :=
  let s := s.blanks.allIndicators
  match s.inLine? with
  | none => s.lineBreak.lineStart
  | some u =>
    if u == unit '#' then s.lineRest.lineBreak.lineStart
    else if u == unit '[' || u == unit '\x7b' then
      { s.take 1 with afterKey := false, depth := 1, mode := .brackets }
    else if u == unit ']' || u == unit '\x7d' then s.take 1
    else if u == unit '*' then s.named
    else if u == unit '"' || u == unit '\'' then s.quoted
    else if u == unit '|' || u == unit '>' then s.blockScalar
    else s.plain

/-- Cuts white space and line breaks in brackets; the result tells how the last line is indented, if
there was a line break. -/
def gaps : Nat → Option Nat → Scan → Scan × Option Nat
  | 0, indent, s => (s, indent)
  | fuel + 1, indent, s =>
    let broken := s.lineBreak
    if s.place < broken.place then
      let next := broken.spaces
      let indent := next.place - broken.place
      gaps fuel (some indent) { next with indent := indent }.blanks
    else
      let next := s.blanks
      if s.place < next.place then gaps fuel indent next else (s, indent)

/-- Cuts commas and the blanks behind each. -/
def commas : Nat → Scan → Scan
  | 0, s => s
  | fuel + 1, s =>
    if s.hasAt s.place ',' then commas fuel { (s.take 1).blanks with afterKey := false } else s

/-- Whether a new line ends the brackets although they are open: it is indented too little, other
than for a last closing bracket below the opening one, or it is a marker. -/
def leavesBrackets (s : Scan) (indent : Nat) : Bool :=
  let next := s.inLine?
  let closes := indent + 1 == s.needed && s.depth == 1 &&
    (next == some (unit ']') || next == some (unit '\x7d'))
  ((indent < s.needed && next != some (unit '#')) ||
    (indent == 0 && (s.isMarkerAt s.place '-' || s.isMarkerAt s.place '.'))) && !closes

/-- Something in brackets. -/
def brackets (s : Scan) : Scan :=
  let (s, indent) := gaps (s.text.size - s.place + 1) none s
  if (indent.map s.leavesBrackets).getD false then { s.mark .broken with depth := 0 }.lineStart
  else
    let s := (commas (s.text.size - s.place) s).allIndicators
    match s.inLine? with
    | none => s
    | some u =>
      if u == unit '#' then s.lineRest
      else if u == unit '[' || u == unit '\x7b' then
        { s.take 1 with afterKey := false, depth := s.depth + 1 }
      else if u == unit ']' || u == unit '\x7d' then
        { s.take 1 with afterKey := true, depth := s.depth - 1 }.behind
      else if u == unit '*' then s.named
      else if u == unit '"' || u == unit '\'' then { s with afterKey := true }.quoted
      else if u == unit ':' && s.afterKey then { (s.take 1).blanks with afterKey := false }
      else { s with afterKey := false }.plain

/-- One step of a reading. -/
def step (s : Scan) : Scan :=
  match s.mode with
  | .outside => s.outside
  | .opening => s.entryStart
  | .inside => s.inside
  | .brackets => s.brackets

/-- A reading to the end. Each character takes at most four steps. -/
def run : Nat → Scan → Scan
  | 0, s => s
  | fuel + 1, s => if s.place < s.text.size then run fuel s.step else s

end Scan

/-- The pieces of a text. -/
def pieces (t : Text) : List Piece :=
  (Scan.run (4 * t.length + 4) { text := t.toArray }).pieces.reverse

end ChatRelay.Yaml
