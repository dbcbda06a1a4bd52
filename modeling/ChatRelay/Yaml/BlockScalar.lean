import ChatRelay.Yaml.Folding
import ChatRelay.Yaml.Outline

/-!
# Block scalars

A block scalar has a header and the lines that are indented enough. The indentation of its content is
given in the header, or is that of its first line that is not empty. In a literal scalar the line
breaks stand for themselves. In a folded one a single line break between two lines counts as a space;
lines that are indented more, or begin with a tab, keep the line breaks around them. The header also
says what becomes of the line breaks at the end: one is kept, or none, or all.
-/

namespace ChatRelay.Yaml

open Text (unit)

/-- What becomes of the line breaks at the end of a block scalar. -/
inductive Chomping where
  | clip
  | strip
  | keep
  deriving DecidableEq, Repr

/-- What the header of a block scalar says: whether lines are folded, how much the content is
indented more than what surrounds it (zero if that is not said), and what becomes of the end. -/
structure BlockHeader where
  folded : Bool
  indent : Nat
  chomping : Chomping
  comment : Text
  length : Nat
  deriving DecidableEq, Repr

namespace BlockHeader

/-- The indicators behind the first character of a header. Each may stand there once. -/
def indicators? (indent : Nat) (chomping : Option Chomping) : Text → Option (Nat × Chomping)
  | [] => some (indent, chomping.getD .clip)
  | u :: r =>
    if chomping.isNone && u == unit '-' then indicators? indent (some .strip) r
    else if chomping.isNone && u == unit '+' then indicators? indent (some .keep) r
    else
      match (Text.digit? u).filter (0 < ·) with
      | some n => if indent = 0 then indicators? n chomping r else none
      | none => none

/-- The header that some lexemes are. -/
def of? : List Lexeme → Option BlockHeader
  | [] => none
  | head :: behind =>
    match indicators? 0 none head.said, comment? false [] behind with
    | some (indent, chomping), some comment =>
      some ⟨head.text.head? == some (unit '>'), indent, chomping, comment,
        (head.text ++ behind.flatMap (·.text)).length⟩
    | _, _ => none
where
  /-- The last comment behind a header. -/
  comment? (spaced : Bool) (comment : Text) : List Lexeme → Option Text
    | [] => some comment
    | x :: xs =>
      match x.kind with
      | .space => comment? true comment xs
      | .lineBreak => comment? spaced comment xs
      | .comment => if spaced then comment? spaced x.said xs else none
      | _ => none

end BlockHeader

/-- A line of a block scalar: how many spaces begin it, and what follows. -/
structure BlockLine where
  indent : Nat
  content : Text
  deriving DecidableEq, Repr

namespace BlockLine

/-- A line as it is written. -/
def of (line : Text) : BlockLine :=
  let indent := (line.takeWhile (· = 32)).length
  ⟨indent, line.drop indent⟩

/-- Whether there is nothing but spaces. -/
def isEmpty (line : BlockLine) : Bool := (withoutReturn line.content).isEmpty

/-- The spaces beyond some indentation. -/
def beyond (line : BlockLine) (indent : Nat) : Text := List.replicate (line.indent - indent) 32

end BlockLine

/-- The state of folding: what has been written, what separates it from the next line, and whether
the last line was indented more. -/
structure BlockFolding where
  written : Text := []
  separator : Text := []
  indented : Bool := false

/-- Adds a line that is folded. -/
def BlockFolding.add (indent : Nat) (f : BlockFolding) (line : BlockLine) : BlockFolding :=
  let content := withoutReturn line.content
  if indent < line.indent || content.head? == some 9 then
    let separator : Text :=
      if f.separator = [32] then [lineFeed]
      else if !f.indented && f.separator = [lineFeed] then [lineFeed, lineFeed]
      else f.separator
    ⟨f.written ++ separator ++ line.beyond indent ++ content, [lineFeed], true⟩
  else if content.isEmpty then
    if f.separator = [lineFeed] then { f with written := f.written ++ [lineFeed] }
    else { f with separator := [lineFeed] }
  else ⟨f.written ++ f.separator ++ content, [32], false⟩

/-- The value of a block scalar with some header whose text is not empty: `outer` is the indentation
around it. A scalar within something has to be indented. -/
def blockLinesText? (header : BlockHeader) (outer : Nat) (atRoot : Bool) (lines : List BlockLine) :
    Option Text :=
  let trailing := (lines.reverse.takeWhile BlockLine.isEmpty).length
  let filled := lines.length - trailing
  let leading := lines.takeWhile BlockLine.isEmpty
  let first := lines.drop leading.length
  let least := outer + header.indent
  let deepest :=
    if header.indent = 0 then leading.foldl (fun n line => max n line.indent) least else least
  let own := (first.head?.map (·.indent)).getD 0
  let indent := if header.indent = 0 then own else deepest
  let behind := lines.drop filled
  let kept := behind.length - (behind.reverse.takeWhile fun line => line.indent ≤ indent).length
  let body := (lines.take (filled + kept)).drop leading.length
  let rest := lines.drop (filled + kept)
  if own < deepest || (indent = 0 && !atRoot) ||
      body.any (fun line => !line.isEmpty && line.indent < indent) then none
  else
    let start := leading.flatMap fun line => line.beyond indent ++ [lineFeed]
    let written : Text :=
      if header.folded then (body.foldl (BlockFolding.add indent) { written := start }).written
      else
        start ++ Text.joinWith [lineFeed]
          (body.map fun line => line.beyond indent ++ withoutReturn line.content)
    some <|
      match header.chomping with
      | .strip => written
      | .clip => written ++ [lineFeed]
      | .keep =>
        let all := written ++ rest.flatMap fun line => lineFeed :: line.beyond indent
        if all.getLast? = some lineFeed then all else all ++ [lineFeed]

/-- The value of a block scalar. Of one without content all line breaks are kept if that is said, and
nothing else. -/
def blockText? (header : BlockHeader) (outer : Nat) (atRoot : Bool) (text : Text) : Option Text :=
  let lines := if text.isEmpty then [] else (linesOf text).map BlockLine.of
  if lines.all BlockLine.isEmpty then
    some (if header.chomping = .keep && !lines.isEmpty then
      List.replicate (max 1 (lines.length - 1)) lineFeed else [])
  else blockLinesText? header outer atRoot lines

end ChatRelay.Yaml
