import ChatRelay.Number.Decimal
import ChatRelay.Yaml.Piece

/-!
# Scalars over several lines

A scalar in quotes, or a plain one, may run over several lines. Line breaks are then folded: a
single one counts as a space, and of several the first does not count. White space at both sides of
a break is no part of the scalar. In double quotes an escape stands for one code point, and an
escaped line break for nothing.
-/

namespace ChatRelay.Yaml

open Text (unit)

/-- The text without blanks at its beginning. -/
def trimBlanksStart (t : Text) : Text := t.dropWhile isBlank

/-- The text without blanks at its end. -/
def trimBlanksEnd (t : Text) : Text := (t.reverse.dropWhile isBlank).reverse

/-- A line without the carriage return at its end. -/
def withoutReturn (line : Text) : Text :=
  if line.getLast? = some carriageReturn then line.dropLast else line

/-- The lines of a text. -/
def linesOf (t : Text) : List Text := Text.splitOn lineFeed t

/-- What a run of line breaks folds to, given how many empty lines it encloses. -/
def fold (emptyLines : Nat) : Text :=
  if emptyLines = 0 then [32] else List.replicate emptyLines lineFeed

/-- The text of trimmed lines, of which some may be empty. -/
def joinFolded (emptyLines : Nat) : List Text → Text
  | [] => []
  | [last] => fold emptyLines ++ last
  | line :: next :: lines =>
    if line.isEmpty then joinFolded (emptyLines + 1) (next :: lines)
    else fold emptyLines ++ line ++ joinFolded 0 (next :: lines)

/-- The text of the lines of a scalar. Blanks at the beginning of the first line and at the end of
the last one are kept. -/
def foldLines (t : Text) : Text :=
  match linesOf t with
  | [] => []
  | [only] => only
  | first :: next :: lines =>
    let rest := next :: lines
    let inner := rest.dropLast.map fun line =>
      trimBlanksStart (trimBlanksEnd (withoutReturn line))
    let last := (rest.getLast?.map trimBlanksStart).getD []
    trimBlanksEnd (withoutReturn first) ++ joinFolded 0 (inner ++ [last])

/-! ## Plain scalars -/

/-- The characters that no plain scalar begins with. -/
def isReserved (u : CodeUnit) : Bool := ("\t,%|>@`" : Text).contains u

/-- The value of a plain scalar as it is written. -/
def plainText? (t : Text) : Option Text :=
  if (t.head?.map isReserved).getD false then none else some (foldLines t)

/-! ## Quotes -/

/-- What stands between the first character and a given last one. -/
def between? (quote : Char) (t : Text) : Option Text :=
  if 1 < t.length && t.getLast? = some (unit quote) then some (t.drop 1).dropLast else none

/-- A text in which every doubled quote is a single one. -/
def undouble : Text → Text
  | u :: v :: r =>
    if u = unit '\'' ∧ v = unit '\'' then u :: undouble r else u :: undouble (v :: r)
  | t => t

/-- The value of a scalar in single quotes, as it is written. -/
def singleQuotedText? (t : Text) : Option Text :=
  (between? '\'' t).map fun content => undouble (foldLines content)

/-- The code point that a one-letter escape stands for. -/
def escapedPoint? (u : CodeUnit) : Option Nat :=
  ([('0', 0x00), ('a', 0x07), ('b', 0x08), ('e', 0x1B), ('f', 0x0C), ('n', 0x0A), ('r', 0x0D),
    ('t', 0x09), ('v', 0x0B), ('N', 0x85), ('_', 0xA0), ('L', 0x2028), ('P', 0x2029), (' ', 0x20),
    ('"', 0x22), ('/', 0x2F), ('\\', 0x5C), ('\t', 0x09)].map
      fun (c, point) => (unit c, point)).lookup u

/-- How many hexadecimal digits follow the letter of an escape. -/
def escapeLength? (u : CodeUnit) : Option Nat :=
  [(unit 'x', 2), (unit 'u', 4), (unit 'U', 8)].lookup u

/-- The code point of an escape with the given digits. -/
def hexPoint? (digits : Text) : Option Nat :=
  (Number.digitRun? Text.hexDigit? 16 digits).filter (· ≤ 0x10FFFF)

/-- Whether a text begins with a line break, and what follows it. -/
def afterBreak? : Text → Option Text
  | [] => none
  | [u] => if u = lineFeed then some [] else none
  | u :: v :: r =>
    if u = lineFeed then some (v :: r)
    else if u = carriageReturn ∧ v = lineFeed then some r
    else none

/-- The line breaks and blanks at the beginning of a text: how many line breaks there are, and what
follows. -/
def skipBreaks : Nat → Text → Nat × Text
  | 0, t => (0, t)
  | fuel + 1, t =>
    match afterBreak? t with
    | some r => let (n, rest) := skipBreaks fuel r; (n + 1, rest)
    | none =>
      match t with
      | [] => (0, [])
      | u :: r => if isBlank u then skipBreaks fuel r else (0, u :: r)

/-- The value of what stands in double quotes; none if an escape is wrong. -/
def unescape? : Nat → Text → Option Text
  | 0, _ => none
  | _, [] => some []
  | fuel + 1, u :: r =>
    if u = unit '\\' then
      match afterBreak? r, r with
      | some behind, _ => unescape? fuel (trimBlanksStart behind)
      | none, [] => none
      | none, v :: r =>
        match escapedPoint? v, escapeLength? v with
        | some point, _ => (Text.ofPoint point ++ ·) <$> unescape? fuel r
        | none, some length =>
          if (r.take length).length < length then none
          else
            match hexPoint? (r.take length), unescape? fuel (r.drop length) with
            | some point, some rest => some (Text.ofPoint point ++ rest)
            | _, _ => none
        | none, none => none
    else if isBlank u then
      let blanks := (u :: r).takeWhile isBlank
      let rest := (u :: r).drop blanks.length
      if (afterBreak? rest).isSome then unescape? fuel rest
      else (blanks ++ ·) <$> unescape? fuel rest
    else
      match afterBreak? (u :: r) with
      | some behind =>
        let (more, rest) := skipBreaks (behind.length + 1) behind
        (fold more ++ ·) <$> unescape? fuel rest
      | none => (u :: ·) <$> unescape? fuel r

/-- The value of a scalar in double quotes, as it is written. -/
def doubleQuotedText? (t : Text) : Option Text :=
  (between? '"' t).bind fun content => unescape? (content.length + 1) content

end ChatRelay.Yaml
