import ChatRelay.Yaml.Piece

/-!
# Lexemes of YAML

A lexeme is a piece of a text with its kind, its place, and the indentation at which it stands.
Indentation counts the spaces at the beginning of a line, and the indicators there with the white
space behind them; a line break or the end of a block scalar sets it back, and behind a byte order mark
nothing counts. A piece that looks like
nothing has no kind, and a text with such a piece is not YAML.
-/

namespace ChatRelay.Yaml

open Text (unit)

/-- What a piece of a text is. -/
inductive LexemeKind where
  | byteOrderMark
  | documentMark
  | endMark
  | directive
  | space
  | comment
  | lineBreak
  | anchor
  | tag
  | entryMark
  | keyMark
  | valueMark
  | comma
  | mapOpen
  | mapClose
  | listOpen
  | listClose
  | alias
  | plain
  | singleQuoted
  | doubleQuoted
  | blockHeader
  | blockText
  | content
  | broken
  deriving DecidableEq, Repr

/-- A piece of a text at its place. -/
structure Lexeme where
  kind : LexemeKind
  offset : Nat
  indent : Nat
  text : Text
  deriving DecidableEq, Repr

/-- The pieces that are told by their whole text. -/
def fixedKinds : List (Text × LexemeKind) :=
  [([0xFEFF], .byteOrderMark), ("---", .documentMark), ("...", .endMark), ("\n", .lineBreak),
    ("\r\n", .lineBreak), ("-", .entryMark), ("?", .keyMark), (":", .valueMark), (",", .comma),
    ("\x7b", .mapOpen), ("\x7d", .mapClose), ("[", .listOpen), ("]", .listClose)]

/-- The pieces that are told by their first character. -/
def leadingKinds : List (CodeUnit × LexemeKind) :=
  [(unit ' ', .space), (unit '\t', .space), (unit '#', .comment), (unit '%', .directive),
    (unit '*', .alias), (unit '&', .anchor), (unit '!', .tag), (unit '\'', .singleQuoted),
    (unit '"', .doubleQuoted), (unit '|', .blockHeader), (unit '>', .blockHeader)]

/-- The kind of a piece, if it looks like something. -/
def Piece.kind? : Piece → Option LexemeKind
  | .content => some .content
  | .broken => some .broken
  | .plain _ => some .plain
  | .block _ => some .blockText
  | .other t =>
    match fixedKinds.lookup t with
    | some kind => some kind
    | none => t.head?.bind fun u => leadingKinds.lookup u

namespace Lexeme

/-- The place behind a lexeme. -/
def stop (x : Lexeme) : Nat := x.offset + x.text.length

/-- Whether a lexeme is white space, a comment or a line break. -/
def isSilent (x : Lexeme) : Bool :=
  x.kind == .space || x.kind == .comment || x.kind == .lineBreak

/-- Whether a list of lexemes has one of some kind. -/
def anyOf (kind : LexemeKind) (xs : List Lexeme) : Bool := xs.any (·.kind == kind)

/-- The text behind the first character: the words of a comment, the name of an anchor. -/
def said (x : Lexeme) : Text := x.text.drop 1

/-- Where the next piece stands. -/
structure Position where
  offset : Nat
  indent : Nat
  atLineStart : Bool

/-- The beginning of a text. -/
def Position.start : Position := ⟨0, 0, true⟩

/-- The position behind a piece. -/
def Position.next (p : Position) (kind : LexemeKind) (t : Text) : Position :=
  let offset := p.offset + t.length
  match kind with
  | .content => p
  | .broken => p
  | .lineBreak => ⟨offset, 0, true⟩
  | .blockText => ⟨offset, 0, true⟩
  | .space =>
    ⟨offset, if p.atLineStart && t.head? == some 32 then p.indent + t.length else p.indent,
      p.atLineStart⟩
  | .entryMark | .keyMark | .valueMark =>
    ⟨offset, if p.atLineStart then p.indent + t.length else p.indent, p.atLineStart⟩
  | _ => ⟨offset, p.indent, false⟩

/-- The lexemes of pieces from some position on. -/
def ofPieces? (p : Position) : List Piece → Option (List Lexeme)
  | [] => some []
  | piece :: pieces =>
    match piece.kind? with
    | none => none
    | some kind =>
      (ofPieces? (p.next kind piece.written) pieces).map
        (⟨kind, p.offset, p.indent, piece.written⟩ :: ·)

end Lexeme

/-- The lexemes of a text. -/
def lexemes? (t : Text) : Option (List Lexeme) := Lexeme.ofPieces? .start (pieces t)

end ChatRelay.Yaml
