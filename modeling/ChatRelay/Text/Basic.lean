/-!
# Text as UTF-16 code units

Text reaches the relay as JSON strings, and a JSON escape may name any 16-bit unit, also half of a
surrogate pair. So a text is a list of code units, every operation counts in code units, and a
cut between the two halves of a pair is an ordinary cut: nothing is lost at such a place, because
`++` puts the halves together again.

`ofString` and `toString` convert at the edge of the program. `trim` removes the units for which
`isBlank` holds, the white space of the JSON world: Unicode's White_Space without U+0085 and with
the byte order mark U+FEFF.
-/

namespace ChatRelay

/-- One 16-bit unit of UTF-16. -/
abbrev CodeUnit := UInt16

/-- A sequence of UTF-16 code units, surrogates paired or not. -/
abbrev Text := List CodeUnit

namespace Text

/-- The one or two code units of a code point. -/
def ofPoint (point : Nat) : Text :=
  if point < 0x10000 then [point.toUInt16]
  else
    [(0xD800 + (point - 0x10000) / 0x400).toUInt16, (0xDC00 + (point - 0x10000) % 0x400).toUInt16]

/-- The code units of a string. -/
def ofString (s : String) : Text := s.toList.flatMap fun c => ofPoint c.toNat

instance : Coe String Text := ⟨ofString⟩

/-- The code unit of a character below U+10000. -/
def unit (c : Char) : CodeUnit := c.toNat.toUInt16

/-- The first half of a surrogate pair. -/
def isHighSurrogate (u : CodeUnit) : Bool := 0xD800 ≤ u && u ≤ 0xDBFF

/-- The second half of a surrogate pair. -/
def isLowSurrogate (u : CodeUnit) : Bool := 0xDC00 ≤ u && u ≤ 0xDFFF

/-- The code points of a text. A surrogate without its partner stands for itself. -/
def points : Text → List Nat
  | [] => []
  | [u] => [u.toNat]
  | u :: v :: r =>
    if isHighSurrogate u && isLowSurrogate v then
      (0x10000 + (u.toNat - 0xD800) * 0x400 + (v.toNat - 0xDC00)) :: points r
    else u.toNat :: points (v :: r)

/-- The character of a code point, U+FFFD where the point is a surrogate. -/
def charOfPoint (point : Nat) : Char :=
  if 0xD800 ≤ point && point ≤ 0xDFFF then Char.ofNat 0xFFFD else Char.ofNat point

/-- The string of a text; a surrogate without its partner becomes U+FFFD. -/
def toString (t : Text) : String := String.ofList (t.points.map charOfPoint)

/-! ## White space -/

/-- White space that `trim` removes: Unicode White_Space except U+0085, and U+FEFF. -/
def isBlank (u : CodeUnit) : Bool :=
  (9 ≤ u && u ≤ 13) || u == 32 || u == 0xA0 || u == 0x1680 || (0x2000 ≤ u && u ≤ 0x200A) ||
    u == 0x2028 || u == 0x2029 || u == 0x202F || u == 0x205F || u == 0x3000 || u == 0xFEFF

/-- The text without its leading white space. -/
def trimStart (t : Text) : Text := t.dropWhile isBlank

/-- The text without its trailing white space. -/
def trimEnd (t : Text) : Text := (t.reverse.dropWhile isBlank).reverse

/-- The text without leading and trailing white space. -/
def trim (t : Text) : Text := trimEnd (trimStart t)

/-- The trimmed text, if anything is left of it. -/
def trimmed? (t : Text) : Option Text :=
  match trim t with
  | [] => none
  | u :: r => some (u :: r)

/-! ## Cutting and joining -/

/-- The rest of a text after a given beginning. -/
def after? (start : Text) (t : Text) : Option Text :=
  match start, t with
  | [], t => some t
  | _ :: _, [] => none
  | a :: start, b :: t => if a = b then after? start t else none

/-- The pieces between the places where `sep` stands; there is one more piece than separators. -/
def splitOn (sep : CodeUnit) : Text → List Text
  | [] => [[]]
  | u :: r =>
    if u = sep then [] :: splitOn sep r
    else
      match splitOn sep r with
      | [] => [[u]]
      | piece :: pieces => (u :: piece) :: pieces

/-- The pieces with `sep` between them. -/
def joinWith (sep : Text) : List Text → Text
  | [] => []
  | [t] => t
  | t :: u :: r => t ++ sep ++ joinWith sep (u :: r)

/-- The pieces between maximal runs of white space; a text that starts or ends with white space
has an empty piece there. -/
def splitOnBlanks (t : Text) : List Text :=
  go [] t
where
  /-- Collects the current piece in reverse. -/
  go (piece : Text) : Text → List Text
    | [] => [piece.reverse]
    | u :: r =>
      if isBlank u then
        match r with
        | v :: _ => if isBlank v then go piece r else piece.reverse :: go [] r
        | [] => [piece.reverse, []]
      else go (u :: piece) r

/-- The text with `find` replaced by `put` in every place. -/
def replaceUnit (find : CodeUnit) (put : Text) (t : Text) : Text :=
  t.flatMap fun u => if u = find then put else [u]

/-- The lower-case form of the ASCII letters; other units stay. -/
def toLowerAscii (t : Text) : Text := t.map fun u => if 65 ≤ u && u ≤ 90 then u + 32 else u

/-- The upper-case form of the ASCII letters; other units stay. -/
def toUpperAscii (t : Text) : Text := t.map fun u => if 97 ≤ u && u ≤ 122 then u - 32 else u

/-! ## Numerals -/

/-- The decimal numeral of a natural number. -/
def ofNat (n : Nat) : Text := (Nat.toDigits 10 n).map unit

/-- The value of a decimal digit. -/
def digit? (u : CodeUnit) : Option Nat := if 48 ≤ u && u ≤ 57 then some (u.toNat - 48) else none

/-- The value of a hexadecimal digit, of either case. -/
def hexDigit? (u : CodeUnit) : Option Nat :=
  if 48 ≤ u && u ≤ 57 then some (u.toNat - 48)
  else if 97 ≤ u && u ≤ 102 then some (u.toNat - 87)
  else if 65 ≤ u && u ≤ 70 then some (u.toNat - 55)
  else none

/-- The lower-case hexadecimal digit of a number below 16. -/
def hexDigit (n : Nat) : CodeUnit := if n < 10 then (48 + n).toUInt16 else (87 + n).toUInt16

/-- The number that a run of digits denotes, most significant first. -/
def digitsValue (base : Nat) (digits : List Nat) : Nat :=
  digits.foldl (fun n d => n * base + d) 0

end Text

/-- A text that is not empty, as an option. -/
def nonEmpty? : Text → Option Text
  | [] => none
  | u :: r => some (u :: r)

end ChatRelay
