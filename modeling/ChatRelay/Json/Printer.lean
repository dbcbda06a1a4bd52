import ChatRelay.Json.Basic

/-!
# Writing JSON

`render` writes a value without white space. In strings the quote, the backslash, the control
characters below U+0020 and surrogates without a partner are escaped, so the text of a value is
always well-formed Unicode; everything else stands for itself. NaN and the infinities, which JSON
cannot write, become `null`.
-/

namespace ChatRelay.Json

/-- The escape of a unit by its number. -/
def hexEscape (u : CodeUnit) : Text :=
  let n := u.toNat
  "\\u" ++ [Text.hexDigit (n / 4096), Text.hexDigit (n / 256 % 16), Text.hexDigit (n / 16 % 16),
    Text.hexDigit (n % 16)]

/-- The written form of a unit that is no surrogate. -/
def escapeUnit (u : CodeUnit) : Text :=
  if u = Text.unit '"' then "\\\""
  else if u = Text.unit '\\' then "\\\\"
  else if u = 8 then "\\b"
  else if u = 12 then "\\f"
  else if u = 10 then "\\n"
  else if u = 13 then "\\r"
  else if u = 9 then "\\t"
  else if u < 32 then hexEscape u
  else [u]

/-- The written form of a unit that has no partner. -/
def escapeLone (u : CodeUnit) : Text :=
  if Text.isHighSurrogate u || Text.isLowSurrogate u then hexEscape u else escapeUnit u

/-- The written form of the content of a string. -/
def escape : Text → Text
  | [] => []
  | [u] => escapeLone u
  | u :: v :: r =>
    if Text.isHighSurrogate u && Text.isLowSurrogate v then u :: v :: escape r
    else escapeLone u ++ escape (v :: r)

/-- A string in quotes. -/
def quote (s : Text) : Text := "\"" ++ escape s ++ "\""

/-- The written form of a number. -/
def renderNumber : Number → Text
  | .finite neg m e => Number.render (.finite neg m e)
  | _ => "null"

mutual

/-- The text of a value. -/
def render : Json → Text
  | .null => "null"
  | .bool b => if b then "true" else "false"
  | .num x => renderNumber x
  | .str s => quote s
  | .arr items => "[" ++ renderItems items ++ "]"
  | .obj members => "\x7b" ++ renderMembers members ++ "\x7d"

/-- The items of an array with commas between them. -/
def renderItems : List Json → Text
  | [] => []
  | [x] => render x
  | x :: y :: xs => render x ++ "," ++ renderItems (y :: xs)

/-- The members of an object with commas between them. -/
def renderMembers : List (Text × Json) → Text
  | [] => []
  | [(k, x)] => quote k ++ ":" ++ render x
  | (k, x) :: m :: ms => quote k ++ ":" ++ render x ++ "," ++ renderMembers (m :: ms)

end

end ChatRelay.Json
