import ChatRelay.Text.Utf8

/-!
# Percent escapes

A percent sign and two hexadecimal digits stand for a byte of UTF-8. `unescape?` reads the escapes of
a text, apart from those of characters that keep theirs, and refuses a text in which a percent sign
begins no escape, or in which escapes are no UTF-8.
-/

namespace ChatRelay.Percent

open Text (unit)

/-- The byte of an escape at the beginning of a text, and what follows it. -/
def escape? : Text → Option (UInt8 × Text)
  | u :: v :: w :: r =>
    if u = unit '%' then
      match Text.hexDigit? v, Text.hexDigit? w with
      | some a, some b => some ((a * 16 + b).toUInt8, r)
      | _, _ => none
    else none
  | _ => none

/-- The bytes that escapes in a row at the beginning of a text stand for, at most so many. -/
def escapedBytes? : Nat → Text → Option (List UInt8)
  | 0, _ => some []
  | n + 1, t =>
    match escape? t with
    | some (b, r) => (escapedBytes? n r).map (b :: ·)
    | none => none

/-- How many bytes a character has that begins with a given one. -/
def characterLength (b : UInt8) : Nat :=
  if b < 0x80 then 1 else if b < 0xE0 then 2 else if b < 0xF0 then 3 else 4

/-- The text with its escapes read, `skip` units of it being part of an escape that was read. -/
def unescapeFrom (kept : Text) : (skip : Nat) → Text → Option Text
  | _, [] => some []
  | skip + 1, _ :: r => unescapeFrom kept skip r
  | 0, u :: r =>
    if u = unit '%' then
      match escape? (u :: r) with
      | none => none
      | some (b, _) =>
        let length := characterLength b
        match escapedBytes? length (u :: r) with
        | none => none
        | some bytes =>
          let t := Utf8.decode bytes
          if Utf8.encode t ≠ bytes then none
          else if kept.any (fun m => [m] = t) then (unescapeFrom kept 0 r).map (u :: ·)
          else (unescapeFrom kept (3 * length - 1) r).map (t ++ ·)
    else (unescapeFrom kept 0 r).map (u :: ·)

/-- The text with its escapes read, apart from those of the characters that keep theirs. -/
def unescape? (kept t : Text) : Option Text := unescapeFrom kept 0 t

end ChatRelay.Percent
