import ChatRelay.Text.Basic

/-!
# Base 64

Bytes written with 64 characters, six bits each. Reading is lenient: characters that are none of the
64 are passed over, the two that have a second form may have it, an equals sign ends the text, and
bits that make no whole byte are dropped.
-/

namespace ChatRelay.Base64

open Text (unit)

/-- The characters, in the order of their values. -/
def alphabet : Text := "ABCDEFGHIJKLMNOPQRSTUVWXYZabcdefghijklmnopqrstuvwxyz0123456789+/"

/-- The value of a character. -/
def value? (u : CodeUnit) : Option Nat :=
  if 65 ≤ u && u ≤ 90 then some (u.toNat - 65)
  else if 97 ≤ u && u ≤ 122 then some (u.toNat - 71)
  else if 48 ≤ u && u ≤ 57 then some (u.toNat + 4)
  else if u == unit '+' || u == unit '-' then some 62
  else if u == unit '/' || u == unit '_' then some 63
  else none

/-- The bytes of values, four of which make three bytes. -/
def bytesOfValues : List Nat → List UInt8
  | a :: b :: c :: d :: r =>
    (a * 4 + b / 16).toUInt8 :: (b % 16 * 16 + c / 4).toUInt8 :: (c % 4 * 64 + d).toUInt8 ::
      bytesOfValues r
  | [a, b, c] => [(a * 4 + b / 16).toUInt8, (b % 16 * 16 + c / 4).toUInt8]
  | [a, b] => [(a * 4 + b / 16).toUInt8]
  | _ => []

/-- The bytes that a text spells. -/
def decode (t : Text) : List UInt8 :=
  bytesOfValues ((t.takeWhile (· ≠ unit '=')).filterMap value?)

/-- The character of a value. -/
def character (n : Nat) : CodeUnit := alphabet[n]?.getD (unit '=')

/-- The text of bytes. -/
def encode : List UInt8 → Text
  | a :: b :: c :: r =>
    let (a, b, c) := (a.toNat, b.toNat, c.toNat)
    character (a / 4) :: character (a % 4 * 16 + b / 16) :: character (b % 16 * 4 + c / 64) ::
      character (c % 64) :: encode r
  | [a, b] =>
    let (a, b) := (a.toNat, b.toNat)
    [character (a / 4), character (a % 4 * 16 + b / 16), character (b % 16 * 4), unit '=']
  | [a] => [character (a.toNat / 4), character (a.toNat % 4 * 16), unit '=', unit '=']
  | [] => []

end ChatRelay.Base64
