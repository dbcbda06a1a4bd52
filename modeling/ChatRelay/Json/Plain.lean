import ChatRelay.Json.Basic
import ChatRelay.Number.Decimal

/-!
# Values inside of sentences

Error texts, addresses and log headers name values of any kind. A string stands for itself, numbers
and truth values for their numerals and names, a list for the texts of its items with commas between
them, and an object for a fixed phrase. An object that has a member of its own under `toString` has
no text at all, and neither has a list that holds one.
-/

namespace ChatRelay.Json

/-- The phrase for an object. -/
def objectPhrase : Text := "[object Object]"

/-- The key whose presence leaves an object without a text. -/
def textKey : Text := "toString"

mutual

/-- The text of a value, if it has one. -/
def plain? : Json → Option Text
  | .null => some "null"
  | .bool b => some (if b then "true" else "false")
  | .num x => some x.render
  | .str s => some s
  | .arr items => plainItems? items
  | .obj ms => if (lookup textKey ms).isSome then none else some objectPhrase

/-- The texts of items with commas between them. -/
def plainItems? : List Json → Option Text
  | [] => some []
  | [x] => plainItem? x
  | x :: y :: xs =>
    match plainItem? x, plainItems? (y :: xs) with
    | some t, some ts => some (t ++ "," ++ ts)
    | _, _ => none

/-- The text of an item; `null` has the empty one there. -/
def plainItem? : Json → Option Text
  | .null => some []
  | .bool b => some (if b then "true" else "false")
  | .num x => some x.render
  | .str s => some s
  | .arr items => plainItems? items
  | .obj ms => if (lookup textKey ms).isSome then none else some objectPhrase

end

/-- The word for a value that is missing. -/
def missingWord : Text := "undefined"

/-- The text of what may be missing. -/
def plainOrMissing? : Option Json → Option Text
  | none => some missingWord
  | some v => v.plain?

end ChatRelay.Json
