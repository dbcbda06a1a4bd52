import ChatRelay.Calendar
import ChatRelay.Number.Decimal
import ChatRelay.Text.Base64

/-!
# The values of YAML scalars

What a plain scalar without a tag means is decided by how it is written: the first rule whose
spelling it has applies, and if there is none it is a text. The rules differ between the versions of
the language: the older one knows more words for truth values, underscores in numbers, octal numbers
that begin with a zero, numbers of base 60, and dates. With a tag only the rules of that tag are
tried, and a few tags have values of their own.

A `Reading` is a value with what is needed to write it again.
-/

namespace ChatRelay.Yaml

open Text (unit)

/-- The versions of the language that are told apart. -/
inductive Version where
  | older
  | current
  deriving DecidableEq, Repr

/-- The value of a scalar. -/
inductive ScalarValue where
  | null
  | bool (b : Bool)
  | number (x : Number)
  | text (t : Text)
  | merge
  | moment (m : Calendar.Moment)
  | bytes (bs : List UInt8)
  deriving DecidableEq

/-- How a number is written. -/
inductive NumberStyle where
  | decimal
  | binary
  | octal
  | hexadecimal
  | exponent
  | sexagesimal
  deriving DecidableEq, Repr

/-- The value of a scalar, how it is written if it is a number, and how many decimal places it has if
they end in a zero. -/
structure Reading where
  value : ScalarValue
  style : NumberStyle := .decimal
  places : Nat := 0
  deriving DecidableEq

/-- A text that is no other value. -/
def Reading.ofText (t : Text) : Reading := { value := .text t }

/-- A number. -/
def Reading.ofNumber (x : Number) (style : NumberStyle := .decimal) : Reading :=
  { value := .number x, style := style }

/-- The kinds of tags that say what a scalar is. -/
inductive ScalarTag where
  | null
  | bool
  | int
  | float
  | text
  | merge
  | binary
  | timestamp
  deriving DecidableEq, Repr

/-- The beginning of the names of the standard tags. -/
def standardTag : Text := "tag:yaml.org,2002:"

/-- The tag of a name. -/
def ScalarTag.ofName? (name : Text) : Option ScalarTag :=
  match Text.after? standardTag name with
  | none => none
  | some kind =>
    ([("null", .null), ("bool", .bool), ("int", .int), ("float", .float), ("str", .text),
      ("merge", .merge), ("binary", .binary), ("timestamp", .timestamp)] :
        List (Text × ScalarTag)).lookup kind

namespace Scalar

/-! ## Spellings that the versions share -/

/-- The words for null. -/
def null? (t : Text) : Option Reading :=
  if (["", "~", "null", "Null", "NULL"] : List Text).contains t then some { value := .null } else none

/-- The truth value that one of some words stands for. -/
def word? (words : List Text) (b : Bool) (t : Text) : Option Reading :=
  if words.contains t then some { value := .bool b } else none

/-- Whether a numeral begins with a minus sign, and the numeral without its sign. -/
def splitSign : Text → Bool × Text
  | [] => (false, [])
  | u :: r =>
    if u = unit '-' then (true, r) else if u = unit '+' then (false, r) else (false, u :: r)

/-- A whole number with a sign. -/
def whole (negative : Bool) (n : Nat) : Number := .ofRatio negative n 1

/-- Infinity with an optional sign, and the words for what is no number. -/
def special? (t : Text) : Option Reading :=
  let (negative, word) := splitSign t
  if ([".inf", ".Inf", ".INF"] : List Text).contains word then some (.ofNumber (.infinite negative))
  else if ([".nan", ".NaN", ".NAN"] : List Text).contains t then some (.ofNumber .nan)
  else none

/-- The number that a decimal numeral without a sign denotes, if it has a digit in front of its
exponent. -/
def decimal (negative : Bool) (t : Text) : Number := (Number.ofUnsigned? negative t).getD .nan

/-- How many decimal places a text with a point has, if they end in a zero. -/
def placesOf (fraction : Text) : Nat :=
  if fraction.getLast? = some (unit '0') then fraction.length else 0

/-- The text in front of the first of some units, and the text behind it. -/
def splitAt? (ends : CodeUnit → Bool) (t : Text) : Option (Text × Text) :=
  match t.dropWhile fun u => !ends u with
  | [] => none
  | _ :: r => some (t.takeWhile fun u => !ends u, r)

/-- Whether a text is made of digits. -/
def areDigits (t : Text) : Bool := t.all fun u => (Text.digit? u).isSome

/-- Whether a unit begins an exponent. -/
def beginsExponent (u : CodeUnit) : Bool := u == unit 'e' || u == unit 'E'

/-- Whether a text is an exponent behind its letter. -/
def isExponent (t : Text) : Bool :=
  let (_, digits) := splitSign t
  !digits.isEmpty && areDigits digits

/-! ## The current version -/

/-- A whole number behind `0o` or `0x`. -/
def based? (mark : Text) (digit? : CodeUnit → Option Nat) (base : Nat) (style : NumberStyle)
    (t : Text) : Option Reading :=
  match Text.after? mark t with
  | none => none
  | some digits =>
    (Number.digitRun? digit? base digits).map fun n => .ofNumber (whole false n) style

/-- A decimal whole number. -/
def int? (t : Text) : Option Reading :=
  let (negative, digits) := splitSign t
  (Number.digitRun? Text.digit? 10 digits).map fun n => .ofNumber (whole negative n)

/-- Whether a text is digits with a point among, behind or in front of them, which may also be
missing. -/
def isPointed (pointless : Bool) (t : Text) : Bool :=
  match splitAt? (· == unit '.') t with
  | none => pointless && !t.isEmpty && areDigits t
  | some (a, b) => areDigits a && areDigits b && !(a.isEmpty && b.isEmpty)

/-- A number with an exponent. -/
def exponent? (t : Text) : Option Reading :=
  let (negative, numeral) := splitSign t
  match splitAt? beginsExponent numeral with
  | none => none
  | some (mantissa, power) =>
    if isPointed true mantissa && isExponent power then
      some (.ofNumber (decimal negative numeral) .exponent)
    else none

/-- A number with a point. -/
def point? (t : Text) : Option Reading :=
  let (negative, numeral) := splitSign t
  if isPointed false numeral then
    let places := ((splitAt? (· == unit '.') numeral).map fun (_, b) => placesOf b).getD 0
    some { Reading.ofNumber (decimal negative numeral) with places := places }
  else none

/-! ## The older version -/

/-- The text without underscores. -/
def withoutUnderscores (t : Text) : Text := t.filter (· ≠ unit '_')

/-- Whether a text is made of digits of a base and underscores, and begins with a digit if that is
asked. -/
def areLooseDigits (digit? : CodeUnit → Option Nat) (digitFirst : Bool) (t : Text) : Bool :=
  t.all (fun u => u == unit '_' || (digit? u).isSome) && !(digitFirst && t.head? == some (unit '_'))

/-- The number of digits among underscores; no number if there are no digits. -/
def looseWhole (negative : Bool) (digit? : CodeUnit → Option Nat) (base : Nat) (t : Text) : Number :=
  ((Number.digitRun? digit? base (withoutUnderscores t)).map (whole negative)).getD .nan

/-- A whole number behind a mark, with underscores. -/
def looseBased? (mark : Text) (digit? : CodeUnit → Option Nat) (base : Nat) (style : NumberStyle)
    (t : Text) : Option Reading :=
  let (negative, numeral) := splitSign t
  match Text.after? mark numeral with
  | none => none
  | some digits =>
    if !digits.isEmpty && areLooseDigits digit? false digits then
      some (.ofNumber (looseWhole negative digit? base digits) style)
    else none

/-- A decimal whole number with underscores. -/
def looseInt? (t : Text) : Option Reading :=
  let (negative, digits) := splitSign t
  if !digits.isEmpty && areLooseDigits Text.digit? true digits then
    some (.ofNumber (looseWhole negative Text.digit? 10 digits))
  else none

/-- A number with an exponent, with underscores. Digits in front of the exponent may be missing, and
then it is no number. -/
def looseExponent? (t : Text) : Option Reading :=
  let (negative, numeral) := splitSign t
  match splitAt? beginsExponent numeral with
  | none => none
  | some (mantissa, power) =>
    let (a, b) := (splitAt? (· == unit '.') mantissa).getD (mantissa, [])
    if areLooseDigits Text.digit? true a && areLooseDigits Text.digit? false b && isExponent power then
      some (.ofNumber (decimal negative (withoutUnderscores numeral)) .exponent)
    else none

/-- A number with a point, with underscores. A point alone is no number. -/
def loosePoint? (t : Text) : Option Reading :=
  let (negative, numeral) := splitSign t
  match splitAt? (· == unit '.') numeral with
  | none => none
  | some (a, b) =>
    if areLooseDigits Text.digit? true a && areLooseDigits Text.digit? false b then
      some { Reading.ofNumber (decimal negative (withoutUnderscores numeral)) with
        places := placesOf (withoutUnderscores b) }
    else none

/-- The number whose digits of base 60 are given as decimal numerals. -/
def ofSixties (parts : List Text) : Number :=
  parts.foldl (fun sum part => sum * Number.ofNat 60 + (Number.ofNumeral? part).getD .nan)
    (Number.zero false)

/-- Whether a text is a digit of base 60. -/
def isSixtieth (t : Text) : Bool :=
  match t with
  | [u] => (Text.digit? u).isSome
  | [u, v] => (Number.smallDigit? 6 u).isSome && (Text.digit? v).isSome
  | _ => false

/-- Whether digits of base 60 stand behind the first one, which may be any number. -/
def areSixties (parts : List Text) : Bool :=
  match parts with
  | first :: second :: rest =>
    !first.isEmpty && areLooseDigits Text.digit? true first && (second :: rest).all isSixtieth
  | _ => false

/-- A number of base 60 with a sign, as written without its fraction. -/
def sixties (negative : Bool) (numeral : Text) : Reading :=
  let x := ofSixties (Text.splitOn (unit ':') (withoutUnderscores numeral))
  .ofNumber (if negative then Number.ofRatio true 1 1 * x else x) .sexagesimal

/-- A whole number of base 60. -/
def sexagesimal? (t : Text) : Option Reading :=
  let (negative, numeral) := splitSign t
  if areSixties (Text.splitOn (unit ':') numeral) then some (sixties negative numeral) else none

/-- A number of base 60 with a point. -/
def sexagesimalPoint? (t : Text) : Option Reading :=
  let (negative, numeral) := splitSign t
  match splitAt? (· == unit '.') numeral with
  | none => none
  | some (a, b) =>
    if areSixties (Text.splitOn (unit ':') a) && areLooseDigits Text.digit? false b then
      some (sixties negative numeral)
    else none

/-! ## Dates -/

/-- A number of at least and at most so many digits at the beginning of a text, and what follows. -/
def someDigits? (least most : Nat) (t : Text) : Option (Int × Text) :=
  let digits := (t.take most).takeWhile fun u => (Text.digit? u).isSome
  if digits.length < least then none
  else some ((Text.digitsValue 10 (digits.filterMap Text.digit?) : Nat), t.drop digits.length)

/-- What follows a character. -/
def expect? (c : Char) : Text → Option Text
  | [] => none
  | u :: r => if u = unit c then some r else none

/-- The minutes of a time zone behind its sign: hours, and minutes behind a colon. A number below 30
means hours. -/
def zoneMinutes? (t : Text) : Option Int := do
  let (hours, rest) ←
    match t with
    | u :: v :: r =>
      match Number.smallDigit? 3 u, Text.digit? v with
      | some a, some b => some (a * 10 + b, r)
      | _, _ => (Text.digit? u).map fun a => (a, v :: r)
    | [u] => (Text.digit? u).map fun a => (a, [])
    | [] => none
  let sum : Int ←
    match rest with
    | [] => some (hours : Int)
    | colon :: r => do
      let (minutes, rest) ← someDigits? 2 2 r
      if colon = unit ':' ∧ rest.isEmpty then some (hours * 60 + minutes) else none
  return if sum < 30 then sum * 60 else sum

/-- How many minutes a time zone is ahead; none is given by nothing and by `Z`. -/
def zone? (t : Text) : Option Int :=
  match t.dropWhile fun u => u == 32 || u == 9 with
  | [] => if t.isEmpty then some 0 else none
  | u :: r =>
    if u = unit 'Z' ∧ r.isEmpty then some 0
    else if u = unit '+' then zoneMinutes? r
    else if u = unit '-' then (zoneMinutes? r).map (- ·)
    else none

/-- The milliseconds that the digits behind a point give, and what follows. -/
def milliseconds? (t : Text) : Option (Int × Text) :=
  match expect? '.' t with
  | none => some (0, t)
  | some r =>
    let digits := r.takeWhile fun u => (Text.digit? u).isSome
    if digits.isEmpty then none
    else
      let shown := (digits ++ "00").take 3
      some ((Text.digitsValue 10 (shown.filterMap Text.digit?) : Nat), r.drop digits.length)

/-- The time of day behind a date, in milliseconds, with what its zone takes off. -/
def timeOfDay? (t : Text) : Option Int := do
  let rest ←
    match t with
    | [] => none
    | u :: r =>
      if u = unit 't' ∨ u = unit 'T' then some r
      else if u = 32 ∨ u = 9 then some (r.dropWhile fun v => v == 32 || v == 9)
      else none
  let (hour, rest) ← someDigits? 1 2 rest
  let (minute, rest) ← someDigits? 1 2 (← expect? ':' rest)
  let (second, rest) ← someDigits? 1 2 (← expect? ':' rest)
  let (millisecond, rest) ← milliseconds? rest
  let ahead ← zone? rest
  return ((hour * 60 + minute - ahead) * 60 + second) * 1000 + millisecond

/-- A date, with or without a time of day. A year below 100 is one of the twentieth century. -/
def timestamp? (t : Text) : Option Reading := do
  let (year, rest) ← someDigits? 4 4 t
  let (month, rest) ← someDigits? 1 2 (← expect? '-' rest)
  let (day, rest) ← someDigits? 1 2 (← expect? '-' rest)
  let time ← if rest.isEmpty then some 0 else timeOfDay? rest
  let year := if year < 100 then year + 1900 else year
  return { value := .moment (Calendar.ofCivil year month day 0 0 0 0 + time) }

/-! ## Rules -/

/-- The key that stands for the entries of other maps. -/
def mergeKey : Text := "<<"

/-- The spelling of the merge key. -/
def merge? (t : Text) : Option Reading := if t = mergeKey then some { value := .merge } else none

/-- A spelling, the tag that it belongs to, and whether only keys have it. -/
structure Rule where
  tag : ScalarTag
  read? : Text → Option Reading
  onlyKeys : Bool := false

/-- The rules of the current version, in the order in which they are tried. -/
def currentRules : List Rule :=
  [⟨.null, null?, false⟩,
    ⟨.bool, word? ["true", "True", "TRUE"] true, false⟩,
    ⟨.bool, word? ["false", "False", "FALSE"] false, false⟩,
    ⟨.int, based? "0o" (Number.smallDigit? 8) 8 .octal, false⟩,
    ⟨.int, int?, false⟩,
    ⟨.int, based? "0x" Text.hexDigit? 16 .hexadecimal, false⟩,
    ⟨.float, special?, false⟩,
    ⟨.float, exponent?, false⟩,
    ⟨.float, point?, false⟩]

/-- The words for true in the older version. -/
def olderYes : List Text :=
  ["Y", "y", "Yes", "yes", "YES", "True", "true", "TRUE", "On", "on", "ON"]

/-- The words for false in the older version. -/
def olderNo : List Text :=
  ["N", "n", "No", "no", "NO", "False", "false", "FALSE", "Off", "off", "OFF"]

/-- The rules of the older version, in the order in which they are tried. -/
def olderRules : List Rule :=
  [⟨.null, null?, false⟩,
    ⟨.bool, word? olderYes true, false⟩,
    ⟨.bool, word? olderNo false, false⟩,
    ⟨.int, looseBased? "0b" (Number.smallDigit? 2) 2 .binary, false⟩,
    ⟨.int, looseBased? "0" (Number.smallDigit? 8) 8 .octal, false⟩,
    ⟨.int, looseInt?, false⟩,
    ⟨.int, looseBased? "0x" Text.hexDigit? 16 .hexadecimal, false⟩,
    ⟨.float, special?, false⟩,
    ⟨.float, looseExponent?, false⟩,
    ⟨.float, loosePoint?, false⟩,
    ⟨.merge, merge?, true⟩,
    ⟨.int, sexagesimal?, false⟩,
    ⟨.float, sexagesimalPoint?, false⟩,
    ⟨.timestamp, timestamp?, false⟩]

/-- The rules of a version. -/
def rules : Version → List Rule
  | .current => currentRules
  | .older => olderRules

/-- What a plain scalar without a tag means. -/
def ofPlain (version : Version) (isKey : Bool) (t : Text) : Reading :=
  ((rules version).findSome? fun rule =>
    if rule.onlyKeys && !isKey then none else rule.read? t).getD (.ofText t)

/-- What a scalar with a tag means; none if the text is no date although the tag asks for one. -/
def ofTag? (version : Version) (name t : Text) : Option Reading :=
  match ScalarTag.ofName? name with
  | none => some (.ofText t)
  | some tag =>
    match tag, version with
    | .text, _ => some (.ofText t)
    | .binary, _ => some { value := .bytes (Base64.decode t) }
    | .merge, .current => some { value := .merge }
    | .timestamp, .current => timestamp? t
    | tag, version =>
      some (((rules version).findSome? fun rule =>
        if rule.tag = tag then rule.read? t else none).getD (.ofText t))

end Scalar

end ChatRelay.Yaml
