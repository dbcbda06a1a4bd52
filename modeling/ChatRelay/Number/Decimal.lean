import ChatRelay.Number.Basic
import ChatRelay.Text.Basic

/-!
# Decimal numerals

Reading: `ofDecimal` is the number nearest to `digits · 10 ^ exponent`. Writing: `render` writes the
fewest decimal digits that read back as the number, and of those the nearest to it, with the
point in its place for numbers from 10⁻⁶ up to 10²¹ and with an exponent outside of that range.
"Reads back" is literally that: a candidate is taken when `ofDecimal` gives the number again.

`ofNumeral?` reads the looser numerals of configuration values, where white space may stand around
the numeral, the empty text is zero, and hexadecimal, octal and binary numerals are allowed.
-/

namespace ChatRelay.Number

/-! ## Reading -/

/-- The number nearest to `digits · 10 ^ exponent`. Exponents that lie far outside of the range of
numbers are decided without computing the power. -/
def ofDecimal (negative : Bool) (digits : Nat) (exponent : Int) : Number :=
  if digits = 0 then zero negative
  else if 400 < exponent then .infinite negative
  else if exponent + (digits.log2 / 3 + 1 : Nat) < -400 then zero negative
  else if 0 ≤ exponent then ofRatio negative (digits * Nat.pow 10 exponent.toNat) 1
  else ofRatio negative digits (Nat.pow 10 (-exponent).toNat)

/-! ## The shortest digits -/

/-- Whether `num / den` is at least `10 ^ k`. -/
def atLeastPower (num den : Nat) (k : Int) : Bool :=
  if 0 ≤ k then den * Nat.pow 10 k.toNat ≤ num else den ≤ num * Nat.pow 10 (-k).toNat

/-- The greatest `k` with `10 ^ k ≤ num / den`: an estimate from below by the lengths in bits, and
up to three steps. -/
def decimalExponent (num den : Nat) : Int :=
  let bits : Int := (num.log2 : Int) - (den.log2 : Int)
  let k := Int.fdiv ((bits - 1) * 30103) 100000 - 1
  if atLeastPower num den (k + 3) then k + 3
  else if atLeastPower num den (k + 2) then k + 2
  else if atLeastPower num den (k + 1) then k + 1
  else k

/-- The two neighbours of `num / den` among the multiples of `10 ^ g`, with the remainder and the
divisor that place the value between them. -/
def onGrid (num den : Nat) (g : Int) : Nat × Nat × Nat :=
  if 0 ≤ g then
    let d := den * Nat.pow 10 g.toNat
    (num / d, num % d, d)
  else
    let n := num * Nat.pow 10 (-g).toNat
    (n / den, n % den, den)

/-- The nearer of the two neighbours of a positive number on the grid `10 ^ g` that read back as
that number, if one of them does; the even one if both are equally near. -/
def gridDigits? (significand : Nat) (exponent : Int) (g : Int) : Option Nat :=
  let x := finite false significand exponent
  let (num, den) := ratio significand exponent
  let (low, remainder, divisor) := onGrid num den g
  let lowFits := ofDecimal false low g = x
  let highFits := ofDecimal false (low + 1) g = x
  if lowFits && highFits then
    some (if 2 * remainder > divisor || (2 * remainder == divisor && low % 2 == 1) then low + 1 else low)
  else if lowFits then some low
  else if highFits then some (low + 1)
  else none

/-- The first grid, from coarse to fine, that holds a decimal reading back as the number. -/
def searchDigits (significand : Nat) (exponent : Int) : Nat → Int → Option (Nat × Int)
  | 0, _ => none
  | steps + 1, g =>
    match gridDigits? significand exponent g with
    | some digits => some (digits, g)
    | none => searchDigits significand exponent steps (g - 1)

/-- All digits of a number: its value is `digits · 10 ^ exponent` exactly. -/
def exactDigits (significand : Nat) (exponent : Int) : Nat × Int :=
  if 0 ≤ exponent then (significand * Nat.pow 2 exponent.toNat, 0)
  else (significand * Nat.pow 5 (-exponent).toNat, exponent)

/-- Moves trailing zeros from the digits to the exponent, at most `fuel` of them. -/
def dropZeros : Nat → Nat × Int → Nat × Int
  | 0, d => d
  | fuel + 1, (digits, g) =>
    if digits % 10 = 0 then dropZeros fuel (digits / 10, g + 1) else (digits, g)

/-- The fewest digits that read back as a positive number. Seventeen always suffice. -/
def shortestDigits (significand : Nat) (exponent : Int) : Nat × Int :=
  let (num, den) := ratio significand exponent
  let found := (searchDigits significand exponent 17 (decimalExponent num den)).getD
    (exactDigits significand exponent)
  dropZeros found.1.log2 found

/-! ## Writing -/

/-- Digits with the decimal point after the first `point` of them: positional from 10⁻⁶ up to
10²¹, else one digit, the fraction and a signed exponent. -/
def layout (digits : Text) (point : Int) : Text :=
  let count : Int := digits.length
  if count ≤ point && point ≤ 21 then digits ++ List.replicate (point - count).toNat (Text.unit '0')
  else if 0 < point && point ≤ 21 then digits.take point.toNat ++ "." ++ digits.drop point.toNat
  else if -6 < point && point ≤ 0 then
    "0." ++ List.replicate (-point).toNat (Text.unit '0') ++ digits
  else
    let e := point - 1
    let fraction : Text := if digits.length ≤ 1 then [] else "." ++ digits.drop 1
    digits.take 1 ++ fraction ++ "e" ++ (if e < 0 then "-" else "+") ++ Text.ofNat e.natAbs

/-- The numeral of a number; zero has no sign. -/
def render : Number → Text
  | .nan => "NaN"
  | .infinite neg => if neg then "-Infinity" else "Infinity"
  | .finite neg m e =>
    if m = 0 then "0"
    else
      let (digits, g) := shortestDigits m e
      let numeral := Text.ofNat digits
      (if neg then "-" else "") ++ layout numeral (g + numeral.length)

/-- The numeral of a number with an exponent, whatever its size. -/
def renderWithExponent : Number → Text
  | .finite neg m e =>
    if m = 0 then "0e+0"
    else
      let (digits, g) := shortestDigits m e
      let numeral := Text.ofNat digits
      let power : Int := g + numeral.length - 1
      let fraction : Text := if numeral.length ≤ 1 then [] else "." ++ numeral.drop 1
      (if neg then "-" else "") ++ numeral.take 1 ++ fraction ++ "e" ++
        (if power < 0 then "-" else "+") ++ Text.ofNat power.natAbs
  | x => x.render

/-- The digits of a natural number in a base. From 2⁵³ on, where not every number has a double of its
own, the last digits are written as zeros. -/
def digitsInBase (base : Nat) : Nat → Nat → Text
  | 0, _ => []
  | fuel + 1, n =>
    let last : Text := if Nat.pow 2 53 ≤ n then "0" else [Text.hexDigit (n % base)]
    if n < base then last else digitsInBase base fuel (n / base) ++ last

/-- The numeral of a whole number in a base up to sixteen, without its sign. -/
def renderInBase (base : Nat) : Number → Text
  | .finite _ m e =>
    let (num, den) := ratio m e
    digitsInBase base (num / den + 1).log2.succ (num / den)
  | x => x.render

/-! ## Numerals in configuration values -/

/-- The value of a non-empty run of digits in some base. -/
def digitRun? (digit? : CodeUnit → Option Nat) (base : Nat) (t : Text) : Option Nat :=
  if t.isEmpty then none else (t.mapM digit?).map (Text.digitsValue base)

/-- A digit below a bound. -/
def smallDigit? (bound : Nat) (u : CodeUnit) : Option Nat := (Text.digit? u).filter (· < bound)

/-- The digits that begin a text, and what follows them. -/
def spanDigits (t : Text) : List Nat × Text :=
  match t with
  | [] => ([], [])
  | u :: r =>
    match Text.digit? u with
    | none => ([], u :: r)
    | some d => let (ds, rest) := spanDigits r; (d :: ds, rest)

/-- The exponent part of a numeral: nothing, or `e`, an optional sign and digits to the end. -/
def exponentPart? : Text → Option Int
  | [] => some 0
  | u :: r =>
    if u = Text.unit 'e' || u = Text.unit 'E' then
      match r with
      | [] => none
      | s :: ds =>
        if s = Text.unit '-' then (digitRun? Text.digit? 10 ds).map fun n => -(n : Int)
        else if s = Text.unit '+' then (digitRun? Text.digit? 10 ds).map fun n => (n : Int)
        else (digitRun? Text.digit? 10 (s :: ds)).map fun n => (n : Int)
    else none

/-- An unsigned decimal numeral: digits with an optional point among or beside them, an optional
exponent; or the word `Infinity`. -/
def ofUnsigned? (negative : Bool) (t : Text) : Option Number :=
  if t = "Infinity" then some (.infinite negative)
  else
    let (whole, rest) := spanDigits t
    let (fraction, rest) :=
      match rest with
      | u :: r => if u = Text.unit '.' then spanDigits r else ([], rest)
      | [] => ([], [])
    if whole.isEmpty && fraction.isEmpty then none
    else
      (exponentPart? rest).map fun e =>
        ofDecimal negative (Text.digitsValue 10 (whole ++ fraction)) (e - fraction.length)

/-- The number that a configuration value denotes: white space around it is ignored, the empty text
is zero, and a text that is no numeral is `none`. -/
def ofNumeral? (t : Text) : Option Number :=
  let t := t.trim
  match t with
  | [] => some (zero false)
  | [u] => (Text.digit? u).map ofNat
  | u :: v :: r =>
    let rest := v :: r
    if u = Text.unit '0' && (v = Text.unit 'x' || v = Text.unit 'X') then
      (digitRun? Text.hexDigit? 16 r).map ofNat
    else if u = Text.unit '0' && (v = Text.unit 'o' || v = Text.unit 'O') then
      (digitRun? (smallDigit? 8) 8 r).map ofNat
    else if u = Text.unit '0' && (v = Text.unit 'b' || v = Text.unit 'B') then
      (digitRun? (smallDigit? 2) 2 r).map ofNat
    else if u = Text.unit '-' then ofUnsigned? true rest
    else if u = Text.unit '+' then ofUnsigned? false rest
    else ofUnsigned? false (u :: rest)

end ChatRelay.Number
