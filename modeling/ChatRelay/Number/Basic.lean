/-!
# Binary64 numbers

JSON numbers, token counts and sampling options are IEEE double-precision numbers. A finite number
is a sign, a significand below 2⁵³ and an exponent of two, kept in the one form in which the
significand is at least 2⁵² or the exponent is the least one; so equal numbers are equal data,
except that zero has a sign. `ofRatio` is the only place that rounds: to the nearest number, to
the even significand on a tie. All arithmetic is exact arithmetic on `Nat`, with `Nat.pow` for the
powers.
-/

namespace ChatRelay

/-- A binary64 number. -/
inductive Number where
  | nan
  | infinite (negative : Bool)
  | finite (negative : Bool) (significand : Nat) (exponent : Int)
  deriving DecidableEq

namespace Number

/-- The exponent of the subnormal numbers. -/
def leastExponent : Int := -1074

/-- The exponent of the largest numbers. -/
def greatestExponent : Int := 971

/-- Zero with a sign. -/
def zero (negative : Bool) : Number := .finite negative 0 leastExponent

instance : Inhabited Number := ⟨zero false⟩

/-- The quotient rounded to the nearest natural number, to the even one on a tie. -/
def roundQuotient (num den : Nat) : Nat :=
  let q := num / den
  let twice := 2 * (num % den)
  if twice > den || (twice == den && q % 2 == 1) then q + 1 else q

/-- The quotient by `den * 2 ^ e`, rounded. -/
def roundScaled (num den : Nat) (e : Int) : Nat :=
  if 0 ≤ e then roundQuotient num (den * Nat.pow 2 e.toNat)
  else roundQuotient (num * Nat.pow 2 (-e).toNat) den

/-- The exponent that brings `num / den` into the range of a 53-bit significand. -/
def exponentOf (num den : Nat) : Int :=
  let e : Int := (num.log2 : Int) - (den.log2 : Int) - 53
  let fits :=
    if 0 ≤ e then num < den * Nat.pow 2 (53 + e.toNat)
    else num * Nat.pow 2 (-e).toNat < den * Nat.pow 2 53
  max (if fits then e else e + 1) leastExponent

/-- The number nearest to `num / den`, for a positive denominator. -/
def ofRatio (negative : Bool) (num den : Nat) : Number :=
  if num = 0 then zero negative
  else
    let e := exponentOf num den
    let m := roundScaled num den e
    let (m, e) := if m = Nat.pow 2 53 then (Nat.pow 2 52, e + 1) else (m, e)
    if greatestExponent < e then .infinite negative else .finite negative m e

/-- The number nearest to a natural number. -/
def ofNat (n : Nat) : Number := ofRatio false n 1

/-- The value of a finite number without its sign, as numerator and denominator. -/
def ratio (significand : Nat) (exponent : Int) : Nat × Nat :=
  if 0 ≤ exponent then (significand * Nat.pow 2 exponent.toNat, 1)
  else (significand, Nat.pow 2 (-exponent).toNat)

/-- Whether the number is finite and has no fraction. -/
def isInteger : Number → Bool
  | .finite _ m e => let (num, den) := ratio m e; num % den == 0
  | _ => false

/-- Whether the number is greater than zero. -/
def isPositive : Number → Bool
  | .finite neg m _ => !neg && m != 0
  | .infinite neg => !neg
  | .nan => false

/-- Whether the number is zero or greater. -/
def isNonNegative : Number → Bool
  | .finite neg m _ => !neg || m == 0
  | .infinite neg => !neg
  | .nan => false

/-- Whether the number is at most one. -/
def isAtMostOne : Number → Bool
  | .finite neg m e => neg || (let (num, den) := ratio m e; num ≤ den)
  | .infinite neg => neg
  | .nan => false

/-- The number, with the zero that has no sign in the place of both zeros. -/
def plainZero (x : Number) : Number :=
  match x with
  | .finite _ 0 _ => zero false
  | x => x

/-- The integer `significand · 2 ^ (exponent - least)` with its sign, where `least` is at most the
exponent. -/
def scaled (negative : Bool) (significand : Nat) (exponent least : Int) : Int :=
  let n : Int := (significand * Nat.pow 2 (exponent - least).toNat : Nat)
  if negative then -n else n

/-- Whether the number is less than another one. -/
def isBelow : Number → Number → Bool
  | .finite a m e, .finite b n f => scaled a m e (min e f) < scaled b n f (min e f)
  | .infinite a, .infinite b => a && !b
  | .infinite a, .finite _ _ _ => a
  | .finite _ _ _, .infinite b => !b
  | _, _ => false

/-- The sum, rounded once. The sum of opposite numbers is the zero without a sign. -/
def add : Number → Number → Number
  | .finite a m e, .finite b n f =>
    let least := min e f
    let sum := scaled a m e least + scaled b n f least
    if sum = 0 then zero (a && b)
    else ofRatio (sum < 0) (sum.natAbs * Nat.pow 2 least.toNat) (Nat.pow 2 (-least).toNat)
  | .infinite a, .infinite b => if a = b then .infinite a else .nan
  | .infinite a, .finite _ _ _ => .infinite a
  | .finite _ _ _, .infinite b => .infinite b
  | .nan, _ => .nan
  | _, .nan => .nan

instance : Add Number := ⟨add⟩

/-- The product, rounded once. -/
def mul : Number → Number → Number
  | .finite a m e, .finite b n f =>
    let power := e + f
    ofRatio (a != b) (m * n * Nat.pow 2 power.toNat) (Nat.pow 2 (-power).toNat)
  | .infinite a, .infinite b => .infinite (a != b)
  | .infinite a, .finite b n _ => if n = 0 then .nan else .infinite (a != b)
  | .finite a m _, .infinite b => if m = 0 then .nan else .infinite (a != b)
  | .nan, _ => .nan
  | _, .nan => .nan

instance : Mul Number := ⟨mul⟩

/-- The number with the other sign. -/
def neg : Number → Number
  | .nan => .nan
  | .infinite a => .infinite !a
  | .finite a m e => .finite (!a) m e

instance : Neg Number := ⟨neg⟩

/-- The remainder of a division by a positive natural number, with the sign of the number. -/
def remainder (x : Number) (n : Nat) : Number :=
  match x with
  | .finite a m e =>
    let (num, den) := ratio m e
    ofRatio a (num % (n * den)) den
  | _ => .nan

/-- The natural number that a non-negative integer is. -/
def toNat? (x : Number) : Option Nat :=
  match x with
  | .finite neg m e =>
    if x.isInteger && (!neg || m == 0) then
      let (num, den) := ratio m e
      some (num / den)
    else none
  | _ => none

/-- Whether two numbers compare as equal: zeros of both signs do, and nothing equals NaN. -/
def sameValue : Number → Number → Bool
  | .nan, _ => false
  | _, .nan => false
  | .finite a m e, .finite b n f => (m == 0 && n == 0) || (a == b && m == n && e == f)
  | .infinite a, .infinite b => a == b
  | _, _ => false

end Number

end ChatRelay
