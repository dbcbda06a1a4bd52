import ChatRelay.Text.Basic

/-!
# Punycode

The writing of code points in lower-case ASCII letters and digits that names of hosts use: the ASCII
characters first, then behind the last hyphen one number for every other character, which says by
how much the point and the place of the next one go on. `decode?` reads it. A number that 31 bits do
not hold, a digit that is none, a number without an end and a point below 128 are refused.
-/

namespace ChatRelay.Url.Punycode

open Text (unit)

/-- The greatest number that a text may spell. -/
def limit : Nat := 0x7FFFFFFF

/-- The value of a digit: letters are 0 to 25, decimal digits 26 to 35. -/
def digit? (u : CodeUnit) : Option Nat :=
  if 97 ≤ u && u ≤ 122 then some (u.toNat - 97)
  else if 48 ≤ u && u ≤ 57 then some (u.toNat - 22)
  else none

/-- The value from which on a digit at a place is not the last one of its number. -/
def threshold (place bias : Nat) : Nat :=
  if place ≤ bias then 1 else if bias + 26 ≤ place then 26 else place - bias

/-- How often a step is divided until it is small, and what is left of it. -/
def shrink (step : Nat) : Nat × Nat :=
  if _h : 455 < step then
    let (times, rest) := shrink (step / 35)
    (times + 1, rest)
  else (0, step)
termination_by step
decreasing_by omega

/-- The bias behind a step, from the number of points that there are then. -/
def adapt (step count : Nat) (first : Bool) : Nat :=
  let damped := if first then step / 700 else step / 2
  let (times, rest) := shrink (damped + damped / count)
  36 * times + 36 * rest / (rest + 38)

/-- A sum of digits at the beginning of a text, and what follows its last digit. -/
def number? (bias place weight sum : Nat) : Text → Option (Nat × Text)
  | [] => none
  | u :: r =>
    match digit? u with
    | none => none
    | some d =>
      if (limit - sum) / weight < d then none
      else
        let t := threshold place bias
        if d < t then some (sum + d * weight, r)
        else if limit / (36 - t) < weight then none
        else number? bias (place + 36) (weight * (36 - t)) (sum + d * weight) r

/-- What a number leaves is shorter than what it was read from. -/
theorem length_lt_of_number? {bias place weight sum n : Nat} {t r : Text}
    (h : number? bias place weight sum t = some (n, r)) : r.length < t.length := by
  fun_induction number? bias place weight sum t <;> simp_all
  omega

/-- The points read so far with those that the rest of a text inserts. `point` is the last one that
was inserted, `place` the place behind it. -/
def insertAll? (points : List Nat) (point place bias : Nat) (t : Text) : Option (List Nat) :=
  match t with
  | [] => some points
  | u :: r =>
    match _h : number? bias 36 1 place (u :: r) with
    | none => none
    | some (sum, rest) =>
      let count := points.length + 1
      let point' := point + sum / count
      if limit < point' || point' < 0x80 then none
      else
        insertAll? (points.insertIdx (sum % count) point') point' (sum % count + 1)
          (adapt (sum - place) count (place == 0)) rest
termination_by t.length
decreasing_by exact length_lt_of_number? _h

/-- The code points that a text in lower-case ASCII spells. -/
def decode? (t : Text) : Option (List Nat) :=
  let digits := (t.reverse.takeWhile (· ≠ unit '-')).reverse
  let plain := t.take (t.length - digits.length - 1)
  insertAll? (plain.map (·.toNat)) 128 0 72 digits

end ChatRelay.Url.Punycode
