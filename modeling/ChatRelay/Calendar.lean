import ChatRelay.Text.Basic

/-!
# Moments in time

A moment is a number of milliseconds since the beginning of 1970, without leap seconds. `ofCivil`
finds the moment of a date and a time of day whose parts may run over: the day after the last of a
month is in the next one. `isoText` and `longText` write a moment, both in the time of Greenwich.
-/

namespace ChatRelay.Calendar

/-- Milliseconds since the beginning of 1970. -/
abbrev Moment := Int

/-- The milliseconds of a day. -/
def dayLength : Int := 86400000

/-- The number of days from the beginning of 1970 to the beginning of a month. Years are counted
from March, so that the leap day is the last day of a year, in eras of 400 years. -/
def daysToMonth (year month : Int) : Int :=
  let y := if month ≤ 2 then year - 1 else year
  let era := y.fdiv 400
  let yearOfEra := y - era * 400
  let dayOfYear := (153 * ((month + 9).fmod 12) + 2).fdiv 5
  era * 146097 + (yearOfEra * 365 + yearOfEra.fdiv 4 - yearOfEra.fdiv 100 + dayOfYear) - 719468

/-- The moment of a date and a time. A month beyond the twelfth is one of a later year. -/
def ofCivil (year month day hour minute second millisecond : Int) : Moment :=
  let year := year + (month - 1).fdiv 12
  let month := (month - 1).fmod 12 + 1
  (daysToMonth year month + day - 1) * dayLength +
    ((hour * 60 + minute) * 60 + second) * 1000 + millisecond

/-- The date of a day, counted from the beginning of 1970: year, month and day. -/
def dateOfDay (days : Int) : Int × Int × Int :=
  let z := days + 719468
  let era := z.fdiv 146097
  let dayOfEra := z - era * 146097
  let yearOfEra :=
    (dayOfEra - dayOfEra.fdiv 1460 + dayOfEra.fdiv 36524 - dayOfEra.fdiv 146096).fdiv 365
  let dayOfYear := dayOfEra - (365 * yearOfEra + yearOfEra.fdiv 4 - yearOfEra.fdiv 100)
  let shifted := (5 * dayOfYear + 2).fdiv 153
  let day := dayOfYear - (153 * shifted + 2).fdiv 5 + 1
  let month := if shifted < 10 then shifted + 3 else shifted - 9
  (yearOfEra + era * 400 + (if month ≤ 2 then 1 else 0), month, day)

/-- A number that is not negative, with at least so many digits. -/
def padded (width : Nat) (n : Int) : Text :=
  let digits := Text.ofNat n.toNat
  List.replicate (width - digits.length) (Text.unit '0') ++ digits

/-- The year of a date: four digits, and six behind a sign if that is not enough. -/
def isoYear (year : Int) : Text :=
  if 0 ≤ year ∧ year ≤ 9999 then padded 4 year
  else (if year < 0 then "-" else "+") ++ padded 6 year.natAbs

/-- The hours, minutes and seconds of a moment with colons between them. -/
def timeText (moment : Moment) : Text :=
  let seconds := (moment.fmod dayLength).fdiv 1000
  padded 2 (seconds.fdiv 3600) ++ ":" ++ padded 2 ((seconds.fdiv 60).fmod 60) ++ ":" ++
    padded 2 (seconds.fmod 60)

/-- A moment as `2001-12-14T21:59:43.100Z`. -/
def isoText (moment : Moment) : Text :=
  let (year, month, day) := dateOfDay (moment.fdiv dayLength)
  isoYear year ++ "-" ++ padded 2 month ++ "-" ++ padded 2 day ++ "T" ++ timeText moment ++ "." ++
    padded 3 (moment.fmod 1000) ++ "Z"

/-- The names of the days of the week; the first day of 1970 has the first one. -/
def dayNames : List Text := ["Thu", "Fri", "Sat", "Sun", "Mon", "Tue", "Wed"]

/-- The names of the months. -/
def monthNames : List Text :=
  ["Jan", "Feb", "Mar", "Apr", "May", "Jun", "Jul", "Aug", "Sep", "Oct", "Nov", "Dec"]

/-- A moment as `Fri Dec 14 2001 21:59:43 GMT+0000 (Coordinated Universal Time)`. -/
def longText (moment : Moment) : Text :=
  let days := moment.fdiv dayLength
  let (year, month, day) := dateOfDay days
  (dayNames[(days.fmod 7).toNat]?.getD []) ++ " " ++ (monthNames[(month - 1).toNat]?.getD []) ++
    " " ++ padded 2 day ++ " " ++ padded 4 year ++ " " ++ timeText moment ++
    " GMT+0000 (Coordinated Universal Time)"

end ChatRelay.Calendar
