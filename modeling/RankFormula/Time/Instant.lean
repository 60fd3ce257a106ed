/-!
# Instants

An instant counts the nanoseconds since the start of year 1 in universal time,
so the order of instants and their distance are those of the integers. The
proleptic Gregorian calendar gives each day its date.
-/

namespace RankFormula

/-- A moment in time, in nanoseconds since `0001-01-01T00:00:00Z`. -/
structure Instant where
  /-- Nanoseconds since the start of year 1. -/
  nanoseconds : Int
  deriving DecidableEq, Repr, Inhabited

/-- Nanoseconds in a second. -/
def nanosPerSecond : Int := 1000000000

/-- Seconds in a day. -/
def secondsPerDay : Int := 86400

/-- Seconds from the start of year 1 to the start of 1970. -/
def unixEpochSeconds : Int := 62135596800

namespace Instant

/-- The start of year 1, which stands for a time that was never set. -/
def zero : Instant := ⟨0⟩

/-- Whether the instant stands for a time that was never set. -/
def isZero (t : Instant) : Bool := t.nanoseconds == 0

/-- The instant a number of seconds after the start of 1970. -/
def ofUnixSeconds (seconds : Int) : Instant := ⟨(seconds + unixEpochSeconds) * nanosPerSecond⟩

/-- The whole seconds since the start of 1970. -/
def unixSeconds (t : Instant) : Int := Int.fdiv t.nanoseconds nanosPerSecond - unixEpochSeconds

/-- The instant a number of milliseconds after the start of 1970. -/
def ofUnixMillis (millis : Int) : Instant :=
  ⟨millis * 1000000 + unixEpochSeconds * nanosPerSecond⟩

/-- The instant a number of nanoseconds later. -/
def addNanos (t : Instant) (nanos : Int) : Instant := ⟨t.nanoseconds + nanos⟩

end Instant

/-- A day of the calendar. -/
structure CivilDate where
  /-- The year. -/
  year : Int
  /-- The month, from 1 to 12. -/
  month : Nat
  /-- The day of the month, from 1. -/
  day : Nat
  deriving DecidableEq, Repr

/-- Whether a year has a day more. -/
def isLeapYear (year : Int) : Bool :=
  year % 4 == 0 && (year % 100 != 0 || year % 400 == 0)

/-- The lengths of the months of a year. -/
def monthLengths (year : Int) : List Nat :=
  [31, if isLeapYear year then 29 else 28, 31, 30, 31, 30, 31, 31, 30, 31, 30, 31]

/-- The days from the start of year 1 to the start of a year. -/
def daysBeforeYear (year : Int) : Int :=
  let past := year - 1
  365 * past + past / 4 - past / 100 + past / 400

namespace CivilDate

/-- Whether the date exists in the calendar. -/
def isValid (d : CivilDate) : Bool :=
  match (monthLengths d.year)[d.month - 1]? with
  | some length => decide (1 ≤ d.month) && decide (1 ≤ d.day) && decide (d.day ≤ length)
  | none => false

/-- The days of some months, given by their lengths. -/
def daysOf (lengths : List Nat) : Nat := lengths.foldl (· + ·) 0

/-- The days from the start of year 1 to a date. -/
def toDays (d : CivilDate) : Int :=
  daysBeforeYear d.year + daysOf ((monthLengths d.year).take (d.month - 1)) + (d.day : Int) - 1

/-- The month and day a number of days into months of the given lengths. -/
def monthAndDay : List Nat → Nat → Nat → Nat × Nat
  | [], month, days => (month, days + 1)
  | length :: lengths, month, days =>
    if days < length then (month, days + 1) else monthAndDay lengths (month + 1) (days - length)

/-- The year that contains a day, counted from the start of year 1. -/
def yearOfDays (days : Int) : Int :=
  let cycle := days / 146097
  let rest := days % 146097
  let century := min (rest / 36524) 3
  let rest := rest - century * 36524
  let olympiad := rest / 1461
  let rest := rest - olympiad * 1461
  400 * cycle + 100 * century + 4 * olympiad + min (rest / 365) 3 + 1

/-- The date a number of days after the start of year 1. -/
def ofDays (days : Int) : CivilDate :=
  let year := yearOfDays days
  let (month, day) := monthAndDay (monthLengths year) 1 (days - daysBeforeYear year).toNat
  ⟨year, month, day⟩

end CivilDate
end RankFormula
