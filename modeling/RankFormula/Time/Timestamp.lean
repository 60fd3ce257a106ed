import RankFormula.Numeral.Decimal
import RankFormula.Time.Instant

/-!
# Timestamps

The text form of an instant: date, `T`, time of day, an optional fraction of a
second and an offset from universal time. A `ZonedTime` keeps the offset it was
written with and is written with it again, the fraction cut after its last nonzero
digit; an instant alone is written in universal time.
-/

namespace RankFormula

/-- The digits of a natural, filled with zeros up to a width. -/
def paddedDigits (width n : Nat) : List Char :=
  let digits := decimalDigits n
  List.replicate (width - digits.length) '0' ++ digits

/-- A fraction of a second with its point; nothing if it is zero. -/
def writeFraction (nanos : Nat) : List Char :=
  match (paddedDigits 9 nanos).reverse.dropWhile (· == '0') with
  | [] => []
  | digits => '.' :: digits.reverse

/-- An instant on a clock that is ahead of universal time by some seconds. -/
structure ZonedTime where
  /-- The instant. -/
  instant : Instant
  /-- The seconds by which the clock is ahead. -/
  offset : Int
  deriving DecidableEq, Repr, Inhabited

namespace ZonedTime

/-- An instant on the clock of universal time. -/
def utc (t : Instant) : ZonedTime := ⟨t, 0⟩

/-- A time that was never set. -/
def zero : ZonedTime := utc .zero

end ZonedTime

/-- An offset from universal time in seconds, written to the minute. -/
def writeOffset (offset : Int) : List Char :=
  if offset = 0 then ['Z']
  else
    let minutes := offset.natAbs / 60
    (if offset < 0 then '-' else '+') :: paddedDigits 2 (minutes / 60) ++
      ':' :: paddedDigits 2 (minutes % 60)

/-- The timestamp of a time. -/
def ZonedTime.write (t : ZonedTime) : String :=
  let seconds := Int.fdiv t.instant.nanoseconds nanosPerSecond + t.offset
  let nanos := (Int.fmod t.instant.nanoseconds nanosPerSecond).toNat
  let date := CivilDate.ofDays (Int.fdiv seconds secondsPerDay)
  let clock := (Int.fmod seconds secondsPerDay).toNat
  String.ofList <|
    paddedDigits 4 date.year.toNat ++ '-' :: paddedDigits 2 date.month ++
      '-' :: paddedDigits 2 date.day ++ 'T' :: paddedDigits 2 (clock / 3600) ++
      ':' :: paddedDigits 2 (clock / 60 % 60) ++ ':' :: paddedDigits 2 (clock % 60) ++
      writeFraction nanos ++ writeOffset t.offset

/-- The timestamp of an instant. -/
def Instant.write (t : Instant) : String := (ZonedTime.utc t).write

/-- Whether the four digits of a timestamp can hold the year of an instant. -/
def Instant.hasTimestamp (t : Instant) : Bool :=
  let days := Int.fdiv (Int.fdiv t.nanoseconds nanosPerSecond) secondsPerDay
  let year := (CivilDate.ofDays days).year
  decide (0 ≤ year ∧ year ≤ 9999)

/-- A number of exactly `width` digits in front of a text. -/
def readFixed (width : Nat) (cs : List Char) : Option (Nat × List Char) :=
  let digits := cs.take width
  if digits.length = width ∧ digits.all isAsciiDigit then some (digitsValue digits, cs.drop width)
  else none

/-- A number of one digit or two in front of a text. -/
def readHour (cs : List Char) : Option (Nat × List Char) :=
  (readFixed 2 cs).orElse fun _ => readFixed 1 cs

/-- Drops one expected character. -/
def expectChar (c : Char) : List Char → Option (List Char)
  | d :: rest => if d = c then some rest else none
  | [] => none

/-- The nanoseconds of an optional fraction, which a point or a comma begins; digits
beyond the ninth are dropped. -/
def readNanos : List Char → Option (Nat × List Char)
  | [] => some (0, [])
  | mark :: rest =>
    if mark = '.' ∨ mark = ',' then
      let digits := rest.takeWhile isAsciiDigit
      if digits.isEmpty then none
      else
        let nine := (digits ++ List.replicate 9 '0').take 9
        some (digitsValue nine, rest.dropWhile isAsciiDigit)
    else some (0, mark :: rest)

/-- The offset from universal time in seconds, which ends the text. A whole day and a
whole hour of minutes are let through. -/
def readOffset : List Char → Option Int
  | ['Z'] => some 0
  | sign :: rest => do
    let (hours, rest) ← readFixed 2 rest
    let rest ← expectChar ':' rest
    let (minutes, rest) ← readFixed 2 rest
    let offset : Int := (hours * 3600 + minutes * 60 : Nat)
    if !rest.isEmpty || 24 < hours || 60 < minutes then none
    else if sign = '+' then some offset
    else if sign = '-' then some (-offset)
    else none
  | [] => none

/-- The time of a timestamp. -/
def ZonedTime.read? (s : String) : Option ZonedTime := do
  let (year, cs) ← readFixed 4 s.toList
  let cs ← expectChar '-' cs
  let (month, cs) ← readFixed 2 cs
  let cs ← expectChar '-' cs
  let (day, cs) ← readFixed 2 cs
  let cs ← expectChar 'T' cs
  let (hour, cs) ← readHour cs
  let cs ← expectChar ':' cs
  let (minute, cs) ← readFixed 2 cs
  let cs ← expectChar ':' cs
  let (second, cs) ← readFixed 2 cs
  let (nanos, cs) ← readNanos cs
  let offset ← readOffset cs
  let date : CivilDate := ⟨year, month, day⟩
  if date.isValid && hour < 24 && minute < 60 && second < 60 then
    let clock : Int := (hour * 3600 + minute * 60 + second : Nat)
    let seconds := date.toDays * secondsPerDay + clock - offset
    some ⟨⟨seconds * nanosPerSecond + (nanos : Int)⟩, offset⟩
  else none

/-- The instant of a timestamp. -/
def Instant.read? (s : String) : Option Instant := (ZonedTime.read? s).map ZonedTime.instant

end RankFormula
