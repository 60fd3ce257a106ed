import RankFormula.Time.Timestamp

/-!
# Times in configuration files

A scalar tagged as a time must be a date, alone or with a time of day. Months, days
and the parts of the time may be written with one digit, and an offset follows
the time if a letter stands between it and the date.
-/

namespace RankFormula
namespace Yaml

/-- A number of one or two digits, as long as possible. -/
def readShort? (cs : List Char) : Option (Nat × List Char) :=
  match readFixed 2 cs with
  | some found => some found
  | none => readFixed 1 cs

/-- The rest after a fraction of a second, which may be missing. -/
def dropFraction (cs : List Char) : List Char :=
  match cs with
  | c :: d :: rest =>
    if (c = '.' || c = ',') && isAsciiDigit d then rest.dropWhile isAsciiDigit else cs
  | _ => cs

/-- The rest after a time of day. -/
def dropTime? (cs : List Char) : Option (List Char) := do
  let (hour, cs) ← readShort? cs
  let cs ← expectChar ':' cs
  let (minute, cs) ← readShort? cs
  let cs ← expectChar ':' cs
  let (second, cs) ← readShort? cs
  if hour < 24 && minute < 60 && second < 60 then some (dropFraction cs) else none

/-- Whether some characters are an offset from universal time. -/
def isOffset (cs : List Char) : Bool :=
  match cs with
  | ['Z'] => true
  | [sign, a, b, ':', c, d] =>
    (sign = '+' || sign = '-') && [a, b, c, d].all isAsciiDigit &&
      decide (digitsValue [a, b] ≤ 24) && decide (digitsValue [c, d] ≤ 60)
  | _ => false

/-- Whether what follows a date is nothing, or a time of day. -/
def isTimePart : List Char → Bool
  | [] => true
  | ' ' :: rest => dropTime? rest = some []
  | c :: rest => (c = 'T' || c = 't') && ((dropTime? rest).map isOffset).getD false

/-- The date in front of some characters and what follows it. -/
def readDate? (cs : List Char) : Option (CivilDate × List Char) := do
  let (year, cs) ← readFixed 4 cs
  let cs ← expectChar '-' cs
  let (month, cs) ← readShort? cs
  let cs ← expectChar '-' cs
  let (day, cs) ← readShort? cs
  some (⟨year, month, day⟩, cs)

/-- Whether a text is a time. -/
def isTimestamp (text : String) : Bool :=
  match readDate? text.toList with
  | some (date, rest) => date.isValid && isTimePart rest
  | none => false

end Yaml
end RankFormula
