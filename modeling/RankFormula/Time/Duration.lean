import RankFormula.Numeral.Integer
import RankFormula.Text.Hex
import RankFormula.Text.Utf8

/-!
# Durations

Texts for lengths of time: whole days such as `7d`, or numbers with units such as
`1h30m`. A duration is a signed 64-bit number of nanoseconds. The number of days
is multiplied modulo `2 ^ 64`; a text with units is refused instead when it
leaves the range.
-/

namespace RankFormula

/-- Why a text is no duration. -/
inductive DurationFault where
  /-- The text before a final `d` is no number of days. -/
  | invalidDays
  /-- The text is no list of numbers with units, or leaves the range. -/
  | invalid
  /-- A number without a unit. -/
  | missingUnit
  /-- A unit that is none. -/
  | unknownUnit (unit : String)
  deriving DecidableEq, Repr

/-- A byte inside quotes: quotes and backslashes are escaped, and bytes outside the
visible ASCII range are written by their value. -/
def quoteByte (b : UInt8) : List Char :=
  if b.toNat < 0x20 || 0x80 ≤ b.toNat then '\\' :: 'x' :: lowerHex 2 b.toNat
  else
    let c := Char.ofNat b.toNat
    if c = '"' || c = '\\' then ['\\', c] else [c]

/-- A text in quotes, byte by byte. -/
def quotedBytes (s : String) : String :=
  String.ofList ('"' :: (utf8Bytes s.toList).flatMap quoteByte ++ ['"'])

/-- The words of a fault of a text. -/
def DurationFault.message (value : String) : DurationFault → String
  | .invalidDays => "invalid time duration '" ++ value ++ "'"
  | .invalid =>
    "invalid time duration '" ++ value ++ "' : time: invalid duration " ++ quotedBytes value
  | .missingUnit =>
    "invalid time duration '" ++ value ++ "' : time: missing unit in duration " ++ quotedBytes value
  | .unknownUnit unit =>
    "invalid time duration '" ++ value ++ "' : time: unknown unit " ++ quotedBytes unit ++
      " in duration " ++ quotedBytes value

/-- The nanoseconds of a unit. -/
def unitNanos? : String → Option Nat
  | "ns" => some 1
  | "us" => some 1000
  | "\u00b5s" => some 1000
  | "\u03bcs" => some 1000
  | "ms" => some 1000000
  | "s" => some 1000000000
  | "m" => some 60000000000
  | "h" => some 3600000000000
  | _ => none

/-- Leading digits up to `2 ^ 63`, and the rest; `none` if they are more. -/
def leadingWhole : Nat → List Char → Option (Nat × List Char)
  | n, [] => some (n, [])
  | n, c :: cs =>
    if isAsciiDigit c then
      let next := 10 * n + digitValue c
      if signedLimit / 10 < n || signedLimit < next then none else leadingWhole next cs
    else some (n, c :: cs)

/-- The value of digits after a point and their number. Digits after the first
that would lead out of the range are ignored. -/
def fractionDigits : Nat → Nat → List Char → Nat × Nat
  | n, count, [] => (n, count)
  | n, count, c :: cs =>
    let next := 10 * n + digitValue c
    if (signedLimit - 1) / 10 < n || signedLimit < next then (n, count)
    else fractionDigits next (count + 1) cs

/-- A power of ten, multiplied up digit by digit in 64-bit floating numbers. From the
23rd on the powers are rounded, and from the 309th on they are infinite. -/
def decimalScale : Nat → Floating
  | 0 => .ofInt .double 1
  | digits + 1 => .mul .double (decimalScale digits) (.ofInt .double 10)

/-- The nanoseconds of a decimal fraction of a unit, computed in 64-bit floating
numbers and cut to a whole number. -/
def fractionNanos (fraction digits unit : Nat) : Nat :=
  let share := Floating.div .double (.ofInt .double unit) (decimalScale digits)
  let nanos := Floating.mul .double (.ofInt .double fraction) share
  (nanos.truncate?.getD 0).toNat

/-- Whether a character ends a unit. -/
def endsUnit (c : Char) : Bool := c = '.' || isAsciiDigit c

/-- The digits of a fraction, the rest, and whether there is a point. -/
def splitFraction : List Char → List Char × List Char × Bool
  | '.' :: rest => (rest.takeWhile isAsciiDigit, rest.dropWhile isAsciiDigit, true)
  | cs => ([], cs, false)

/-- A number with its unit: the nanoseconds, and the rest. -/
def readGroup (cs : List Char) : Except DurationFault (Nat × List Char) :=
  match leadingWhole 0 cs with
  | none => .error .invalid
  | some (whole, rest) =>
    let (fraction, rest, hasPoint) := splitFraction rest
    let hasWhole := (cs.head?.map isAsciiDigit).getD false
    if !hasWhole && !(hasPoint && !fraction.isEmpty) then .error .invalid
    else
      let unitText := rest.takeWhile (!endsUnit ·)
      if unitText.isEmpty then .error .missingUnit
      else
        match unitNanos? (String.ofList unitText) with
        | none => .error (.unknownUnit (String.ofList unitText))
        | some unit =>
          if signedLimit / unit < whole then .error .invalid
          else
            let (value, count) := fractionDigits 0 0 fraction
            let nanos := whole * unit + fractionNanos value count unit
            if signedLimit < nanos then .error .invalid
            else .ok (nanos, rest.dropWhile (!endsUnit ·))

/-- Adds up the groups of a text onto `total`; sums are taken modulo `2 ^ 64` and
may not exceed `2 ^ 63`. -/
def readGroups : Nat → Nat → List Char → Except DurationFault Nat
  | 0, total, _ => .ok total
  | _, total, [] => .ok total
  | steps + 1, total, cs => do
    let (nanos, rest) ← readGroup cs
    let sum := (total + nanos) % wordModulus
    if signedLimit < sum then .error .invalid else readGroups steps sum rest

/-- Whether a minus sign stands in front, and the text without its sign. -/
def splitSign : List Char → Bool × List Char
  | '-' :: rest => (true, rest)
  | '+' :: rest => (false, rest)
  | cs => (false, cs)

/-- The nanoseconds of a text of numbers with units. -/
def readUnits (cs : List Char) : Except DurationFault Int :=
  let (negative, cs) := splitSign cs
  if cs = ['0'] then .ok 0
  else if cs.isEmpty then .error .invalid
  else do
    let total ← readGroups cs.length 0 cs
    if negative then .ok (-(total : Int))
    else if total < signedLimit then .ok total
    else .error .invalid

/-- Nanoseconds in a day. -/
def nanosPerDay : Int := 86400000000000

/-- The nanoseconds of a number of days, modulo `2 ^ 64`. -/
def readDays (cs : List Char) : Except DurationFault Int :=
  match readInteger 10 cs with
  | .error _ => .error .invalidDays
  | .ok days =>
    if days < 0 then .error .invalidDays else .ok (Int.bmod (days * nanosPerDay) wordModulus)

/-- The nanoseconds of a duration text. -/
def readDuration (value : String) : Except DurationFault Int :=
  match value.toList.reverse with
  | 'd' :: c :: rest => readDays (c :: rest).reverse
  | _ => readUnits value.toList

end RankFormula
