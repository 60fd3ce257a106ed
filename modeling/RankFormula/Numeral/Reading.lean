import RankFormula.Numeral.Decimal

/-!
# Reading decimals

The parts of a written number, read from the front of a text, and whole floating
numbers made of them.
-/

namespace RankFormula

/-- The digits in front of a text, and the rest. -/
def spanDigits (cs : List Char) : List Char × List Char :=
  (cs.takeWhile isAsciiDigit, cs.dropWhile isAsciiDigit)

/-- The signed digits of an exponent. -/
def readSignedDigits (cs : List Char) : Option (Int × List Char) :=
  let (negative, cs) :=
    match cs with
    | '+' :: rest => (false, rest)
    | '-' :: rest => (true, rest)
    | _ => (false, cs)
  match spanDigits cs with
  | ([], _) => none
  | (digits, rest) =>
    let n : Int := digitsValue digits
    some (if negative then -n else n, rest)

/-- The power of ten of a number; zero if none is written. -/
def readExponent : List Char → Option (Int × List Char)
  | 'e' :: rest => readSignedDigits rest
  | 'E' :: rest => readSignedDigits rest
  | cs => some (0, cs)

/-- The decimal of a floating number: digits on at least one side of an optional
point, then an optional exponent. -/
def readFloatText? (cs : List Char) : Option Decimal :=
  let (whole, rest) := spanDigits cs
  let (fraction, rest) :=
    match rest with
    | '.' :: rest => spanDigits rest
    | _ => ([], rest)
  if whole.isEmpty && fraction.isEmpty then none
  else
    match readExponent rest with
    | some (exponent, []) => some (.ofDigits false whole fraction exponent)
    | _ => none

end RankFormula
