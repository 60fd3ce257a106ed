import RankFormula.Numeral.Decimal

/-!
# Writing decimals

A `NumberLayout` holds the decisions of a number format: which magnitudes are
written positionally and how wide an exponent is at least. `Decimal.write`
applies one to a decimal.
-/

namespace RankFormula

/-- When a number is written positionally, and how its exponent looks otherwise. -/
structure NumberLayout where
  /-- The least exponent of the leading digit that is written positionally. -/
  positionalFrom : Int
  /-- The exponent of the leading digit from which on an exponent is written. -/
  exponentFrom : Int
  /-- The least number of digits of a written exponent. -/
  exponentWidth : Nat

/-- Digits with a point after the first `point` of them, filled up with zeros
where the point lies outside. -/
def placePoint (digits : List Char) (point : Int) : List Char :=
  if point ≤ 0 then '0' :: '.' :: (List.replicate (-point).toNat '0' ++ digits)
  else if (digits.length : Int) ≤ point then
    digits ++ List.replicate (point - digits.length).toNat '0'
  else
    digits.take point.toNat ++ '.' :: digits.drop point.toNat

/-- An exponent with its sign, padded to a width. -/
def writeExponent (width : Nat) (exponent : Int) : List Char :=
  let digits := decimalDigits exponent.natAbs
  'e' :: (if exponent < 0 then '-' else '+') ::
    (List.replicate (width - digits.length) '0' ++ digits)

/-- The text of a decimal under a layout. -/
def Decimal.write (layout : NumberLayout) (d : Decimal) : List Char :=
  let sign := if d.negative then ['-'] else []
  if d.coefficient = 0 then sign ++ ['0']
  else
    let digits := decimalDigits d.coefficient
    let leading : Int := d.exponent + digits.length - 1
    if layout.positionalFrom ≤ leading ∧ leading < layout.exponentFrom then
      sign ++ placePoint digits (leading + 1)
    else
      match digits with
      | [] => sign
      | [c] => sign ++ c :: writeExponent layout.exponentWidth leading
      | c :: rest => sign ++ c :: '.' :: (rest ++ writeExponent layout.exponentWidth leading)

end RankFormula
