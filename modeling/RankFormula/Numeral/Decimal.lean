import RankFormula.Numeral.Floating

/-!
# Decimal numbers

`Decimal` is an exact decimal: a sign, a coefficient and a power of ten. Texts
are read into it and floating values are rounded from it, so that reading never
passes through an inexact intermediate value.
-/

namespace RankFormula

/-- The number `± coefficient * 10 ^ exponent`; zero keeps its sign. -/
structure Decimal where
  /-- Whether a minus sign stands in front. -/
  negative : Bool
  /-- The digits, read as a natural. -/
  coefficient : Nat
  /-- The power of ten that scales the coefficient. -/
  exponent : Int
  deriving DecidableEq, Repr

/-- Whether a character is one of the ten ASCII digits. -/
def isAsciiDigit (c : Char) : Bool := decide ('0' ≤ c) && decide (c ≤ '9')

/-- The value of an ASCII digit. -/
def digitValue (c : Char) : Nat := c.toNat - '0'.toNat

/-- The natural written by a string of digits, most significant first. -/
def digitsValue (cs : List Char) : Nat := cs.foldl (fun n c => 10 * n + digitValue c) 0

/-- The decimal digits of a natural, without leading zeros. -/
def decimalDigits (n : Nat) : List Char := Nat.toDigits 10 n

namespace Decimal

/-- An integer as a decimal. -/
def ofInt (n : Int) : Decimal := ⟨decide (n < 0), n.natAbs, 0⟩

/-- The decimal written with the given digits before and after the point. -/
def ofDigits (negative : Bool) (whole fraction : List Char) (exponent : Int) : Decimal :=
  ⟨negative, digitsValue (whole ++ fraction), exponent - fraction.length⟩

/-- Powers of ten beyond this one exceed every value of the formats in use. -/
def exponentLimit : Int := 400

/-- The value of the format nearest to a decimal. Exponents that put the value
beyond every format are settled without computing the power. -/
def toFloating (f : FloatFormat) (d : Decimal) : Floating :=
  if d.coefficient = 0 then .finite d.negative 0 f.leastExponent
  else if exponentLimit < d.exponent then .infinite d.negative
  else if d.exponent + (decimalDigits d.coefficient).length < -exponentLimit then
    .finite d.negative 0 f.leastExponent
  else
    Floating.ofRatio f d.negative (d.coefficient * tenPow d.exponent.toNat)
      (tenPow (-d.exponent).toNat)

/-- The integer a decimal stands for, if it is written without a fraction. -/
def toInt? (d : Decimal) : Option Int :=
  if d.coefficient = 0 then some 0
  else if d.exponent < 0 || exponentLimit < d.exponent then none
  else
    let magnitude : Int := (d.coefficient * tenPow d.exponent.toNat : Nat)
    some (if d.negative then -magnitude else magnitude)

end Decimal
end RankFormula
