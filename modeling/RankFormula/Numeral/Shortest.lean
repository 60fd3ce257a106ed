import RankFormula.Numeral.Decimal

/-!
# Shortest decimal digits

Of the decimals that round back to a floating value, `Floating.shortest` picks
one with the fewest digits, and among those the nearest to the value; a tie goes
to the even last digit. The search tries one digit count after the other and
tests the value's two neighbours on that decimal grid in exact arithmetic.
-/

namespace RankFormula
namespace Floating

/-- The reals that round to a positive value of a format, over one common
denominator: `low`, `value` and `high` are numerators over `unit`. -/
structure RoundingInterval where
  /-- Numerator of the lower end. -/
  low : Nat
  /-- Numerator of the value itself. -/
  value : Nat
  /-- Numerator of the upper end. -/
  high : Nat
  /-- The common denominator. -/
  unit : Nat
  /-- Whether the two ends round to the value as well. -/
  closed : Bool

/-- The interval of the value `significand * 2 ^ exponent`. Below a power of two
the neighbours stand closer, so the lower half is a quarter there. -/
def roundingInterval (f : FloatFormat) (significand : Nat) (exponent : Int) : RoundingInterval :=
  let scale := twoPow (exponent - 2).toNat
  let narrow := significand == twoPow (f.precision - 1) && decide (f.leastExponent < exponent)
  { low := (4 * significand - if narrow then 1 else 2) * scale
    value := 4 * significand * scale
    high := (4 * significand + 2) * scale
    unit := twoPow (2 - exponent).toNat
    closed := significand % 2 == 0 }

/-- Whether the decimal `coefficient * 10 ^ power` lies in an interval. -/
def RoundingInterval.contains (r : RoundingInterval) (coefficient : Nat) (power : Int) : Bool :=
  let point := coefficient * tenPow power.toNat * r.unit
  let grid := tenPow (-power).toNat
  let low := r.low * grid
  let high := r.high * grid
  (decide (low < point) && decide (point < high)) ||
    (r.closed && (decide (low = point) || decide (point = high)))

/-- The greatest coefficient whose decimal on the grid of `power` is not above
the value. -/
def RoundingInterval.below (r : RoundingInterval) (power : Int) : Nat :=
  (r.value * tenPow (-power).toNat) / (r.unit * tenPow power.toNat)

/-- The nearer of the two grid neighbours `c` and `c + 1` of the value; the even
one on a tie. -/
def RoundingInterval.nearer (r : RoundingInterval) (power : Int) (c : Nat) : Nat :=
  let twice := 2 * r.value * tenPow (-power).toNat
  let middle := (2 * c + 1) * tenPow power.toNat * r.unit
  if twice < middle then c else if middle < twice then c + 1 else c + c % 2

/-- The coefficient chosen on the grid of `power`, if one of the neighbours lies
in the interval. -/
def RoundingInterval.pick? (r : RoundingInterval) (power : Int) : Option Nat :=
  let c := r.below power
  match r.contains c power && decide (0 < c), r.contains (c + 1) power with
  | true, true => some (r.nearer power c)
  | true, false => some c
  | false, true => some (c + 1)
  | false, false => none

/-- The first grid, from `power` downward, that holds a decimal of the interval. -/
def RoundingInterval.search (r : RoundingInterval) : Nat → Int → Nat × Int
  | 0, power => (r.below power, power)
  | steps + 1, power =>
    match r.pick? power with
    | some c => (c, power)
    | none => r.search steps (power - 1)

/-- A power of ten not below the leading decimal digit of `significand * 2 ^ exponent`. -/
def leadingPower (significand : Nat) (exponent : Int) : Int :=
  Int.fdiv (((significand.log2 : Int) + exponent + 1) * 30103) 100000 + 1

/-- Removes trailing zeros of a coefficient, moving them into the exponent. -/
def trimZeros : Nat → Nat → Int → Nat × Int
  | 0, coefficient, exponent => (coefficient, exponent)
  | steps + 1, coefficient, exponent =>
    if coefficient ≠ 0 ∧ coefficient % 10 = 0 then trimZeros steps (coefficient / 10) (exponent + 1)
    else (coefficient, exponent)

/-- Coefficient and power of ten of the shortest decimal that rounds to the
positive value `significand * 2 ^ exponent`. -/
def shortest (f : FloatFormat) (significand : Nat) (exponent : Int) : Nat × Int :=
  let (c, p) :=
    (roundingInterval f significand exponent).search 24 (leadingPower significand exponent)
  trimZeros 24 c p

/-- The shortest decimal of a finite value. -/
def toDecimal? (f : FloatFormat) : Floating → Option Decimal
  | .finite negative significand exponent =>
    if significand = 0 then some ⟨negative, 0, 0⟩
    else
      let (c, p) := shortest f significand exponent
      some ⟨negative, c, p⟩
  | _ => none

end Floating
end RankFormula
