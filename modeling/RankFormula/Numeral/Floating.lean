/-!
# Binary floating-point values

A floating value is kept exactly: a sign, a significand and a power of two. A
`FloatFormat` says which of these pairs a format can hold. Rounding takes an
exact quotient of naturals to the nearest value of the format, a tie going to
the even significand, so no machine arithmetic enters the definitions. A signed
word lies from `-signedLimit` up to, but not including, `signedLimit`.
-/

namespace RankFormula

/-- A power of two. -/
def twoPow (n : Nat) : Nat := Nat.pow 2 n

/-- A power of ten. -/
def tenPow (n : Nat) : Nat := Nat.pow 10 n

/-- The number of words; sums and products of words wrap modulo it. -/
def wordModulus : Nat := 18446744073709551616

/-- The least number above all signed words. -/
def signedLimit : Nat := 9223372036854775808

/-- The least number above all signed words of half the width. -/
def signedHalfLimit : Nat := 2147483648

/-- A binary format: the significand stays below `2 ^ precision`, and the
exponent lies between the two bounds. -/
structure FloatFormat where
  /-- Number of bits of a significand. -/
  precision : Nat
  /-- Exponent of the smallest positive value. -/
  leastExponent : Int
  /-- Exponent of the largest finite values. -/
  greatestExponent : Int

/-- The 64-bit interchange format. -/
def FloatFormat.double : FloatFormat := ⟨53, -1074, 971⟩

/-- The 32-bit interchange format. -/
def FloatFormat.single : FloatFormat := ⟨24, -149, 104⟩

/-- A floating value; `finite` stands for `± significand * 2 ^ exponent`. -/
inductive Floating where
  /-- The result of no meaningful operation. -/
  | nan
  /-- A value beyond every finite one. -/
  | infinite (negative : Bool)
  /-- An exact value; zero keeps its sign. -/
  | finite (negative : Bool) (significand : Nat) (exponent : Int)
  deriving DecidableEq, Repr

/-- The quotient rounded to the nearest natural, a tie going to the even one. -/
def divNearest (num den : Nat) : Nat :=
  let quotient := num / den
  let remainder := num % den
  if 2 * remainder < den then quotient
  else if den < 2 * remainder then quotient + 1
  else quotient + quotient % 2

namespace Floating

/-- Whether the value is neither infinite nor the not-a-number value. -/
def isFinite : Floating → Bool
  | .finite _ _ _ => true
  | _ => false

/-- Numerator and denominator of `num / (den * 2 ^ exponent)`. -/
def scaledRatio (num den : Nat) (exponent : Int) : Nat × Nat :=
  (num * twoPow (-exponent).toNat, den * twoPow exponent.toNat)

/-- The exponent at which `num / den` has a significand of full precision,
raised to the least exponent of the format. -/
def roundingExponent (f : FloatFormat) (num den : Nat) : Int :=
  let guess : Int := (num.log2 : Int) - (den.log2 : Int) - (f.precision : Int)
  let (n, d) := scaledRatio num den guess
  max (if twoPow f.precision ≤ n / d then guess + 1 else guess) f.leastExponent

/-- The value of the format nearest to `± num / den`. -/
def ofRatio (f : FloatFormat) (negative : Bool) (num den : Nat) : Floating :=
  if num = 0 then .finite negative 0 f.leastExponent
  else
    let exponent := roundingExponent f num den
    let (n, d) := scaledRatio num den exponent
    let significand := divNearest n d
    let (significand, exponent) :=
      if significand = twoPow f.precision then (twoPow (f.precision - 1), exponent + 1)
      else (significand, exponent)
    if f.greatestExponent < exponent then .infinite negative
    else .finite negative significand exponent

/-- The value of the format nearest to an integer. -/
def ofInt (f : FloatFormat) (n : Int) : Floating :=
  ofRatio f (decide (n < 0)) n.natAbs 1

/-- The product of two values, rounded to the format. -/
def mul (f : FloatFormat) : Floating → Floating → Floating
  | .finite s m e, .finite t n d =>
    let exponent := e + d
    ofRatio f (s != t) (m * n * twoPow exponent.toNat) (twoPow (-exponent).toNat)
  | .nan, _ => .nan
  | _, .nan => .nan
  | .infinite s, .infinite t => .infinite (s != t)
  | .infinite s, .finite t n _ => if n = 0 then .nan else .infinite (s != t)
  | .finite s m _, .infinite t => if m = 0 then .nan else .infinite (s != t)

/-- The quotient of two values, rounded to the format. -/
def div (f : FloatFormat) : Floating → Floating → Floating
  | .finite s m e, .finite t n d =>
    let exponent := e - d
    if n = 0 then (if m = 0 then .nan else .infinite (s != t))
    else ofRatio f (s != t) (m * twoPow exponent.toNat) (n * twoPow (-exponent).toNat)
  | .nan, _ => .nan
  | _, .nan => .nan
  | .infinite _, .infinite _ => .nan
  | .infinite s, .finite t _ _ => .infinite (s != t)
  | .finite s _ _, .infinite t => .finite (s != t) 0 f.leastExponent

/-- The integer part of a finite value, toward zero. -/
def truncate? : Floating → Option Int
  | .finite negative significand exponent =>
    let magnitude : Int := (significand * twoPow exponent.toNat / twoPow (-exponent).toNat : Nat)
    some (if negative then -magnitude else magnitude)
  | _ => none

/-- What a finite value has beyond its integer part; it keeps the sign. -/
def fraction : Floating → Floating
  | .finite negative significand exponent =>
    .finite negative (significand % twoPow (-exponent).toNat) exponent
  | _ => .nan

/-- The value cut toward zero to a signed word; a value without one becomes the least word. -/
def toSignedWord (x : Floating) : Int :=
  let limit : Int := signedLimit
  match x.truncate? with
  | some n => if -limit ≤ n ∧ n < limit then n else -limit
  | none => -limit

end Floating
end RankFormula
