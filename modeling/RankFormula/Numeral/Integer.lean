import RankFormula.Numeral.Decimal

/-!
# Reading bounded integers

Integers are read from left to right into the unsigned 64-bit range and then
checked against the signed one. A digit that is not of the base is a malformed
text, a value that leaves the range is out of range, and whichever comes first
in the text decides.
-/

namespace RankFormula

/-- Why a text is no integer of the range. -/
inductive IntegerFault where
  /-- Some character is no digit of the base, or there is none at all. -/
  | malformed
  /-- The digits leave the range. -/
  | outOfRange
  deriving DecidableEq, Repr

/-- The words used for a fault. -/
def IntegerFault.message : IntegerFault → String
  | .malformed => "invalid syntax"
  | .outOfRange => "value out of range"

/-- The value of a digit or letter as a digit, up to base 36. -/
def baseDigit? (c : Char) : Option Nat :=
  if isAsciiDigit c then some (digitValue c)
  else if 'a' ≤ c ∧ c ≤ 'z' then some (c.toNat - 'a'.toNat + 10)
  else if 'A' ≤ c ∧ c ≤ 'Z' then some (c.toNat - 'A'.toNat + 10)
  else none

/-- Reads digits of a base onto an accumulated value below `2 ^ 64`. -/
def readDigits (base : Nat) : Nat → List Char → Except IntegerFault Nat
  | n, [] => .ok n
  | n, c :: cs =>
    match baseDigit? c with
    | none => .error .malformed
    | some d =>
      if base ≤ d then .error .malformed
      else if wordModulus ≤ base * n + d then .error .outOfRange
      else readDigits base (base * n + d) cs

/-- Reads an unsigned magnitude; at least one digit is required. -/
def readMagnitude (base : Nat) (cs : List Char) : Except IntegerFault Nat :=
  match cs with
  | [] => .error .malformed
  | _ => readDigits base 0 cs

/-- Applies a sign and checks the signed 64-bit range. -/
def signedInRange (negative : Bool) (n : Nat) : Except IntegerFault Int :=
  if negative then
    if signedLimit < n then .error .outOfRange else .ok (-(n : Int))
  else
    if signedLimit ≤ n then .error .outOfRange else .ok (n : Int)

/-- Reads a signed 64-bit integer in a base, with an optional sign in front. -/
def readInteger (base : Nat) (cs : List Char) : Except IntegerFault Int :=
  match cs with
  | '-' :: rest => readMagnitude base rest >>= signedInRange true
  | '+' :: rest => readMagnitude base rest >>= signedInRange false
  | _ => readMagnitude base cs >>= signedInRange false

end RankFormula
