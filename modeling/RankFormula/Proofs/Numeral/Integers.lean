import Mathlib.Algebra.Group.Nat.Defs
import RankFormula.Numeral.Decimal

/-!
# Integers are floating numbers

An integer whose magnitude has at most as many bits as a significand is not rounded, so its
floating number has it as the integer part and no fraction (`isInteger_toFloating_ofInt`).
-/

namespace RankFormula

/-- The integers of no more bits than a significand of 64-bit numbers has. -/
def IsExactInteger (n : Int) : Prop := n.natAbs < 2 ^ 53

instance (n : Int) : Decidable (IsExactInteger n) := inferInstanceAs (Decidable (_ < _))

namespace Floating

variable {m : Nat}

/-- A natural over one is scaled up by a power of two only. -/
theorem scaledRatio_natural (m shift : Nat) :
    scaledRatio m 1 (-(shift : Int)) = (m * 2 ^ shift, 1) := by
  rw [scaledRatio, Int.neg_neg, Int.toNat_natCast, Int.toNat_neg_natCast]
  rfl

/-- A natural of few bits is scaled up until it fills a significand. -/
theorem roundingExponent_natural (positive : 0 < m) (small : m < 2 ^ 53) :
    roundingExponent .double m 1 = -((52 - m.log2 : Nat) : Int) := by
  have bits : m.log2 < 53 := (Nat.log2_lt (by omega)).mpr small
  have one : Nat.log2 1 = 0 := by decide
  have guess : (m.log2 : Int) - ((0 : Nat) : Int) - ((53 : Nat) : Int) =
      -((53 - m.log2 : Nat) : Int) := by omega
  have fills : twoPow 53 ≤ m * 2 ^ (53 - m.log2) := by
    calc twoPow 53 = 2 ^ m.log2 * 2 ^ (53 - m.log2) := by
          rw [← Nat.pow_add, Nat.add_sub_cancel' (by omega)]
          rfl
      _ ≤ m * 2 ^ (53 - m.log2) := Nat.mul_le_mul_right _ (Nat.log2_self_le (by omega))
  unfold roundingExponent FloatFormat.double
  dsimp only
  rw [one, guess, scaledRatio_natural]
  dsimp only
  rw [Nat.div_one, if_pos fills]
  omega

/-- A natural of few bits is not rounded. -/
theorem ofRatio_natural (negative : Bool) (positive : 0 < m) (small : m < 2 ^ 53) :
    ofRatio .double negative m 1 =
      .finite negative (m * 2 ^ (52 - m.log2)) (-((52 - m.log2 : Nat) : Int)) := by
  have bits : m.log2 < 53 := (Nat.log2_lt (by omega)).mpr small
  have fits : m * 2 ^ (52 - m.log2) < 2 ^ 53 := by
    calc m * 2 ^ (52 - m.log2) < 2 ^ (m.log2 + 1) * 2 ^ (52 - m.log2) :=
          Nat.mul_lt_mul_of_pos_right Nat.lt_log2_self (Nat.two_pow_pos _)
      _ = 2 ^ 53 := by rw [← Nat.pow_add, show m.log2 + 1 + (52 - m.log2) = 53 by omega]
  have whole : divNearest (m * 2 ^ (52 - m.log2)) 1 = m * 2 ^ (52 - m.log2) := by
    simp [divNearest, Nat.mod_one]
  have unfilled : m * 2 ^ (52 - m.log2) ≠ twoPow FloatFormat.double.precision := Nat.ne_of_lt fits
  rw [ofRatio, if_neg (by omega), roundingExponent_natural positive small]
  dsimp only
  rw [scaledRatio_natural]
  dsimp only
  rw [whole, if_neg unfilled]
  dsimp only
  rw [if_neg]
  show ¬(971 : Int) < _
  omega

/-- A floating number is an integer: that is its integer part, and it has no fraction. -/
structure IsInteger (x : Floating) (n : Int) : Prop where
  /-- The integer part is the integer. -/
  truncated : x.truncate? = some n
  /-- Nothing is left beyond it. -/
  fractionless : ∃ negative exponent, x.fraction = .finite negative 0 exponent

/-- Zero of either sign is an integer. -/
theorem isInteger_zero (negative : Bool) (exponent : Int) :
    (finite negative 0 exponent).IsInteger 0 where
  truncated := by
    rw [truncate?, Nat.zero_mul, Nat.zero_div]
    cases negative <;> rfl
  fractionless := ⟨negative, exponent, by rw [fraction, Nat.zero_mod]⟩

/-- A natural that was scaled up by a power of two is scaled down again. -/
theorem isInteger_scaled (negative : Bool) (m shift : Nat) :
    (finite negative (m * 2 ^ shift) (-(shift : Int))).IsInteger
      (if negative then -(m : Int) else m) where
  truncated := by
    have magnitude :
        m * 2 ^ shift * twoPow (-(shift : Int)).toNat / twoPow (- -(shift : Int)).toNat = m := by
      rw [Int.toNat_neg_natCast, Int.neg_neg, Int.toNat_natCast, show twoPow 0 = 1 from rfl,
        Nat.mul_one]
      exact Nat.mul_div_cancel m (Nat.two_pow_pos shift)
    rw [truncate?, magnitude]
  fractionless := by
    have rest : m * 2 ^ shift % twoPow (- -(shift : Int)).toNat = 0 := by
      rw [Int.neg_neg, Int.toNat_natCast]
      exact Nat.mul_mod_left m (2 ^ shift)
    exact ⟨negative, -(shift : Int), by rw [fraction, rest]⟩

namespace IsInteger

variable {x : Floating} {n : Int}

/-- Integers are finite. -/
theorem isFinite (integer : x.IsInteger n) : x.isFinite = true := by
  cases x with
  | nan => cases integer.truncated
  | infinite => cases integer.truncated
  | finite => rfl

/-- An integer in the range of words is its own word. -/
theorem toSignedWord (integer : x.IsInteger n)
    (word : -(signedLimit : Int) ≤ n ∧ n < signedLimit) : x.toSignedWord = n := by
  rw [Floating.toSignedWord, integer.truncated]
  exact if_pos word

/-- The fraction of an integer is zero, in whatever unit it is counted. -/
theorem toSignedWord_mul_fraction (integer : x.IsInteger n) {unit : Floating}
    (counted : unit.isFinite = true) : (mul .double x.fraction unit).toSignedWord = 0 := by
  obtain ⟨negative, exponent, fractionless⟩ := integer.fractionless
  cases unit with
  | nan => cases counted
  | infinite => cases counted
  | finite sign significand scale =>
    have product : mul .double x.fraction (.finite sign significand scale) =
        .finite (negative != sign) 0 FloatFormat.double.leastExponent := by
      rw [fractionless, mul, Nat.zero_mul, Nat.zero_mul, ofRatio, if_pos rfl]
    rw [product]
    exact (isInteger_zero _ _).toSignedWord (by decide)

end IsInteger
end Floating

/-- The floating number of an integer is rounded from the integer over one. -/
theorem Decimal.toFloating_ofInt {n : Int} (nonzero : n ≠ 0) :
    (ofInt n).toFloating .double = .ofRatio .double (decide (n < 0)) n.natAbs 1 := by
  have digits : ¬(0 : Int) + (decimalDigits n.natAbs).length < -exponentLimit := by
    show ¬_ < (-400 : Int)
    omega
  have limit : ¬exponentLimit < 0 := by decide
  unfold toFloating ofInt
  dsimp only
  rw [if_neg (by omega), if_neg limit, if_neg digits]
  show Floating.ofRatio _ _ (n.natAbs * 1) 1 = _
  rw [Nat.mul_one]

/-- An integer of few bits is its own floating number. -/
theorem Decimal.isInteger_toFloating_ofInt {n : Int} (exactly : IsExactInteger n) :
    ((ofInt n).toFloating .double).IsInteger n := by
  by_cases zero : n = 0
  · subst zero
    exact Floating.isInteger_zero _ _
  · have sign : (if decide (n < 0) = true then -(n.natAbs : Int) else n.natAbs) = n := by
      by_cases negative : n < 0
      · rw [decide_eq_true negative, if_pos rfl]
        omega
      · rw [decide_eq_false negative, if_neg Bool.false_ne_true]
        omega
    have integer := Floating.isInteger_scaled (decide (n < 0)) n.natAbs (52 - n.natAbs.log2)
    rw [toFloating_ofInt zero, Floating.ofRatio_natural _ (by omega) exactly]
    rwa [sign] at integer

end RankFormula
