import Mathlib.Algebra.Order.Field.Power
import Mathlib.Data.Rat.Cast.Order
import Mathlib.Tactic.FieldSimp
import Mathlib.Tactic.Linarith
import Mathlib.Tactic.Ring
import RankFormula.Numeral.Floating

/-!
# Which numbers round to a value

`Floating.ofRatio` finds an exponent, scales and rounds. `FloatFormat.RoundsTo` says the same of
rational numbers without an algorithm: from half the gap to the value below up to half the gap to
the value above, the ends only for an even significand. The main statement is
`ofRatio_of_roundsTo`; its one delicate case is a number just below a power of two, whose exponent
is found one too small and corrected by the carry of the significand.
-/

namespace RankFormula

/-- A power splits into a power in the numerator and one in the denominator. -/
theorem pow_toNat_div_pow_toNat (base : ℚ) (exponent : Int) :
    base ^ exponent.toNat / base ^ (-exponent).toNat = base ^ exponent := by
  cases exponent with
  | ofNat n => simp
  | negSucc n => simp [zpow_negSucc, Int.neg_negSucc]

/-- A natural is nearest to a number: at most a half away, and less than that if it is odd. -/
structure NearestNat (x : ℚ) (n : Nat) : Prop where
  /-- The number is not too small. -/
  above : (n : ℚ) - 1 / 2 ≤ x
  /-- The number is not too large. -/
  below : x ≤ n + 1 / 2
  /-- A tie is not for an odd natural. -/
  ties : n % 2 = 1 → (n : ℚ) - 1 / 2 < x ∧ x < n + 1 / 2

/-- The quotient is rounded to the nearest natural. -/
theorem divNearest_of_nearestNat {num den n : Nat} (positive : 0 < den)
    (nearest : NearestNat ((num : ℚ) / den) n) : divNearest num den = n := by
  have positiveRat : (0 : ℚ) < den := Nat.cast_pos.mpr positive
  have above : 2 * (n * den) ≤ 2 * num + den := by
    have scaled := (le_div_iff₀ positiveRat).mp nearest.above
    have doubled : (2 * (n * den) : ℚ) ≤ 2 * num + den := by linarith
    exact_mod_cast doubled
  have below : 2 * num ≤ 2 * (n * den) + den := by
    have scaled := (div_le_iff₀ positiveRat).mp nearest.below
    have doubled : (2 * num : ℚ) ≤ 2 * (n * den) + den := by linarith
    exact_mod_cast doubled
  have noTie (odd : n % 2 = 1) : 2 * (n * den) < 2 * num + den ∧ 2 * num < 2 * (n * den) + den := by
    have fromBelow := (lt_div_iff₀ positiveRat).mp (nearest.ties odd).1
    have fromAbove := (div_lt_iff₀ positiveRat).mp (nearest.ties odd).2
    have first : (2 * (n * den) : ℚ) < 2 * num + den := by linarith
    have second : (2 * num : ℚ) < 2 * (n * den) + den := by linarith
    exact ⟨by exact_mod_cast first, by exact_mod_cast second⟩
  have divided : num / den * den + num % den = num := Nat.div_add_mod' num den
  have remainder : num % den < den := Nat.mod_lt _ positive
  unfold divNearest
  dsimp only
  generalize num / den = quotient at *
  generalize num % den = rest at *
  -- The natural is the quotient or its successor.
  have notLess : quotient ≤ n := by
    by_contra less
    have scaled : (n + 1) * den ≤ quotient * den := Nat.mul_le_mul_right _ (by omega)
    rw [Nat.add_mul] at scaled
    omega
  have notMore : n ≤ quotient + 1 := by
    by_contra more
    have scaled : (quotient + 2) * den ≤ n * den := Nat.mul_le_mul_right _ (by omega)
    rw [Nat.add_mul] at scaled
    omega
  obtain rfl | rfl : n = quotient ∨ n = quotient + 1 := by omega
  · split
    · rfl
    · split <;> omega
  · rw [Nat.add_mul] at above below noTie
    split
    · omega
    · split <;> omega

namespace Floating

/-- Scaling is a product with a power of two. -/
theorem scaledRatio_div (num den : Nat) (exponent : Int) :
    ((scaledRatio num den exponent).1 : ℚ) / (scaledRatio num den exponent).2 =
      num / den * 2 ^ (-exponent) := by
  have power := pow_toNat_div_pow_toNat 2 (-exponent)
  rw [Int.neg_neg] at power
  have first : ((scaledRatio num den exponent).1 : ℚ) = num * 2 ^ (-exponent).toNat := by
    simp [scaledRatio, twoPow]
  have second : ((scaledRatio num den exponent).2 : ℚ) = den * 2 ^ exponent.toNat := by
    simp [scaledRatio, twoPow]
  rw [first, second, mul_div_mul_comm, power]

/-- Scaling keeps a denominator positive. -/
theorem scaledRatio_pos (num : Nat) {den : Nat} (positive : 0 < den) (exponent : Int) :
    0 < (scaledRatio num den exponent).2 :=
  Nat.mul_pos positive (Nat.two_pow_pos _)

end Floating

namespace FloatFormat

variable (f : FloatFormat)

/-- A number has an exponent in a format: it stays below all significands that are too long, and
reaches the full length unless the exponent is the least one. -/
structure Scales (x : ℚ) (exponent : Int) : Prop where
  /-- The exponent is in range. -/
  least : f.leastExponent ≤ exponent
  /-- The significand is not too long. -/
  below : x < 2 ^ ((f.precision : Int) + exponent)
  /-- The significand has full length. -/
  full : f.leastExponent < exponent → 2 ^ ((f.precision : Int) - 1 + exponent) ≤ x

variable {f}

/-- The exponent of one scaling is at most that of another. -/
theorem Scales.le {x : ℚ} {first second : Int} (here : f.Scales x first)
    (there : f.Scales x second) : first ≤ second := by
  by_contra above
  have full := here.full (lt_of_le_of_lt there.least (by omega))
  have powers := lt_of_le_of_lt full there.below
  have exponents := (zpow_lt_zpow_iff_right₀ (one_lt_two : (1 : ℚ) < 2)).mp powers
  omega

/-- A number has one exponent only. -/
theorem Scales.unique {x : ℚ} {first second : Int} (here : f.Scales x first)
    (there : f.Scales x second) : first = second :=
  le_antisymm (here.le there) (there.le here)

end FloatFormat

namespace Floating

/-- A natural lies between powers of two. -/
theorem log2_bounds {n : Nat} (positive : 0 < n) :
    (2 : ℚ) ^ (n.log2 : Int) ≤ n ∧ (n : ℚ) < 2 ^ ((n.log2 : Int) + 1) := by
  constructor
  · rw [zpow_natCast]
    exact_mod_cast Nat.log2_self_le (by omega)
  · rw [← Nat.cast_add_one, zpow_natCast]
    exact_mod_cast Nat.lt_log2_self

/-- A ratio of naturals lies between powers of two that are given by their lengths. -/
theorem ratio_bounds {num den : Nat} (numPositive : 0 < num) (denPositive : 0 < den) :
    (2 : ℚ) ^ ((num.log2 : Int) - den.log2 - 1) ≤ num / den ∧
      (num : ℚ) / den < 2 ^ ((num.log2 : Int) - den.log2 + 1) := by
  have two : (2 : ℚ) ≠ 0 := two_ne_zero
  have denPositiveRat : (0 : ℚ) < den := Nat.cast_pos.mpr denPositive
  obtain ⟨numLow, numHigh⟩ := log2_bounds numPositive
  obtain ⟨denLow, denHigh⟩ := log2_bounds denPositive
  constructor
  · rw [le_div_iff₀ denPositiveRat]
    calc (2 : ℚ) ^ ((num.log2 : Int) - den.log2 - 1) * den
        ≤ 2 ^ ((num.log2 : Int) - den.log2 - 1) * 2 ^ ((den.log2 : Int) + 1) := by
          gcongr
      _ = 2 ^ (num.log2 : Int) := by
          rw [← zpow_add₀ two]
          congr 1
          ring
      _ ≤ num := numLow
  · rw [div_lt_iff₀ denPositiveRat]
    calc (num : ℚ) < 2 ^ ((num.log2 : Int) + 1) := numHigh
      _ = 2 ^ ((num.log2 : Int) - den.log2 + 1) * 2 ^ (den.log2 : Int) := by
          rw [← zpow_add₀ two]
          congr 1
          ring
      _ ≤ 2 ^ ((num.log2 : Int) - den.log2 + 1) * den := by
          gcongr

/-- The exponent found for a ratio is the one that the ratio has. -/
theorem scales_roundingExponent (f : FloatFormat) {num den : Nat} (numPositive : 0 < num)
    (denPositive : 0 < den) : f.Scales (num / den) (roundingExponent f num den) := by
  obtain ⟨low, high⟩ := ratio_bounds numPositive denPositive
  have two : (2 : ℚ) ≠ 0 := two_ne_zero
  generalize guessed : (num.log2 : Int) - (den.log2 : Int) - (f.precision : Int) = guess
  have reaches : twoPow f.precision ≤
        (scaledRatio num den guess).1 / (scaledRatio num den guess).2 ↔
      (2 : ℚ) ^ ((f.precision : Int) + guess) ≤ num / den := by
    have positive := scaledRatio_pos num denPositive guess
    have positiveRat : (0 : ℚ) < (scaledRatio num den guess).2 := Nat.cast_pos.mpr positive
    have scaled := scaledRatio_div num den guess
    have inRat : twoPow f.precision * (scaledRatio num den guess).2 ≤
        (scaledRatio num den guess).1 ↔ (2 : ℚ) ^ (f.precision : Int) ≤
          (scaledRatio num den guess).1 / (scaledRatio num den guess).2 := by
      rw [le_div_iff₀ positiveRat, zpow_natCast]
      constructor
      · intro bound
        exact_mod_cast bound
      · intro bound
        exact_mod_cast bound
    rw [Nat.le_div_iff_mul_le positive, inRat, scaled, zpow_neg, ← div_eq_mul_inv,
      le_div_iff₀ (zpow_pos two_pos guess), ← zpow_add₀ two]
  unfold roundingExponent
  rw [guessed]
  dsimp only
  -- The guess is right or one too small; below the least exponent it does not count.
  have raised : ∀ exponent : Int, (num : ℚ) / den < 2 ^ ((f.precision : Int) + exponent) →
      2 ^ ((f.precision : Int) - 1 + exponent) ≤ (num : ℚ) / den →
      f.Scales (num / den) (max exponent f.leastExponent) := by
    intro exponent below full
    refine ⟨le_max_right _ _, lt_of_lt_of_le below ?_, fun least => ?_⟩
    · exact zpow_le_zpow_right₀ one_le_two (by omega)
    · rw [max_eq_left (by omega)]
      exact full
  split
  · next fits =>
    refine raised _ (lt_of_lt_of_eq high ?_) (le_of_eq_of_le ?_ (reaches.mp fits))
    · congr 1
      omega
    · congr 1
      omega
  · next short =>
    refine raised _ (lt_of_not_ge fun fits => short (reaches.mpr fits)) (le_of_eq_of_le ?_ low)
    congr 1
    omega

end Floating

namespace FloatFormat

variable (f : FloatFormat)

/-- A significand and an exponent are those of a positive value of the format. -/
structure Holds (significand : Nat) (exponent : Int) : Prop where
  /-- The value is positive. -/
  positive : 0 < significand
  /-- The significand is not too long. -/
  short : significand < 2 ^ f.precision
  /-- The exponent is not too small. -/
  least : f.leastExponent ≤ exponent
  /-- The exponent is not too large. -/
  greatest : exponent ≤ f.greatestExponent
  /-- The significand has full length unless the exponent is the least one. -/
  full : f.leastExponent < exponent → 2 ^ (f.precision - 1) ≤ significand

/-- Half the gap below a value, in units of its last place: below a power of two the values stand
closer. -/
def gapBelow (significand : Nat) (exponent : Int) : ℚ :=
  if significand = 2 ^ (f.precision - 1) ∧ f.leastExponent < exponent then 1 / 4 else 1 / 2

/-- Half way to the value below. -/
def lowerEnd (significand : Nat) (exponent : Int) : ℚ :=
  (significand - f.gapBelow significand exponent) * 2 ^ exponent

/-- Half way to the value above. -/
def upperEnd (significand : Nat) (exponent : Int) : ℚ := (significand + 1 / 2) * 2 ^ exponent

/-- A number is nearest to a value of the format: it lies between the two ends, and at an end only
if the significand is even. -/
structure RoundsTo (x : ℚ) (significand : Nat) (exponent : Int) : Prop where
  /-- The number is not too small. -/
  above : f.lowerEnd significand exponent ≤ x
  /-- The number is not too large. -/
  below : x ≤ upperEnd significand exponent
  /-- A tie is not for an odd significand. -/
  ties : significand % 2 = 1 →
    f.lowerEnd significand exponent < x ∧ x < upperEnd significand exponent

variable {f} {x : ℚ} {significand : Nat} {exponent : Int}

/-- The gap below is at most half a unit. -/
theorem gapBelow_le (f : FloatFormat) (significand : Nat) (exponent : Int) :
    f.gapBelow significand exponent ≤ 1 / 2 := by
  unfold gapBelow
  split <;> norm_num

/-- There is a gap below. -/
theorem gapBelow_pos (f : FloatFormat) (significand : Nat) (exponent : Int) :
    0 < f.gapBelow significand exponent := by
  unfold gapBelow
  split <;> norm_num

/-- The lower end is at least half a unit below the value. -/
theorem le_lowerEnd (f : FloatFormat) (significand : Nat) (exponent : Int) :
    ((significand : ℚ) - 1 / 2) * 2 ^ exponent ≤ f.lowerEnd significand exponent := by
  have gap := gapBelow_le f significand exponent
  unfold lowerEnd
  gcongr

/-- The lower end is below the value. -/
theorem lowerEnd_lt (f : FloatFormat) (significand : Nat) (exponent : Int) :
    f.lowerEnd significand exponent < significand * 2 ^ exponent := by
  have power : (0 : ℚ) < 2 ^ exponent := zpow_pos two_pos exponent
  have gap := gapBelow_pos f significand exponent
  unfold lowerEnd
  gcongr
  linarith

/-- The upper end is above the value. -/
theorem lt_upperEnd (significand : Nat) (exponent : Int) :
    (significand : ℚ) * 2 ^ exponent < upperEnd significand exponent := by
  have power : (0 : ℚ) < 2 ^ exponent := zpow_pos two_pos exponent
  unfold upperEnd
  gcongr
  linarith

/-- Scaled down, a number is nearest to the significand. -/
theorem RoundsTo.nearestNat (rounds : f.RoundsTo x significand exponent) :
    NearestNat (x * 2 ^ (-exponent)) significand := by
  have power : (0 : ℚ) < 2 ^ exponent := zpow_pos two_pos exponent
  have low := le_lowerEnd f significand exponent
  rw [zpow_neg, ← div_eq_mul_inv]
  refine ⟨(le_div_iff₀ power).mpr (le_trans low rounds.above),
    (div_le_iff₀ power).mpr rounds.below, fun odd => ?_⟩
  obtain ⟨above, below⟩ := rounds.ties odd
  exact ⟨(lt_div_iff₀ power).mpr (lt_of_le_of_lt low above), (div_lt_iff₀ power).mpr below⟩

/-- No number that rounds to a value is too large for the exponent of the value. -/
theorem RoundsTo.lt_zpow (rounds : f.RoundsTo x significand exponent)
    (holds : f.Holds significand exponent) : x < 2 ^ ((f.precision : Int) + exponent) := by
  have power : (0 : ℚ) < 2 ^ exponent := zpow_pos two_pos exponent
  have short : (significand : ℚ) + 1 ≤ 2 ^ f.precision := by exact_mod_cast holds.short
  calc x ≤ ((significand : ℚ) + 1 / 2) * 2 ^ exponent := rounds.below
    _ < 2 ^ f.precision * 2 ^ exponent := by
        gcongr
        linarith
    _ = 2 ^ ((f.precision : Int) + exponent) := by rw [zpow_add₀ two_ne_zero, zpow_natCast]

/-- Just below a power of two a number has the next smaller exponent, and is nearest to a
significand that is one bit too long. -/
theorem RoundsTo.of_short (rounds : f.RoundsTo x significand exponent)
    (holds : f.Holds significand exponent) (bits : 2 ≤ f.precision)
    (least : f.leastExponent < exponent) (short : x < 2 ^ ((f.precision : Int) - 1 + exponent)) :
    significand = 2 ^ (f.precision - 1) ∧ f.Scales x (exponent - 1) ∧
      NearestNat (x * 2 ^ (-(exponent - 1))) (2 ^ f.precision) := by
  have power : (0 : ℚ) < 2 ^ exponent := zpow_pos two_pos exponent
  have half : (2 : ℚ) ^ ((f.precision : Int) - 1 + exponent) =
      2 ^ (f.precision - 1) * 2 ^ exponent := by
    rw [zpow_add₀ two_ne_zero, ← zpow_natCast]
    congr 2
    omega
  rw [half] at short
  have first : significand = 2 ^ (f.precision - 1) := by
    -- Any larger significand leaves no room below the power.
    refine le_antisymm (Nat.le_of_not_lt fun more => ?_) (holds.full least)
    have next : (2 : ℚ) ^ (f.precision - 1) + 1 ≤ significand := by exact_mod_cast more
    have reaches : (2 : ℚ) ^ (f.precision - 1) * 2 ^ exponent ≤
        ((significand : ℚ) - 1 / 2) * 2 ^ exponent := by
      gcongr
      linarith
    have low := le_lowerEnd f significand exponent
    exact absurd (le_trans reaches (le_trans low rounds.above)) (not_le.mpr short)
  have above := rounds.above
  rw [lowerEnd, gapBelow, if_pos ⟨first, least⟩, first] at above
  push_cast at above
  have doubled : (2 : ℚ) ^ f.precision = 2 * 2 ^ (f.precision - 1) := by
    rw [← pow_succ']
    congr 1
    omega
  have shifted : (2 : ℚ) ^ exponent = 2 * 2 ^ (exponent - 1) := by
    rw [zpow_sub_one₀ two_ne_zero]
    ring
  have large : (2 : ℚ) ≤ 2 ^ (f.precision - 1) := by
    calc (2 : ℚ) = 2 ^ 1 := (pow_one 2).symm
      _ ≤ 2 ^ (f.precision - 1) := pow_le_pow_right₀ one_le_two (by omega)
  have smaller : (0 : ℚ) < 2 ^ (exponent - 1) := zpow_pos two_pos _
  rw [shifted] at above short
  refine ⟨first, ⟨by omega, ?_, fun _ => ?_⟩, ?_⟩
  · rw [zpow_add₀ two_ne_zero, zpow_natCast, doubled]
    linarith
  · have lower : (2 : ℚ) ^ ((f.precision : Int) - 1 + (exponent - 1)) =
        2 ^ (f.precision - 1) * 2 ^ (exponent - 1) := by
      rw [zpow_add₀ two_ne_zero, ← zpow_natCast (2 : ℚ) (f.precision - 1)]
      congr 2
      omega
    rw [lower]
    nlinarith
  · rw [zpow_neg, ← div_eq_mul_inv]
    refine ⟨(le_div_iff₀ smaller).mpr ?_, (div_le_iff₀ smaller).mpr ?_, fun odd => ?_⟩
    · push_cast
      rw [doubled]
      linarith
    · push_cast
      rw [doubled]
      linarith
    · have even : 2 ^ f.precision % 2 = 0 := by
        rw [show f.precision = f.precision - 1 + 1 by omega, Nat.pow_succ]
        exact Nat.mul_mod_left _ _
      omega

end FloatFormat

namespace Floating

/-- A ratio that rounds to a value is rounded to it. -/
theorem ofRatio_of_roundsTo {f : FloatFormat} {num den significand : Nat} {exponent : Int}
    (bits : 2 ≤ f.precision) (numPositive : 0 < num) (denPositive : 0 < den)
    (holds : f.Holds significand exponent)
    (rounds : f.RoundsTo (num / den) significand exponent) (negative : Bool) :
    ofRatio f negative num den = .finite negative significand exponent := by
  have scales := scales_roundingExponent f numPositive denPositive
  have nonzero : num ≠ 0 := by omega
  by_cases short : f.leastExponent < exponent ∧
      (num : ℚ) / den < 2 ^ ((f.precision : Int) - 1 + exponent)
  · obtain ⟨first, scalesBelow, nearest⟩ := rounds.of_short holds bits short.1 short.2
    have found : roundingExponent f num den = exponent - 1 := scales.unique scalesBelow
    rw [← scaledRatio_div] at nearest
    have carried := divNearest_of_nearestNat (scaledRatio_pos _ denPositive _) nearest
    have range : ¬f.greatestExponent < exponent := not_lt.mpr holds.greatest
    simp only [ofRatio, nonzero, found, carried, if_false]
    rw [if_pos (show 2 ^ f.precision = twoPow f.precision from rfl)]
    simp only [Int.sub_add_cancel, range, if_false, first]
    rfl
  · have scalesHere : f.Scales (num / den) exponent :=
      ⟨holds.least, rounds.lt_zpow holds, fun least => not_lt.mp fun less => short ⟨least, less⟩⟩
    have found : roundingExponent f num den = exponent := scales.unique scalesHere
    have nearest := rounds.nearestNat
    rw [← scaledRatio_div] at nearest
    have kept := divNearest_of_nearestNat (scaledRatio_pos _ denPositive _) nearest
    have noCarry : significand ≠ twoPow f.precision := ne_of_lt holds.short
    have range : ¬f.greatestExponent < exponent := not_lt.mpr holds.greatest
    simp only [ofRatio, nonzero, found, kept, noCarry, range, if_false]

end Floating
end RankFormula
