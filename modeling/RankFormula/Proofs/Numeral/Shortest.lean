import Mathlib.Tactic.NormNum
import RankFormula.Numeral.Shortest
import RankFormula.Proofs.Numeral.Rounding

/-!
# The shortest decimal reads back

A decimal in the rounding interval of a value rounds to the value, and the search for the shortest
one ends in such a decimal: on the last grid that it tries the steps are smaller than half a gap,
so the first decimal above the value is still in the interval. The main statement is
`toFloating_shortest`.
-/

namespace RankFormula

/-- Multiplied by the power in its denominator, a power is the one in its numerator. -/
theorem zpow_mul_pow_toNat (base : ℚ) (nonzero : base ≠ 0) (exponent : Int) :
    base ^ exponent * base ^ (-exponent).toNat = base ^ exponent.toNat := by
  rw [← pow_toNat_div_pow_toNat, div_mul_cancel₀ _ (pow_ne_zero _ nonzero)]

/-- A power of ten is smaller than a power of two of about ten thirds of its exponent. -/
theorem ten_zpow_lt_two_zpow {power exponent : Int}
    (positive : 0 ≤ power → 10 * power < 3 * exponent)
    (negative : power < 0 → 33 * power < 10 * exponent) : (10 : ℚ) ^ power < 2 ^ exponent := by
  by_cases sign : 0 ≤ power
  · refine lt_of_pow_lt_pow_left₀ 3 (zpow_pos two_pos _).le ?_
    calc ((10 : ℚ) ^ power) ^ 3 = (10 ^ 3) ^ power := by
          rw [← zpow_natCast, ← zpow_natCast, ← zpow_mul, ← zpow_mul, mul_comm]
      _ ≤ (2 ^ 10) ^ power := zpow_le_zpow_left₀ sign (by norm_num) (by norm_num)
      _ = 2 ^ (10 * power) := by rw [← zpow_natCast, ← zpow_mul]; rfl
      _ < 2 ^ (exponent * 3) := zpow_lt_zpow_right₀ one_lt_two (by have := positive sign; omega)
      _ = (2 ^ exponent) ^ 3 := by rw [zpow_mul]; rfl
  · have below : power < 0 := not_le.mp sign
    refine lt_of_pow_lt_pow_left₀ 10 (zpow_pos two_pos _).le ?_
    have smaller : (2 : ℚ) ^ (33 * -power) ≤ 10 ^ (10 * -power) := by
      calc (2 : ℚ) ^ (33 * -power) = (2 ^ 33) ^ (-power) := by rw [zpow_mul]; rfl
        _ ≤ (10 ^ 10) ^ (-power) := zpow_le_zpow_left₀ (by omega) (by norm_num) (by norm_num)
        _ = 10 ^ (10 * -power) := by rw [zpow_mul]; rfl
    calc ((10 : ℚ) ^ power) ^ 10 = (10 ^ (10 * -power))⁻¹ := by
          rw [← zpow_neg, ← zpow_natCast, ← zpow_mul]
          congr 1
          push_cast
          ring
      _ ≤ (2 ^ (33 * -power))⁻¹ := inv_anti₀ (zpow_pos two_pos _) smaller
      _ = 2 ^ (33 * power) := by rw [← zpow_neg]; congr 1; ring
      _ < 2 ^ (exponent * 10) := zpow_lt_zpow_right₀ one_lt_two (by have := negative below; omega)
      _ = (2 ^ exponent) ^ 10 := by rw [zpow_mul]; rfl

section Units

variable {unit x y : ℚ} {m n : Nat}

/-- Naturals compare as the numbers that they are in some unit. -/
theorem natLt_iff_of_mul_eq (positive : 0 < unit) (first : x * unit = m) (second : y * unit = n) :
    m < n ↔ x < y := by
  rw [← mul_lt_mul_iff_of_pos_right positive, first, second, Nat.cast_lt]

/-- Naturals are equal as the numbers that they are in some unit. -/
theorem natEq_iff_of_mul_eq (positive : 0 < unit) (first : x * unit = m) (second : y * unit = n) :
    m = n ↔ x = y := by
  rw [← mul_left_inj' positive.ne', first, second, Nat.cast_inj]

end Units

namespace Floating

section Interval

variable {f : FloatFormat} {significand : Nat} {exponent : Int}

/-- What an interval and a grid are compared over. -/
def commonUnit (exponent power : Int) : ℚ :=
  2 ^ (2 - exponent).toNat * 10 ^ (-power).toNat

/-- The common unit is positive. -/
theorem commonUnit_pos (exponent power : Int) : 0 < commonUnit exponent power := by
  unfold commonUnit
  positivity

/-- A decimal in common units. -/
theorem decimal_mul_commonUnit (coefficient : Nat) (exponent power : Int) :
    (coefficient : ℚ) * 10 ^ power * commonUnit exponent power =
      ((coefficient * tenPow power.toNat * twoPow (2 - exponent).toNat : Nat) : ℚ) := by
  have tens := zpow_mul_pow_toNat 10 (by norm_num) power
  have asNat : ((coefficient * tenPow power.toNat * twoPow (2 - exponent).toNat : Nat) : ℚ) =
      coefficient * 10 ^ power.toNat * 2 ^ (2 - exponent).toNat := by
    simp [tenPow, twoPow]
  rw [asNat, commonUnit, ← tens]
  ring

/-- A multiple of a quarter of the last place in common units. -/
theorem quarters_mul_commonUnit (quarters : Nat) (exponent power : Int) :
    (quarters : ℚ) / 4 * 2 ^ exponent * commonUnit exponent power =
      ((quarters * twoPow (exponent - 2).toNat * tenPow (-power).toNat : Nat) : ℚ) := by
  have twos := zpow_mul_pow_toNat 2 two_ne_zero (exponent - 2)
  rw [Int.neg_sub] at twos
  have shifted : (2 : ℚ) ^ exponent = 4 * 2 ^ (exponent - 2) := by
    rw [zpow_sub₀ two_ne_zero]
    norm_num
    ring
  have asNat : ((quarters * twoPow (exponent - 2).toNat * tenPow (-power).toNat : Nat) : ℚ) =
      quarters * 2 ^ (exponent - 2).toNat * 10 ^ (-power).toNat := by
    simp [tenPow, twoPow]
  rw [asNat, commonUnit, ← twos, shifted]
  ring

/-- The lower end of a rounding interval, in quarters of the last place. -/
def lowQuarters (f : FloatFormat) (significand : Nat) (exponent : Int) : Nat :=
  4 * significand - if (significand == twoPow (f.precision - 1) &&
    decide (f.leastExponent < exponent)) = true then 1 else 2

/-- The lower end of the interval is that of the numbers that round to the value. -/
theorem lowQuarters_div (positive : 0 < significand) :
    (lowQuarters f significand exponent : ℚ) / 4 * 2 ^ exponent =
      f.lowerEnd significand exponent := by
  have same : (significand == twoPow (f.precision - 1) &&
      decide (f.leastExponent < exponent)) = true ↔
        significand = 2 ^ (f.precision - 1) ∧ f.leastExponent < exponent := by
    rw [Bool.and_eq_true, beq_iff_eq, decide_eq_true_iff]
    rfl
  unfold FloatFormat.lowerEnd FloatFormat.gapBelow lowQuarters
  congr 1
  by_cases narrow : significand = 2 ^ (f.precision - 1) ∧ f.leastExponent < exponent
  · rw [if_pos narrow, if_pos (same.mpr narrow), Nat.cast_sub (by omega)]
    push_cast
    ring
  · rw [if_neg narrow, if_neg (same.not.mpr narrow), Nat.cast_sub (by omega)]
    push_cast
    ring

/-- So is the upper end. -/
theorem highQuarters_div (significand : Nat) (exponent : Int) :
    ((4 * significand + 2 : Nat) : ℚ) / 4 * 2 ^ exponent =
      FloatFormat.upperEnd significand exponent := by
  unfold FloatFormat.upperEnd
  push_cast
  ring

/-- The lower end of an interval as a natural. -/
theorem low_roundingInterval : (roundingInterval f significand exponent).low =
    lowQuarters f significand exponent * twoPow (exponent - 2).toNat := rfl

/-- The upper end of an interval as a natural. -/
theorem high_roundingInterval : (roundingInterval f significand exponent).high =
    (4 * significand + 2) * twoPow (exponent - 2).toNat := rfl

/-- The denominator of an interval. -/
theorem unit_roundingInterval :
    (roundingInterval f significand exponent).unit = twoPow (2 - exponent).toNat := rfl

/-- The ends of an interval belong to it if the significand is even. -/
theorem closed_roundingInterval :
    (roundingInterval f significand exponent).closed = (significand % 2 == 0) := rfl

/-- The decimals in the rounding interval of a value are those that round to it. -/
theorem contains_iff_roundsTo (positive : 0 < significand) (coefficient : Nat) (power : Int) :
    (roundingInterval f significand exponent).contains coefficient power = true ↔
      f.RoundsTo (coefficient * 10 ^ power) significand exponent := by
  have unit := commonUnit_pos exponent power
  have point := decimal_mul_commonUnit coefficient exponent power
  have low := quarters_mul_commonUnit (lowQuarters f significand exponent) exponent power
  have high := quarters_mul_commonUnit (4 * significand + 2) exponent power
  rw [lowQuarters_div positive] at low
  rw [highQuarters_div] at high
  have ordered : f.lowerEnd significand exponent ≤ FloatFormat.upperEnd significand exponent :=
    ((f.lowerEnd_lt significand exponent).trans (FloatFormat.lt_upperEnd _ _)).le
  unfold RoundingInterval.contains
  dsimp only
  rw [low_roundingInterval, high_roundingInterval, unit_roundingInterval, closed_roundingInterval]
  generalize lowQuarters f significand exponent * twoPow (exponent - 2).toNat *
    tenPow (-power).toNat = lowNat at *
  generalize (4 * significand + 2) * twoPow (exponent - 2).toNat *
    tenPow (-power).toNat = highNat at *
  generalize coefficient * tenPow power.toNat * twoPow (2 - exponent).toNat = pointNat at *
  have lowLt := natLt_iff_of_mul_eq unit low point
  have ltHigh := natLt_iff_of_mul_eq unit point high
  have lowEq := natEq_iff_of_mul_eq unit low point
  have eqHigh := natEq_iff_of_mul_eq unit point high
  simp only [Bool.or_eq_true, Bool.and_eq_true, decide_eq_true_iff, beq_iff_eq, lowLt, ltHigh,
    lowEq, eqHigh]
  constructor
  · rintro (⟨above, below⟩ | ⟨even, atLow | atHigh⟩)
    · exact ⟨above.le, below.le, fun _ => ⟨above, below⟩⟩
    · exact ⟨atLow.le, atLow ▸ ordered, fun odd => by omega⟩
    · exact ⟨atHigh ▸ ordered, atHigh.le, fun odd => by omega⟩
  · intro rounds
    by_cases odd : significand % 2 = 1
    · exact .inl (rounds.ties odd)
    · rcases rounds.above.lt_or_eq with above | atLow
      · rcases rounds.below.lt_or_eq with below | atHigh
        · exact .inl ⟨above, below⟩
        · exact .inr ⟨by omega, .inr atHigh⟩
      · exact .inr ⟨by omega, .inl atLow⟩

/-- The value lies between the two neighbours on a grid. -/
theorem below_bounds (significand : Nat) (exponent power : Int) :
    ((roundingInterval f significand exponent).below power : ℚ) * 10 ^ power ≤
        significand * 2 ^ exponent ∧
      significand * 2 ^ exponent <
        (((roundingInterval f significand exponent).below power + 1 : Nat) : ℚ) * 10 ^ power := by
  have unit := commonUnit_pos exponent power
  have value := quarters_mul_commonUnit (4 * significand) exponent power
  have whole : ((4 * significand : Nat) : ℚ) / 4 = significand := by
    push_cast
    ring
  rw [whole] at value
  have positive : 0 < twoPow (2 - exponent).toNat * tenPow power.toNat :=
    Nat.mul_pos (Nat.two_pow_pos _) (Nat.pow_pos (by decide))
  have found : (roundingInterval f significand exponent).below power =
      4 * significand * twoPow (exponent - 2).toNat * tenPow (-power).toNat /
        (twoPow (2 - exponent).toNat * tenPow power.toNat) := rfl
  have scale (coefficient : Nat) : coefficient * tenPow power.toNat * twoPow (2 - exponent).toNat =
      coefficient * (twoPow (2 - exponent).toNat * tenPow power.toNat) := by
    rw [Nat.mul_assoc, Nat.mul_comm (tenPow _)]
  rw [found]
  constructor
  · rw [← not_lt, ← natLt_iff_of_mul_eq unit value (decimal_mul_commonUnit _ _ _), scale, not_lt]
    exact Nat.div_mul_le_self _ _
  · rw [← natLt_iff_of_mul_eq unit value (decimal_mul_commonUnit _ _ _), scale, Nat.add_mul,
      Nat.one_mul]
    exact Nat.lt_div_mul_add positive

/-- On a grid whose steps are smaller than half a gap, the first decimal above the value is in its
interval. -/
theorem contains_succ_below (positive : 0 < significand) {power : Int}
    (fine : (10 : ℚ) ^ power < 2 ^ (exponent - 1)) :
    (roundingInterval f significand exponent).contains
      ((roundingInterval f significand exponent).below power + 1) power = true := by
  obtain ⟨notAbove, above⟩ := below_bounds (f := f) significand exponent power
  have half : (2 : ℚ) ^ (exponent - 1) = 1 / 2 * 2 ^ exponent := by
    rw [zpow_sub_one₀ two_ne_zero]
    ring
  have low := lt_trans (f.lowerEnd_lt significand exponent) above
  have high : (((roundingInterval f significand exponent).below power + 1 : Nat) : ℚ) * 10 ^ power <
      FloatFormat.upperEnd significand exponent := by
    rw [half] at fine
    unfold FloatFormat.upperEnd
    push_cast
    linarith
  rw [contains_iff_roundsTo positive]
  exact ⟨low.le, high.le, fun _ => ⟨low, high⟩⟩

end Interval

section Search

variable {r : RoundingInterval} {power : Int}

/-- What is picked on a grid is positive and in the interval. -/
theorem contains_of_pick? {coefficient : Nat} (picked : r.pick? power = some coefficient) :
    0 < coefficient ∧ r.contains coefficient power = true := by
  unfold RoundingInterval.pick? at picked
  dsimp only at picked
  split at picked
  · next first second =>
    rw [Bool.and_eq_true, decide_eq_true_iff] at first
    obtain rfl := Option.some.inj picked
    -- Whichever neighbour is nearer, it is one of the two.
    have neighbour : r.nearer power (r.below power) = r.below power ∨
        r.nearer power (r.below power) = r.below power + 1 := by
      unfold RoundingInterval.nearer
      dsimp only
      split
      · exact .inl rfl
      · split
        · exact .inr rfl
        · omega
    rcases neighbour with same | next
    · rw [same]
      exact ⟨first.2, first.1⟩
    · rw [next]
      exact ⟨Nat.succ_pos _, second⟩
  · next first _ =>
    rw [Bool.and_eq_true, decide_eq_true_iff] at first
    obtain rfl := Option.some.inj picked
    exact ⟨first.2, first.1⟩
  · next _ second =>
    obtain rfl := Option.some.inj picked
    exact ⟨Nat.succ_pos _, second⟩
  · cases picked

/-- Where the neighbour above is in the interval something is picked. -/
theorem isSome_pick? (above : r.contains (r.below power + 1) power = true) :
    (r.pick? power).isSome = true := by
  unfold RoundingInterval.pick?
  dsimp only
  rw [above]
  split <;> simp_all

/-- A search that passes a grid on which something is picked ends in the interval. -/
theorem contains_search {steps : Nat} {power : Int} {passed : Nat} (inReach : passed < steps)
    (found : (r.pick? (power - passed)).isSome = true) :
    0 < (r.search steps power).1 ∧
      r.contains (r.search steps power).1 (r.search steps power).2 = true := by
  induction steps generalizing power passed with
  | zero => omega
  | succ steps ih =>
    rw [RoundingInterval.search]
    cases picked : r.pick? power with
    | some coefficient => exact contains_of_pick? picked
    | none =>
      cases passed with
      | zero =>
        rw [Nat.cast_zero, Int.sub_zero, picked] at found
        cases found
      | succ passed =>
        rw [show power - ((passed + 1 : Nat) : Int) = power - 1 - passed by omega] at found
        exact ih (by omega) found

/-- Trimming zeros changes neither the number nor that it is positive. -/
theorem trimZeros_value (steps coefficient : Nat) (power : Int) :
    ((trimZeros steps coefficient power).1 : ℚ) * 10 ^ (trimZeros steps coefficient power).2 =
        coefficient * 10 ^ power ∧
      (0 < coefficient → 0 < (trimZeros steps coefficient power).1) := by
  induction steps generalizing coefficient power with
  | zero => exact ⟨rfl, id⟩
  | succ steps ih =>
    rw [trimZeros]
    split
    · next ends =>
      obtain ⟨same, positive⟩ := ih (coefficient / 10) (power + 1)
      have whole : coefficient = coefficient / 10 * 10 := by omega
      refine ⟨?_, fun _ => positive (by omega)⟩
      calc _ = ((coefficient / 10 : Nat) : ℚ) * 10 ^ (power + 1) := same
        _ = ((coefficient / 10 * 10 : Nat) : ℚ) * 10 ^ power := by
            rw [zpow_add_one₀ (by norm_num)]
            push_cast
            ring
        _ = coefficient * 10 ^ power := by rw [← whole]
    · exact ⟨rfl, id⟩

end Search

section Double

variable {significand : Nat} {exponent : Int}

/-- On the last grid that is tried the steps are smaller than half a gap. -/
theorem last_grid_fine (holds : FloatFormat.double.Holds significand exponent) :
    (10 : ℚ) ^ (leadingPower significand exponent - 23) < 2 ^ (exponent - 1) := by
  have length : significand.log2 < 53 := (Nat.log2_lt holds.positive.ne').mpr holds.short
  have least : -1074 ≤ exponent := holds.least
  have greatest : exponent ≤ 971 := holds.greatest
  unfold leadingPower
  rw [Int.fdiv_eq_ediv_of_nonneg _ (by decide)]
  refine ten_zpow_lt_two_zpow (fun sign => ?_) (fun sign => ?_)
  · omega
  · omega

/-- The shortest decimal of a value rounds to it. -/
theorem roundsTo_shortest (holds : FloatFormat.double.Holds significand exponent) :
    0 < (shortest .double significand exponent).1 ∧
      FloatFormat.double.RoundsTo ((shortest .double significand exponent).1 *
        10 ^ (shortest .double significand exponent).2) significand exponent := by
  have last :=
    isSome_pick? (contains_succ_below (f := .double) holds.positive (last_grid_fine holds))
  obtain ⟨positive, inside⟩ := contains_search (show 23 < 24 by decide) last
  obtain ⟨same, kept⟩ := trimZeros_value 24
    ((roundingInterval .double significand exponent).search 24
      (leadingPower significand exponent)).1
    ((roundingInterval .double significand exponent).search 24
      (leadingPower significand exponent)).2
  rw [contains_iff_roundsTo holds.positive, ← same] at inside
  exact ⟨kept positive, inside⟩

end Double
end Floating

namespace FloatFormat

variable {x : ℚ} {significand : Nat} {exponent : Int}

/-- A number that rounds to a value is not too large to be a decimal of the format. -/
theorem RoundsTo.lt_ten_zpow (rounds : FloatFormat.double.RoundsTo x significand exponent)
    (holds : FloatFormat.double.Holds significand exponent) : x < 10 ^ (401 : Int) := by
  have greatest : exponent ≤ 971 := holds.greatest
  have powers : 2 ^ 1024 < 10 ^ 401 := by decide +kernel
  calc x < 2 ^ ((53 : Int) + exponent) := rounds.lt_zpow holds
    _ ≤ 2 ^ ((1024 : Nat) : Int) := zpow_le_zpow_right₀ one_le_two (by omega)
    _ < 10 ^ ((401 : Nat) : Int) := by
        rw [zpow_natCast, zpow_natCast]
        exact_mod_cast powers

/-- Nor is it too small. -/
theorem RoundsTo.ten_zpow_lt (rounds : FloatFormat.double.RoundsTo x significand exponent)
    (holds : FloatFormat.double.Holds significand exponent) : 10 ^ (-401 : Int) < x := by
  have least : -1074 ≤ exponent := holds.least
  have positive : (1 : ℚ) ≤ significand := by exact_mod_cast holds.positive
  have powers : 2 ^ 1075 < 10 ^ 401 := by decide +kernel
  calc (10 : ℚ) ^ (-((401 : Nat) : Int)) < 2 ^ (-((1075 : Nat) : Int)) := by
        rw [zpow_neg, zpow_neg, zpow_natCast, zpow_natCast]
        refine inv_strictAnti₀ (by positivity) ?_
        exact_mod_cast powers
    _ ≤ 2 ^ (exponent - 1) := zpow_le_zpow_right₀ one_le_two (by omega)
    _ = 1 / 2 * 2 ^ exponent := by
        rw [zpow_sub_one₀ two_ne_zero]
        ring
    _ ≤ ((significand : ℚ) - 1 / 2) * 2 ^ exponent := by
        gcongr
        linarith
    _ ≤ FloatFormat.double.lowerEnd significand exponent := le_lowerEnd .double _ _
    _ ≤ x := rounds.above

end FloatFormat

namespace Decimal

/-- The number that a decimal stands for without its sign. -/
def magnitude (d : Decimal) : ℚ := d.coefficient * 10 ^ d.exponent

/-- A decimal that rounds to a value is rounded to it. -/
theorem toFloating_of_roundsTo {d : Decimal} {significand : Nat} {exponent : Int}
    (positive : 0 < d.coefficient) (holds : FloatFormat.double.Holds significand exponent)
    (rounds : FloatFormat.double.RoundsTo d.magnitude significand exponent) :
    d.toFloating .double = .finite d.negative significand exponent := by
  have power : (0 : ℚ) < 10 ^ d.exponent := zpow_pos (by norm_num) _
  have one : (1 : ℚ) ≤ d.coefficient := by exact_mod_cast positive
  have notLarge : ¬exponentLimit < d.exponent := by
    intro large
    refine absurd (rounds.lt_ten_zpow holds) (not_lt.mpr ?_)
    calc (10 : ℚ) ^ (401 : Int) ≤ 10 ^ d.exponent :=
          zpow_le_zpow_right₀ (by norm_num) (Int.add_one_le_of_lt large)
      _ = 1 * 10 ^ d.exponent := (one_mul _).symm
      _ ≤ d.coefficient * 10 ^ d.exponent := by gcongr
  have notSmall : ¬d.exponent + (decimalDigits d.coefficient).length < -exponentLimit := by
    intro small
    refine absurd (rounds.ten_zpow_lt holds) (not_lt.mpr ?_)
    have digits : d.coefficient < 10 ^ (decimalDigits d.coefficient).length :=
      (Nat.length_toDigits_le_iff (by decide) Nat.length_toDigits_pos).mp le_rfl
    have bound : (d.coefficient : ℚ) ≤ 10 ^ ((decimalDigits d.coefficient).length : Int) := by
      rw [zpow_natCast]
      exact_mod_cast digits.le
    calc (d.coefficient : ℚ) * 10 ^ d.exponent
        ≤ 10 ^ ((decimalDigits d.coefficient).length : Int) * 10 ^ d.exponent := by gcongr
      _ = 10 ^ (((decimalDigits d.coefficient).length : Int) + d.exponent) :=
          (zpow_add₀ (by norm_num) _ _).symm
      _ ≤ 10 ^ (-401 : Int) := by
          refine zpow_le_zpow_right₀ (by norm_num) ?_
          unfold exponentLimit at small
          omega
  have ratio : ((d.coefficient * tenPow d.exponent.toNat : Nat) : ℚ) /
      ((tenPow (-d.exponent).toNat : Nat) : ℚ) = d.magnitude := by
    rw [magnitude, ← pow_toNat_div_pow_toNat, ← mul_div_assoc]
    simp [tenPow]
  rw [toFloating, if_neg (by omega), if_neg notLarge, if_neg notSmall]
  rw [← ratio] at rounds
  exact Floating.ofRatio_of_roundsTo (by decide) (Nat.mul_pos positive (Nat.pow_pos (by decide)))
    (Nat.pow_pos (by decide)) holds rounds _

end Decimal

namespace Floating

/-- A value of a format; zero has the least exponent. -/
inductive Fits (f : FloatFormat) : Floating → Prop where
  /-- The result of no meaningful operation. -/
  | nan : Fits f .nan
  /-- A value beyond every finite one. -/
  | infinite (negative : Bool) : Fits f (.infinite negative)
  /-- Zero. -/
  | zero (negative : Bool) : Fits f (.finite negative 0 f.leastExponent)
  /-- Any other number. -/
  | finite (negative : Bool) {significand : Nat} {exponent : Int}
    (holds : f.Holds significand exponent) : Fits f (.finite negative significand exponent)

/-- A value of 64 bits is what its shortest decimal rounds to, and so is every decimal that stands
for the same number. -/
theorem Fits.toFloating_shortest {x : Floating} (fits : x.Fits .double) {decimal other : Decimal}
    (shown : x.toDecimal? .double = some decimal) (sign : other.negative = decimal.negative)
    (same : other.magnitude = decimal.magnitude) : other.toFloating .double = x := by
  cases fits with
  | nan => cases shown
  | infinite negative => cases shown
  | zero negative =>
    obtain rfl := Option.some.inj shown
    have noDigits : other.coefficient = 0 := by
      have power : (10 : ℚ) ^ other.exponent ≠ 0 := zpow_ne_zero _ (by norm_num)
      have zero : (other.coefficient : ℚ) * 10 ^ other.exponent = 0 := by
        rw [← Decimal.magnitude, same]
        simp [Decimal.magnitude]
      exact_mod_cast (mul_eq_zero.mp zero).resolve_right power
    rw [Decimal.toFloating, if_pos noDigits, sign]
  | @finite negative significand exponent holds =>
    obtain ⟨positive, rounds⟩ := roundsTo_shortest holds
    rw [toDecimal?, if_neg holds.positive.ne'] at shown
    obtain rfl := Option.some.inj shown
    have positiveOther : 0 < other.coefficient := by
      have power : (0 : ℚ) < 10 ^ other.exponent := zpow_pos (by norm_num) _
      have above : (0 : ℚ) < other.coefficient * 10 ^ other.exponent := by
        rw [← Decimal.magnitude, same]
        exact mul_pos (Nat.cast_pos.mpr positive) (zpow_pos (by norm_num) _)
      exact Nat.cast_pos.mp ((mul_pos_iff_of_pos_right power).mp above)
    rw [Decimal.toFloating_of_roundsTo positiveOther holds (same ▸ rounds), sign]

end Floating
end RankFormula
