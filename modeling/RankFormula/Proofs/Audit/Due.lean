import Mathlib
import RankFormula.Formula.Stored

/-!
# When a check is due

A check is due once the time between checks has passed, and the time that has passed is moved into
the range of words before the two are compared. Moving keeps the order of integers
(`saturate64_mono`) and their comparison with every word above the least one
(`le_saturate64_iff`), so the decision is the one that the exact difference gives, however far
apart the instants are.
-/

namespace RankFormula

/-- Instants are ordered as their nanoseconds are. -/
instance : Preorder Instant where
  le earlier later := earlier.nanoseconds ≤ later.nanoseconds
  le_refl _ := Int.le_refl _
  le_trans _ _ _ := Int.le_trans

/-- One instant is no later than another. -/
theorem Instant.le_iff {earlier later : Instant} :
    earlier ≤ later ↔ earlier.nanoseconds ≤ later.nanoseconds := Iff.rfl

/-- Only the instant that was never set counts as such. -/
theorem Instant.isZero_iff {t : Instant} : t.isZero = true ↔ t = .zero := by
  obtain ⟨nanoseconds⟩ := t
  simp [isZero, zero]

section Saturation

variable {bound n : Int}

/-- An integer that was moved is a word. -/
theorem saturate64_lt (n : Int) : saturate64 n < signedLimit := by
  have limit : (0 : Int) < signedLimit := by decide
  rw [saturate64]
  omega

/-- Integers that are moved keep their order. -/
theorem saturate64_mono : Monotone saturate64 := by
  intro smaller greater ordered
  rw [saturate64, saturate64]
  omega

/-- A word above the least one bounds an integer from below before it is moved exactly if it does
so afterwards. -/
theorem le_saturate64_iff (above : -(signedLimit : Int) < bound) (below : bound < signedLimit) :
    bound ≤ saturate64 n ↔ bound ≤ n := by
  rw [saturate64]
  omega

end Saturation

/-- A check is due if no time is to pass, if there never was one, or once the time has passed. -/
theorem needsRecheck_iff_since {checkedAt now : Instant} {recheckAfter : Int} :
    needsRecheck checkedAt now recheckAfter = true ↔
      recheckAfter ≤ 0 ∨ checkedAt = .zero ∨ recheckAfter ≤ now.since checkedAt := by
  rw [needsRecheck, ← Instant.isZero_iff]
  split
  · next always =>
    simp only [Bool.or_eq_true, decide_eq_true_eq] at always
    exact iff_of_true rfl (by tauto)
  · next compared =>
    simp only [Bool.or_eq_true, decide_eq_true_eq, not_or] at compared
    rw [decide_eq_true_eq]
    tauto

/-- The time that has passed under a time between checks is exact. -/
theorem le_since_iff {now before : Instant} {recheckAfter : Int} (waits : 0 < recheckAfter)
    (word : recheckAfter < signedLimit) :
    recheckAfter ≤ now.since before ↔ recheckAfter ≤ now.nanoseconds - before.nanoseconds := by
  have limit : (0 : Int) < signedLimit := by decide
  exact le_saturate64_iff (by omega) word

/-- More time has passed at a later instant. -/
theorem since_mono_left (before : Instant) : Monotone fun now : Instant => now.since before := by
  intro earlier later ordered
  exact saturate64_mono (Int.sub_le_sub_right ordered _)

/-- Less time has passed since a later instant. -/
theorem since_anti_right (now : Instant) : Antitone fun before : Instant => now.since before := by
  intro earlier later ordered
  exact saturate64_mono (Int.sub_le_sub_left ordered _)

/-- Whether a check is due is decided exactly, whatever the instants and for every time between
checks that is a word. A check that is due stays due at later times, and it is also due if the
last one was made earlier or if less time is to pass. -/
theorem recheck_decided_exactly (checkedAt now : Instant) (recheckAfter : Int64) :
    (needsRecheck checkedAt now recheckAfter.toInt = true ↔
      recheckAfter ≤ 0 ∨ checkedAt = .zero ∨
        recheckAfter.toInt ≤ now.nanoseconds - checkedAt.nanoseconds) ∧
    (Monotone fun now => needsRecheck checkedAt now recheckAfter.toInt) ∧
    AntitoneOn (fun checkedAt => needsRecheck checkedAt now recheckAfter.toInt) {t | t ≠ .zero} ∧
    Antitone fun recheckAfter : Int => needsRecheck checkedAt now recheckAfter := by
  have word : recheckAfter.toInt < signedLimit := recheckAfter.toInt_lt
  refine ⟨?_, ?_, ?_, ?_⟩
  · rw [needsRecheck_iff_since, Int64.le_iff_toInt_le, Int64.toInt_zero]
    by_cases always : recheckAfter.toInt ≤ 0
    · simp only [always, true_or]
    · rw [le_since_iff (by omega) word]
  · intro earlier later ordered
    rw [Bool.le_iff_imp, needsRecheck_iff_since, needsRecheck_iff_since]
    have longer : earlier.since checkedAt ≤ later.since checkedAt :=
      since_mono_left checkedAt ordered
    exact Or.imp_right (Or.imp_right fun passed => passed.trans longer)
  · intro earlier _ later set ordered
    rw [Bool.le_iff_imp, needsRecheck_iff_since, needsRecheck_iff_since]
    have longer : now.since later ≤ now.since earlier := since_anti_right now ordered
    rintro (always | unset | passed)
    · exact .inl always
    · exact absurd unset set
    · exact .inr (.inr (passed.trans longer))
  · intro shorter longer ordered
    rw [Bool.le_iff_imp, needsRecheck_iff_since, needsRecheck_iff_since]
    rintro (always | unset | passed)
    · exact .inl (ordered.trans always)
    · exact .inr (.inl unset)
    · exact .inr (.inr (ordered.trans passed))

end RankFormula
