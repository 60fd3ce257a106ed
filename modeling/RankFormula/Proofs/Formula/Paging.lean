import RankFormula.Formula.Paging

/-!
# Windows on a result

Counts and pages are signed words, and the sum in `totalPages` may wrap. Where it does, the
number of pages is negative, and the window falls back to the first page. So the page shown never
lies beyond the documents counted, and the number of documents before it is the exact product
(`PageWindow.clamp_skip`), whatever the count, the page asked for and the limit are: all three may
be negative, and a limit below one is replaced (`PageWindow.clamp_skip_exact`).
-/

namespace RankFormula

variable {count page limit : Int64}

/-- The number one as a word. -/
theorem toInt_one : (1 : Int64).toInt = 1 := by decide

/-- The sum that counts the pages is exact or wraps to a negative number. -/
theorem toInt_pageSum_le (count : Int64) (sized : 1 ≤ limit.toInt) :
    (count + limit - 1).toInt ≤ count.toInt + limit.toInt - 1 := by
  have countLower := count.le_toInt
  have countBound := count.toInt_lt
  have limitBound := limit.toInt_lt
  rw [Int64.toInt_sub, Int64.toInt_add, toInt_one, Int.bmod_def, Int.bmod_def]
  omega

/-- A word divided by a size of at least one is a word, and the size goes into it that often. -/
theorem toInt_div_mul_le (total : Int64) {size : Int64} (sized : 1 ≤ size.toInt) :
    (total / size).toInt * size.toInt ≤ max total.toInt 0 := by
  have lower := total.le_toInt
  have upper := total.toInt_lt
  rw [Int64.toInt_div]
  generalize total.toInt = dividend at lower upper ⊢
  generalize size.toInt = divisor at sized ⊢
  have magnitude : (dividend.tdiv divisor).natAbs ≤ dividend.natAbs := by
    rw [Int.natAbs_tdiv]
    exact Nat.div_le_self _ _
  by_cases positive : 0 ≤ dividend
  · have quotient : 0 ≤ dividend.tdiv divisor := Int.tdiv_nonneg positive (by omega)
    have product := Int.mul_tdiv_self_le (k := divisor) positive
    rw [Int.mul_comm] at product
    rw [Int.bmod_eq_of_le (by omega) (by omega)]
    omega
  · have quotient : dividend.tdiv divisor ≤ 0 := by
      have opposite : 0 ≤ (-dividend).tdiv divisor := Int.tdiv_nonneg (by omega) (by omega)
      rw [Int.neg_tdiv] at opposite
      omega
    have product : dividend.tdiv divisor * divisor ≤ 0 :=
      Int.mul_nonpos_of_nonpos_of_nonneg quotient (by omega)
    rw [Int.bmod_eq_of_le (by omega) (by omega)]
    omega

/-- The pages of a result hold no more documents than there are, but for the last page. -/
theorem totalPages_mul_le (count : Int64) (sized : 1 ≤ limit.toInt) :
    (totalPages count limit).toInt * limit.toInt ≤ max (count.toInt + limit.toInt - 1) 0 := by
  have nonzero : limit ≠ 0 := by
    rintro rfl
    exact absurd sized (by decide)
  have sum := toInt_pageSum_le count sized
  have product := toInt_div_mul_le (count + limit - 1) sized
  rw [totalPages, if_neg nonzero]
  omega

namespace PageWindow

/-- A limit of at least one is not replaced. -/
theorem not_lt_one (sized : 1 ≤ limit.toInt) : ¬limit < 1 := by
  rw [Int64.lt_iff_toInt_lt, toInt_one]
  omega

/-- A limit of at least one is the size of the pages. -/
theorem clamp_pageSize (sized : 1 ≤ limit.toInt) : (clamp count page limit).pageSize = limit :=
  if_neg (not_lt_one sized)

/-- The page shown is the first one or lies within the pages. -/
theorem clamp_currentPage (count page : Int64) (sized : 1 ≤ limit.toInt) :
    let shown := (clamp count page limit).currentPage.toInt
    shown = 1 ∨ 1 < shown ∧ shown ≤ (RankFormula.totalPages count limit).toInt := by
  simp only [clamp, if_neg (not_lt_one sized)]
  generalize RankFormula.totalPages count limit = pages
  simp only [apply_ite Int64.toInt, Int64.lt_iff_toInt_lt, toInt_one]
  omega

/-- A limit below one counts as the default. -/
theorem clamp_of_no_limit (count page : Int64) (unlimited : limit < 1) :
    clamp count page limit = clamp count page defaultPageSize := by
  simp only [clamp, if_pos unlimited, if_neg (by decide : ¬defaultPageSize < 1)]

/-- Every window is the window of a limit that is not replaced. -/
theorem exists_clamp_eq (count page limit : Int64) :
    ∃ size : Int64, 1 ≤ size.toInt ∧ clamp count page limit = clamp count page size := by
  by_cases unlimited : limit < 1
  · exact ⟨defaultPageSize, by decide, clamp_of_no_limit count page unlimited⟩
  · rw [Int64.lt_iff_toInt_lt, toInt_one] at unlimited
    exact ⟨limit, by omega, rfl⟩

/-- The pages before the page shown are full, so there are documents beyond them unless there
are no such pages. -/
theorem clamp_before (count page : Int64) (sized : 1 ≤ limit.toInt) :
    let before := ((clamp count page limit).currentPage.toInt - 1) * limit.toInt
    0 ≤ before ∧ (before = 0 ∨ before < count.toInt) := by
  dsimp only
  have pages := totalPages_mul_le count sized
  rcases clamp_currentPage count page sized with first | ⟨later, within⟩
  · rw [first]
    exact ⟨by omega, .inl (by omega)⟩
  · have nonneg : 1 * limit.toInt ≤
        ((clamp count page limit).currentPage.toInt - 1) * limit.toInt :=
      Int.mul_le_mul_of_nonneg_right (by omega) (by omega)
    have monotone := Int.mul_le_mul_of_nonneg_right within (by omega : 0 ≤ limit.toInt)
    rw [Int.sub_mul, Int.one_mul] at nonneg ⊢
    exact ⟨by omega, .inr (by omega)⟩

/-- The documents before the page shown fill the pages before it, and their number is exact. -/
theorem clamp_skip (count page : Int64) (sized : 1 ≤ limit.toInt) :
    let window := clamp count page limit
    window.skip.toInt = (window.currentPage.toInt - 1) * limit.toInt := by
  intro window
  have size : window.pageSize = limit := clamp_pageSize sized
  have countBound := count.toInt_lt
  have shown : window.currentPage.toInt = 1 ∨ 1 < window.currentPage.toInt ∧
      window.currentPage.toInt ≤ (RankFormula.totalPages count limit).toInt :=
    clamp_currentPage count page sized
  have first : ¬window.currentPage < 1 := by
    rw [Int64.lt_iff_toInt_lt, toInt_one]
    omega
  have bound := window.currentPage.toInt_lt
  have before : (window.currentPage - 1).toInt = window.currentPage.toInt - 1 := by
    rw [Int64.toInt_sub, toInt_one]
    exact Int.bmod_eq_of_le (by omega) (by omega)
  obtain ⟨nonneg, small⟩ : 0 ≤ (window.currentPage.toInt - 1) * limit.toInt ∧
      ((window.currentPage.toInt - 1) * limit.toInt = 0 ∨
        (window.currentPage.toInt - 1) * limit.toInt < count.toInt) :=
    clamp_before count page sized
  rw [skip, if_neg first, size, Int64.toInt_mul, before]
  exact Int.bmod_eq_of_le (by omega) (by omega)

/-- For all words, a window has a page of at least one document and shows a page from the first
on, and the product that says how many documents come before it does not wrap. It is never
negative, and it is zero or leaves some of the documents counted, also where the sum that counts
the pages wraps. -/
theorem clamp_skip_exact (count page limit : Int64) :
    let window := clamp count page limit
    1 ≤ window.pageSize.toInt ∧ 1 ≤ window.currentPage.toInt ∧
      window.skip.toInt = (window.currentPage.toInt - 1) * window.pageSize.toInt ∧
      0 ≤ window.skip.toInt ∧ (window.skip.toInt = 0 ∨ window.skip.toInt < count.toInt) := by
  obtain ⟨size, sized, same⟩ := exists_clamp_eq count page limit
  dsimp only
  rw [same]
  have pageSize : (clamp count page size).pageSize = size := clamp_pageSize sized
  have skipped := clamp_skip count page sized
  have before := clamp_before count page sized
  have shown := clamp_currentPage count page sized
  dsimp only at skipped before shown
  rw [← skipped] at before
  rw [pageSize]
  exact ⟨sized, by omega, skipped, before.1, before.2⟩

-- The largest count and one more wrap around, so the number of pages is negative.
example : clamp Int64.maxValue 3 2 = ⟨Int64.maxValue, 1, -4611686018427387904, 2⟩ := by decide

end PageWindow
end RankFormula
