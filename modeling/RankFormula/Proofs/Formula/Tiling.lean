import Mathlib.Data.Rat.Floor
import RankFormula.Proofs.Formula.Paging

/-!
# Pages side by side

A window cuts a piece out of a result. As long as the sum that counts the pages does not wrap,
the windows of all pages stand side by side: the pieces in order are the whole result, none of
them is empty, and a page outside the range shows what the nearest page inside it shows
(`PageWindow.pages_tile`).
-/

namespace RankFormula

/-- Pieces of one width, taken side by side from the front of a list, are its front. -/
theorem flatMap_pieces {α : Type} (documents : List α) (width pieces : Nat) :
    ((List.range pieces).flatMap fun piece => (documents.drop (piece * width)).take width) =
      documents.take (pieces * width) := by
  induction pieces with
  | zero => simp
  | succ pieces ih =>
    rw [List.range_succ, List.flatMap_append, ih, Nat.succ_mul, List.take_add]
    simp

section Pages

variable {count limit : Int64}

/-- Without a wrap the number of pages is the quotient of the integers. -/
theorem toInt_totalPages (counted : 0 ≤ count.toInt) (sized : 1 ≤ limit.toInt)
    (small : count.toInt + limit.toInt - 1 < 2 ^ 63) :
    (totalPages count limit).toInt = (count.toInt + limit.toInt - 1) / limit.toInt := by
  have nonzero : limit ≠ 0 := by
    rintro rfl
    exact absurd sized (by decide)
  have sum : (count + limit - 1).toInt = count.toInt + limit.toInt - 1 := by
    have countBound := count.toInt_lt
    have limitBound := limit.toInt_lt
    rw [Int64.toInt_sub, Int64.toInt_add, toInt_one, Int.bmod_def, Int.bmod_def]
    omega
  have nonneg : 0 ≤ count.toInt + limit.toInt - 1 := by omega
  have quotient : 0 ≤ (count.toInt + limit.toInt - 1) / limit.toInt :=
    Int.ediv_nonneg nonneg (by omega)
  have bound : (count.toInt + limit.toInt - 1) / limit.toInt ≤ count.toInt + limit.toInt - 1 :=
    Int.ediv_le_self _ nonneg
  rw [totalPages, if_neg nonzero, Int64.toInt_div, sum, Int.tdiv_eq_ediv_of_nonneg nonneg]
  exact Int.bmod_eq_of_le (by omega) (by omega)

/-- Without a wrap the pages hold all documents. -/
theorem le_totalPages_mul (counted : 0 ≤ count.toInt) (sized : 1 ≤ limit.toInt)
    (small : count.toInt + limit.toInt - 1 < 2 ^ 63) :
    count.toInt ≤ (totalPages count limit).toInt * limit.toInt := by
  have divided := Int.mul_ediv_add_emod (count.toInt + limit.toInt - 1) limit.toInt
  have rest := Int.emod_lt_of_pos (count.toInt + limit.toInt - 1) (by omega : 0 < limit.toInt)
  rw [toInt_totalPages counted sized small, Int.mul_comm]
  omega

/-- Without a wrap the number of pages is the number of documents by the size of a page,
rounded up. -/
theorem totalPages_eq_ceil (counted : 0 ≤ count.toInt) (sized : 1 ≤ limit.toInt)
    (small : count.toInt + limit.toInt - 1 < 2 ^ 63) :
    (totalPages count limit).toInt = ⌈(count.toInt : ℚ) / limit.toInt⌉ := by
  have covered := le_totalPages_mul counted sized small
  have tight := totalPages_mul_le count sized
  generalize (totalPages count limit).toInt = pages at covered tight ⊢
  have positive : (0 : ℚ) < limit.toInt := by exact_mod_cast sized
  symm
  rw [Int.ceil_eq_iff, lt_div_iff₀ positive, div_le_iff₀ positive]
  constructor
  · have below : (pages - 1) * limit.toInt < count.toInt := by
      rw [Int.sub_mul]
      omega
    exact_mod_cast below
  · exact_mod_cast covered

/-- Without a wrap the number of pages is not negative. -/
theorem totalPages_nonneg (counted : 0 ≤ count.toInt) (sized : 1 ≤ limit.toInt)
    (small : count.toInt + limit.toInt - 1 < 2 ^ 63) : 0 ≤ (totalPages count limit).toInt := by
  rw [toInt_totalPages counted sized small]
  exact Int.ediv_nonneg (by omega) (by omega)

/-- Without a wrap there are pages if there are documents. -/
theorem totalPages_pos (some : 0 < count.toInt) (sized : 1 ≤ limit.toInt)
    (small : count.toInt + limit.toInt - 1 < 2 ^ 63) : 0 < (totalPages count limit).toInt := by
  rw [toInt_totalPages (by omega) sized small]
  exact Int.le_ediv_of_mul_le (by omega) (by omega)

/-- The pages before a page leave some documents. -/
theorem mul_lt_of_lt_totalPages (counted : 0 ≤ count.toInt) (sized : 1 ≤ limit.toInt)
    {piece : Int} (inside : piece < (totalPages count limit).toInt) :
    piece * limit.toInt < count.toInt := by
  have tight := totalPages_mul_le count sized
  have monotone : piece * limit.toInt ≤ ((totalPages count limit).toInt - 1) * limit.toInt :=
    Int.mul_le_mul_of_nonneg_right (by omega) (by omega)
  rw [Int.sub_mul] at monotone
  omega

end Pages

namespace PageWindow

variable {count page limit : Int64}

/-- A window knows the number of pages. -/
theorem clamp_totalPages (count page : Int64) (sized : 1 ≤ limit.toInt) :
    (clamp count page limit).totalPages = RankFormula.totalPages count limit := by
  simp only [clamp, if_neg (not_lt_one sized)]

/-- The page shown is the page asked for, moved between the first and the last one. -/
theorem toInt_clamp_currentPage (count page : Int64) (sized : 1 ≤ limit.toInt) :
    (clamp count page limit).currentPage.toInt =
      max 1 (min page.toInt (RankFormula.totalPages count limit).toInt) := by
  simp only [clamp, if_neg (not_lt_one sized)]
  generalize RankFormula.totalPages count limit = pages
  simp only [apply_ite Int64.toInt, Int64.lt_iff_toInt_lt, toInt_one]
  omega

/-- Windows on the same page of a result are the same. -/
theorem clamp_congr {other : Int64}
    (same : (clamp count page limit).currentPage.toInt =
      (clamp count other limit).currentPage.toInt) :
    clamp count page limit = clamp count other limit := by
  have pages : (clamp count page limit).currentPage = (clamp count other limit).currentPage :=
    Int64.toInt_inj.mp same
  simp only [clamp, mk.injEq, true_and, and_true] at pages ⊢
  exact pages

/-- A page beyond the last one is the last one. -/
theorem clamp_of_above (sized : 1 ≤ limit.toInt)
    (above : RankFormula.totalPages count limit < page) :
    clamp count page limit = clamp count (RankFormula.totalPages count limit) limit := by
  apply clamp_congr
  rw [Int64.lt_iff_toInt_lt] at above
  rw [toInt_clamp_currentPage count page sized, toInt_clamp_currentPage count _ sized]
  omega

/-- A page before the first one is the first one. -/
theorem clamp_of_below (count : Int64) (sized : 1 ≤ limit.toInt) (below : page < 1) :
    clamp count page limit = clamp count 1 limit := by
  apply clamp_congr
  rw [Int64.lt_iff_toInt_lt, toInt_one] at below
  rw [toInt_clamp_currentPage count page sized, toInt_clamp_currentPage count 1 sized, toInt_one]
  omega

/-- Without documents every page is the first one, with nothing before it. -/
theorem clamp_of_empty (page : Int64) (empty : count.toInt = 0) (sized : 1 ≤ limit.toInt) :
    (clamp count page limit).currentPage = 1 ∧ (clamp count page limit).skip = 0 := by
  have few := totalPages_mul_le count sized
  have none : (RankFormula.totalPages count limit).toInt ≤ 0 := by
    by_contra some
    have one : 1 * limit.toInt ≤ (RankFormula.totalPages count limit).toInt * limit.toInt :=
      Int.mul_le_mul_of_nonneg_right (by omega) (by omega)
    omega
  have first : (clamp count page limit).currentPage.toInt = 1 := by
    rw [toInt_clamp_currentPage count page sized]
    omega
  constructor
  · exact Int64.toInt_inj.mp first
  · have skipped := clamp_skip count page sized
    dsimp only at skipped
    apply Int64.toInt_inj.mp
    rw [skipped, first]
    simp

/-- The last page is shown when it is asked for, if there is one. -/
theorem clamp_last (sized : 1 ≤ limit.toInt)
    (some : 0 < (RankFormula.totalPages count limit).toInt) :
    (clamp count (RankFormula.totalPages count limit) limit).currentPage =
      RankFormula.totalPages count limit := by
  apply Int64.toInt_inj.mp
  rw [toInt_clamp_currentPage count _ sized]
  omega

section Shown

variable {α : Type} {documents : List α}

/-- The documents of a result that a window shows. -/
def shown (window : PageWindow) (documents : List α) : List α :=
  (documents.drop window.skip.toInt.toNat).take window.pageSize.toInt.toNat

/-- A page inside the range shows one piece of the result: as many documents as fit on it,
after those of the pages before. -/
theorem shown_clamp (documents : List α) (sized : 1 ≤ limit.toInt)
    {piece : Nat} (inside : piece < (RankFormula.totalPages count limit).toInt.toNat) :
    (clamp count (.ofNat (piece + 1)) limit).shown documents =
      (documents.drop (piece * limit.toInt.toNat)).take limit.toInt.toNat := by
  have bound := (RankFormula.totalPages count limit).toInt_lt
  have number : (Int64.ofNat (piece + 1)).toInt = piece + 1 := by
    rw [Int64.toInt_ofNat_of_lt (by omega)]
    rfl
  have current : (clamp count (.ofNat (piece + 1)) limit).currentPage.toInt = piece + 1 := by
    rw [toInt_clamp_currentPage count _ sized, number]
    omega
  have skipped := clamp_skip count (.ofNat (piece + 1)) sized
  dsimp only at skipped
  rw [current, Int.add_sub_cancel] at skipped
  have before :
      (clamp count (.ofNat (piece + 1)) limit).skip.toInt.toNat = piece * limit.toInt.toNat := by
    rw [skipped, Int.toNat_mul (by omega) (by omega), Int.toNat_natCast]
  rw [shown, before, clamp_pageSize sized]

/-- No page inside the range is empty. -/
theorem shown_clamp_ne_nil (length : count.toInt = documents.length) (sized : 1 ≤ limit.toInt)
    {piece : Nat} (inside : piece < (RankFormula.totalPages count limit).toInt.toNat) :
    (clamp count (.ofNat (piece + 1)) limit).shown documents ≠ [] := by
  have counted : 0 ≤ count.toInt := by omega
  have before : piece * limit.toInt.toNat < documents.length := by
    have left := mul_lt_of_lt_totalPages counted sized
      (by omega : (piece : Int) < (RankFormula.totalPages count limit).toInt)
    rw [length] at left
    zify
    rw [Int.toNat_of_nonneg (by omega)]
    exact left
  rw [shown_clamp documents sized inside, ← List.length_pos_iff, List.length_take,
    List.length_drop]
  omega

/-- Without a wrap the pages show, in order, the whole result. -/
theorem flatMap_shown_clamp (length : count.toInt = documents.length) (sized : 1 ≤ limit.toInt)
    (small : count.toInt + limit.toInt - 1 < 2 ^ 63) :
    ((List.range (RankFormula.totalPages count limit).toInt.toNat).flatMap fun piece =>
      (clamp count (.ofNat (piece + 1)) limit).shown documents) = documents := by
  have counted : 0 ≤ count.toInt := by omega
  have nonneg := totalPages_nonneg counted sized small
  have whole := le_totalPages_mul counted sized small
  generalize pagesAre : RankFormula.totalPages count limit = pages at nonneg whole ⊢
  have covered : documents.length ≤ pages.toInt.toNat * limit.toInt.toNat := by
    rw [length] at whole
    zify
    rw [Int.toNat_of_nonneg nonneg, Int.toNat_of_nonneg (by omega)]
    exact whole
  calc
    _ = (List.range pages.toInt.toNat).flatMap fun piece =>
          (documents.drop (piece * limit.toInt.toNat)).take limit.toInt.toNat := by
        apply List.flatMap_congr
        intro piece member
        apply shown_clamp documents sized
        rw [pagesAre]
        exact List.mem_range.mp member
    _ = documents.take (pages.toInt.toNat * limit.toInt.toNat) := flatMap_pieces _ _ _
    _ = documents := List.take_of_length_le covered

end Shown

/-- Pages tile a result, as long as the sum that counts them does not wrap. Their number is
that of the documents by the size of a page, rounded up. What the pages show, from the first to
the last one, is the result, and no page is empty. A page beyond the last one is the last one,
and the first one with nothing before it if there are no documents; a page before the first one
is the first one; and a limit below one is one of ten. -/
theorem pages_tile {α : Type} (documents : List α) (limit : Int64) (sized : 1 ≤ limit.toInt)
    (small : documents.length + limit.toInt - 1 < 2 ^ 63) :
    let window : Int64 → PageWindow := fun page => clamp (.ofNat documents.length) page limit
    let pages : Int64 := RankFormula.totalPages (.ofNat documents.length) limit
    (∀ page, (window page).totalPages = pages) ∧
    pages.toInt = ⌈(documents.length : ℚ) / limit.toInt⌉ ∧
    ((List.range pages.toInt.toNat).flatMap fun i =>
      (window (.ofNat (i + 1))).shown documents) = documents ∧
    (∀ i < pages.toInt.toNat, (window (.ofNat (i + 1))).shown documents ≠ []) ∧
    (∀ page, pages < page → window page = window pages) ∧
    (documents ≠ [] → (window pages).currentPage = pages) ∧
    (documents = [] → ∀ page, (window page).currentPage = 1 ∧ (window page).skip = 0) ∧
    (∀ page, page < 1 → window page = window 1) ∧
    (∀ count page limit, limit < 1 → clamp count page limit = clamp count page 10) := by
  intro window pages
  have length : (Int64.ofNat documents.length).toInt = documents.length :=
    Int64.toInt_ofNat_of_lt (by omega)
  have counted : 0 ≤ (Int64.ofNat documents.length).toInt := by omega
  rw [← length] at small
  refine ⟨fun page => clamp_totalPages _ page sized, ?_,
    flatMap_shown_clamp length sized small, fun i inside => shown_clamp_ne_nil length sized inside,
    fun page above => clamp_of_above sized above, fun some => ?_, fun none page => ?_,
    fun page below => clamp_of_below _ sized below,
    fun count page limit unlimited => clamp_of_no_limit count page unlimited⟩
  · rw [← Int.cast_natCast, ← length]
    exact totalPages_eq_ceil counted sized small
  · have filled : 0 < documents.length := List.length_pos_iff.mpr some
    exact clamp_last sized (totalPages_pos (by omega) sized small)
  · apply clamp_of_empty page _ sized
    rw [length, none]
    rfl

/-- Seven documents on pages of three: a full page, another one, and one document on the last
page, which is also what page nine shows. -/
theorem pages_tile_seven :
    let documents := ["a", "b", "c", "d", "e", "f", "g"]
    let window : Int64 → PageWindow := fun page => clamp 7 page 3
    (1 ≤ (3 : Int64).toInt ∧ documents.length + (3 : Int64).toInt - 1 < 2 ^ 63) ∧
      (window 1).shown documents = ["a", "b", "c"] ∧
      (window 3).shown documents = ["g"] ∧
      window 9 = window 3 ∧
      ((List.range (RankFormula.totalPages 7 3).toInt.toNat).flatMap fun i =>
        (window (.ofNat (i + 1))).shown documents) = documents := by
  intro documents window
  have sized : 1 ≤ (3 : Int64).toInt := by decide
  have small : documents.length + (3 : Int64).toInt - 1 < 2 ^ 63 := by decide
  obtain ⟨-, -, whole, -, above, -⟩ := pages_tile documents 3 sized small
  have last : RankFormula.totalPages 7 3 = 3 := by decide
  have beyond : window 9 = window (RankFormula.totalPages 7 3) := above 9 (by decide)
  rw [last] at beyond
  exact ⟨⟨sized, small⟩, by decide, by decide, beyond, whole⟩

end PageWindow
end RankFormula
