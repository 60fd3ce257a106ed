/-!
# Pages of a result

Which page of a result is shown. Counts are signed 64-bit words, and the sums and
products wrap; division truncates toward zero.
-/

namespace RankFormula

/-- The page of a result that is shown. -/
structure PageWindow where
  /-- The number of documents in all. -/
  totalCount : Int64
  /-- The page shown, from 1. -/
  currentPage : Int64
  /-- The number of pages. -/
  totalPages : Int64
  /-- The number of documents of a full page. -/
  pageSize : Int64
  deriving DecidableEq, Repr

/-- The page size used when none is asked for. -/
def defaultPageSize : Int64 := 10

/-- The number of pages of a given size; none for pages of no size. -/
def totalPages (totalCount pageSize : Int64) : Int64 :=
  if pageSize = 0 then 0 else (totalCount + pageSize - 1) / pageSize

namespace PageWindow

/-- The window on a page, moved into the available range. -/
def clamp (totalCount page limit : Int64) : PageWindow :=
  let pageSize := if limit < 1 then defaultPageSize else limit
  let pages := RankFormula.totalPages totalCount pageSize
  let page := if pages < page then pages else page
  ⟨totalCount, if page < 1 then 1 else page, pages, pageSize⟩

/-- The number of documents before the page. -/
def skip (window : PageWindow) : Int64 :=
  if window.currentPage < 1 then 0 else (window.currentPage - 1) * window.pageSize

end PageWindow
end RankFormula
