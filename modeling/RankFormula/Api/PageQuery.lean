import RankFormula.Document.Value
import RankFormula.Formula.Pipeline
import RankFormula.Http.Query
import RankFormula.Json.Reader
import RankFormula.Numeral.Integer
import RankFormula.Text.Quoted

/-!
# Paginated queries

A query for a page of posts gives the number of the page, the number of posts on
it, and a filter as a JSON object. No page holds more than a hundred posts.
-/

namespace RankFormula

/-- What a paginated query asks for. -/
structure PageQuery where
  /-- The page, from 1. -/
  page : Int64
  /-- The number of posts on a page. -/
  limit : Int64
  /-- The filter; none if it was written as `null`. -/
  filter : Option Filter

/-- The number of posts on a page unless another is asked for. -/
def defaultLimit : String := "10"

/-- The largest number of posts on a page. -/
def maxLimit : Int := 100

/-- Why a query asks for no page. -/
inductive PageQueryFault where
  /-- A number cannot be read. -/
  | number (value : List UInt8) (fault : IntegerFault)
  /-- The page is less than 1. -/
  | pageTooSmall
  /-- The number of posts is less than 1. -/
  | limitTooSmall
  /-- The filter is no JSON object. -/
  | filter
  deriving DecidableEq, Repr

/-- The words for a JSON text that cannot be read. -/
def jsonUnreadable : String := "<json decode error>"

/-- The words of a fault. -/
def PageQueryFault.message : PageQueryFault → String
  | .number value fault =>
    "strconv.ParseInt: parsing " ++ quotedRaw (.ofBytes value) ++ ": " ++ fault.message
  | .pageTooSmall => "page must be at least 1"
  | .limitTooSmall => "limit must be at least 1"
  | .filter => jsonUnreadable

namespace PageQuery

/-- A number of a query, or its default. -/
def readNumber (query : Query) (name fallback : String) : Except PageQueryFault Int :=
  let value := (query.bytes? name).getD (utf8Bytes fallback.toList)
  match readInteger 10 (utf8Text value) with
  | .ok n => .ok n
  | .error fault => .error (.number value fault)

/-- The filter of a query. -/
def readFilter (query : Query) : Except PageQueryFault (Option Filter) :=
  let text := utf8Text ((query.bytes? "filter").getD [])
  if text.isEmpty then .ok (some [])
  else
    match Json.read? text >>= Value.ofJson? with
    | some (.object fields) => .ok (some fields)
    | some .null => .ok none
    | _ => .error .filter

/-- What a query asks for. -/
def read (query : Query) : Except PageQueryFault PageQuery := do
  let page ← readNumber query "page" "1"
  if page < 1 then .error .pageTooSmall
  let limit ← readNumber query "limit" defaultLimit
  if limit < 1 then .error .limitTooSmall
  let filter ← readFilter query
  .ok ⟨.ofInt page, .ofInt (min limit maxLimit), filter⟩

/-- The conditions of the filter. -/
def conditions (query : PageQuery) : Filter := query.filter.getD []

end PageQuery
end RankFormula
