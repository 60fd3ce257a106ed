import RankFormula.Api.Expressions

/-!
# The endpoint for ranked posts

Ranks the posts of an instance with a stored formula or with an expression of the
request, and answers one page. The page is chosen by counting the posts that the
pipeline will keep.
-/

namespace RankFormula

/-- Where the expression of a ranking comes from. -/
inductive RankingSource where
  /-- From a stored formula. -/
  | stored (expression : String)
  /-- From the request. -/
  | adHoc (expression : RawText)
  deriving DecidableEq, Repr

namespace RankingSource

/-- The text of the expression. -/
def expression : RankingSource → RawText
  | .stored text => text
  | .adHoc text => text

/-- The response to an expression that is no formula. A stored one was accepted before, so it is
not the request that is wrong, whatever the error. -/
def refuse (source : RankingSource) (report : Report) : Response :=
  match source with
  | .stored _ =>
    .json 422 (.object [("error", .string report.words),
      ("errorType", .string ((report.type?.map ErrorType.label).getD ""))])
  | .adHoc _ => report.refuse

end RankingSource

/-- The JSON form of a page window. -/
def PageWindow.toJson (window : PageWindow) : Json :=
  .object [("totalCount", .int window.totalCount.toInt),
    ("currentPage", .int window.currentPage.toInt), ("totalPages", .int window.totalPages.toInt),
    ("pageSize", .int window.pageSize.toInt)]

/-- The JSON form of ranked posts, if all their numbers can be written; no list is `null`. -/
def postsJson? : Option (List Value) → Option Json
  | none => some .null
  | some posts => (Value.itemsToJson? posts).map .array

/-- The JSON form of a ranked page, if all its numbers can be written. -/
def rankedPage? (posts : Option (List Value)) (window : PageWindow) (formula : Formula) :
    Option Json := do
  let posts ← postsJson? posts
  let formula ← formula.toJson?
  some (.object [("posts", posts), ("pagination", window.toJson), ("formula", formula)])

namespace Api

/-- The expression of a stored formula, unless it is marked invalid. -/
def storedSource (instanceID : String) (key : RawText) :
    Session (Except Response RankingSource) := do
  match ← Store.formulaByKey instanceID key with
  | .ok formula =>
    if formula.valid then pure (.ok (.stored formula.expression))
    else
      pure (.error (.failure 422
        ("formula " ++ key.toString ++ " is marked invalid: " ++ formula.lastError)))
  | .error .formulaNotFound => pure (.error (.failure 404 StoreFault.formulaNotFound.message))
  | .error _ => pure (.error (.failure 500 "failed to get formula"))

/-- The expression to rank with: a query names a stored formula or gives an
expression, and not both. -/
def rankingSource (instanceID : String) (query : Query) : Session (Except Response RankingSource) :=
  let key := query.text "formula"
  let text := query.text "expression"
  if !key.isEmpty && !text.isEmpty then
    pure (.error (.failure 400 "use either formula or expression"))
  else if !text.isEmpty then pure (.ok (.adHoc text))
  else if key.isEmpty then pure (.error (.failure 400 "formula or expression required"))
  else storedSource instanceID key

/-- The pipeline of a page. -/
def pagePipeline (api : Api) (formula : Formula) (filter : Filter) (window : PageWindow) :
    List Stage :=
  formula.pipeline
    { scoreField := api.scoreField
      filter := filter
      dateFields := api.dateFields
      skip := window.skip.toInt
      limit := window.pageSize.toInt }

/-- Answers a page of posts ranked with a formula. -/
def rankWith (api : Api) (instanceID : String) (query : PageQuery) (formula : Formula) :
    Session Response := do
  match ← Store.page instanceID (formula.matchFilter query.conditions) query.page query.limit with
  | .error _ => pure (.failure 500 "failed to count posts")
  | .ok window =>
    match ← Store.ranked instanceID (api.pagePipeline formula query.conditions window) with
    | .error _ => pure (.failure 500 "failed to rank posts")
    | .ok posts => pure (.ofJson? 200 (rankedPage? posts window formula))

/-- Answers a page of ranked posts. -/
def rankedPosts (api : Api) (instanceID : String) (query : Query) : Session Response :=
  match PageQuery.read query with
  | .error fault => pure (.failure 400 fault.message)
  | .ok page => do
    match ← rankingSource instanceID query with
    | .error response => pure response
    | .ok source =>
      match Formula.ofText api.whitelist source.expression with
      | .error error => pure (source.refuse error.report)
      | .ok formula => api.rankWith instanceID page formula

end Api
end RankFormula
