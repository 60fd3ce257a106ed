import RankFormula.Proofs.Api.Authorisation
import RankFormula.Proofs.Audit.Interleaving

/-!
# Ranking by key and by text

A reader may rank posts by the key of a stored formula or by the text of an expression. Both
requests go on in the same way once the text is known (`Api.rankFrom`), so they agree in what
they ask of the store and in what they answer, but for the status that blames the text. An
empty key counts as no key, and a formula that stands under it cannot be ranked by.
-/

namespace RankFormula

/-- Only the empty text has no units. -/
theorem RawText.isEmpty_iff {text : RawText} : text.isEmpty = true ↔ text = .ofString "" := by
  obtain ⟨units⟩ := text
  simp [RawText.isEmpty, RawText.ofString, RawText.ofChars]

/-- The page that is asked for depends on three values of a query. -/
theorem PageQuery.read_congr {first second : Query}
    (page : first.bytes? "page" = second.bytes? "page")
    (limit : first.bytes? "limit" = second.bytes? "limit")
    (filter : first.bytes? "filter" = second.bytes? "filter") :
    PageQuery.read first = PageQuery.read second := by
  simp only [PageQuery.read, PageQuery.readNumber, PageQuery.readFilter, page, limit, filter]

namespace Api

variable {σ : Type} {api : Api} {instanceID : String} {query : Query} {page : PageQuery}
  {answer : σ → (call : StoreCall) → Except StoreFault call.Answer × σ} {state after : σ}

/-- A query with a key and without a text ranks by the valid formula under the key. -/
theorem run_rankingSource_stored {formula : StoredFormula}
    (named : query.text "formula" ≠ .ofString "")
    (textless : query.text "expression" = .ofString "")
    (holds : answer state (.formulaByKey instanceID (query.text "formula")) = (.ok formula, after))
    (valid : formula.valid = true) :
    (rankingSource instanceID query).run answer state =
      ⟨[.formulaByKey instanceID (query.text "formula")], .ok (.stored formula.expression),
        after⟩ := by
  have keyed : (query.text "formula").isEmpty = false :=
    Bool.eq_false_iff.mpr (mt RawText.isEmpty_iff.mp named)
  have unwritten : (query.text "expression").isEmpty = true := RawText.isEmpty_iff.mpr textless
  obtain ⟨next, shape, -, found, -⟩ := storedSource_eq_ask instanceID (query.text "formula")
  simp only [rankingSource, keyed, unwritten, Bool.not_true, Bool.and_false, Bool.false_eq_true,
    if_false, shape, Dialogue.run, holds, found formula valid]

/-- A query with a text and without a key ranks by the text. -/
theorem rankingSource_adHoc (keyless : query.text "formula" = .ofString "")
    (written : query.text "expression" ≠ .ofString "") :
    rankingSource instanceID query = .done (.ok (.adHoc (query.text "expression"))) := by
  have unkeyed : (query.text "formula").isEmpty = true := RawText.isEmpty_iff.mpr keyless
  have filled : (query.text "expression").isEmpty = false :=
    Bool.eq_false_iff.mpr (mt RawText.isEmpty_iff.mp written)
  simp only [rankingSource, unkeyed, filled, Bool.not_true, Bool.not_false, Bool.false_and,
    Bool.false_eq_true, if_false, if_true]
  rfl

/-- A query with neither ranks by nothing. -/
theorem rankingSource_missing (keyless : query.text "formula" = .ofString "")
    (textless : query.text "expression" = .ofString "") :
    rankingSource instanceID query =
      .done (.error (.failure 400 "formula or expression required")) := by
  have unkeyed : (query.text "formula").isEmpty = true := RawText.isEmpty_iff.mpr keyless
  have unwritten : (query.text "expression").isEmpty = true := RawText.isEmpty_iff.mpr textless
  simp only [rankingSource, unkeyed, unwritten, Bool.not_true, Bool.and_false, Bool.false_eq_true,
    if_false, if_true]
  rfl

/-- Two requests of readers for the same page of the posts of an instance: one by a key and one
by a text. -/
structure RankingPair (access : Access) (instanceID : String) (key : RawText)
    (expression : String) (byKey byText : Request) : Prop where
  /-- Both ask. -/
  methods : byKey.method = "GET" ∧ byText.method = "GET"
  /-- Both ask for ranked posts of the instance. -/
  paths : pathSegments byKey.path =
      instancePath instanceID [.ofString "posts", .ofString "ranked"] ∧
    pathSegments byText.path = instancePath instanceID [.ofString "posts", .ofString "ranked"]
  /-- Both carry the key of a client. -/
  clients : access.FromClient byKey ∧ access.FromClient byText
  /-- The instance is served. -/
  served : instanceID ∈ access.allowedInstances
  /-- The first gives the key and no text. -/
  keyed : byKey.query.text "formula" = key ∧ byKey.query.text "expression" = .ofString ""
  /-- The second gives the text and no key. -/
  written : byText.query.text "expression" = .ofString expression ∧
    byText.query.text "formula" = .ofString ""
  /-- They give the same for the page. -/
  same : ∀ name ∈ ["page", "limit", "filter"],
    byKey.query.bytes? name = byText.query.bytes? name
  /-- The page they ask for is accepted. -/
  accepted : ∃ page, PageQuery.read byKey.query = .ok page

/-- Both requests of a pair ask for one page. -/
theorem RankingPair.read_eq {access : Access} {key : RawText} {expression : String}
    {byKey byText : Request} (pair : RankingPair access instanceID key expression byKey byText) :
    ∃ page, PageQuery.read byKey.query = .ok page ∧ PageQuery.read byText.query = .ok page := by
  obtain ⟨page, read⟩ := pair.accepted
  have same : PageQuery.read byKey.query = PageQuery.read byText.query :=
    PageQuery.read_congr (pair.same _ (by decide)) (pair.same _ (by decide))
      (pair.same _ (by decide))
  exact ⟨page, read, same ▸ read⟩

/-- A ranking by a text that makes a formula ranks with it. -/
theorem rankFrom_of_compiled (source : RankingSource) {formula : Formula}
    (compiled : Formula.ofText api.whitelist source.expression = .ok formula) :
    api.rankFrom instanceID page (.ok source) = api.rankWith instanceID page formula := by
  rw [rankFrom, compiled]

/-- A ranking by a text that makes none is refused. -/
theorem rankFrom_of_refused (source : RankingSource) {error : FormulaError}
    (refused : Formula.ofText api.whitelist source.expression = .error error) :
    api.rankFrom instanceID page (.ok source) =
      .done (error.toResponse source.refusalStatus) := by
  rw [rankFrom, refused]

section Agreement

variable {key : RawText} {expression : String} {byKey byText : Request}

/-- How a ranking by the key of a valid formula runs. -/
theorem RankingPair.run_byKey
    (pair : RankingPair api.access instanceID key expression byKey byText)
    (now : Instant) {formula : StoredFormula} (named : key ≠ .ofString "")
    (holds : answer state (.formulaByKey instanceID key) = (.ok formula, after))
    (valid : formula.valid = true) (read : PageQuery.read byKey.query = .ok page) :
    (api.respond now byKey).run answer state =
      let ranked :=
        (api.rankFrom instanceID page (.ok (.stored formula.expression))).run answer after
      ⟨.formulaByKey instanceID key :: ranked.asked,
        .answered (ranked.result.withTag (some byKey.tag)), ranked.state⟩ := by
  obtain ⟨rfl, textless⟩ := pair.keyed
  rw [respond_rankedPosts now pair.methods.1 pair.paths.1 pair.clients.1 pair.served, run_tagged,
    rankedPosts_eq, read]
  dsimp only
  rw [Dialogue.run_bind, run_rankingSource_stored named textless holds valid]
  rfl

/-- How a ranking by a text runs. -/
theorem RankingPair.run_byText
    (pair : RankingPair api.access instanceID key expression byKey byText)
    (now : Instant) (filled : expression ≠ "") (read : PageQuery.read byText.query = .ok page)
    (state : σ) :
    (api.respond now byText).run answer state =
      let ranked := (api.rankFrom instanceID page (.ok (.adHoc expression))).run answer state
      ⟨ranked.asked, .answered (ranked.result.withTag (some byText.tag)), ranked.state⟩ := by
  obtain ⟨text, keyless⟩ := pair.written
  have written : byText.query.text "expression" ≠ .ofString "" := by
    rw [text]
    exact mt RawText.ofString_inj.mp filled
  rw [respond_rankedPosts now pair.methods.2 pair.paths.2 pair.clients.2 pair.served, run_tagged,
    rankedPosts_eq, read]
  dsimp only
  rw [rankingSource_adHoc keyless written, text]
  rfl

/-- A ranking by the key of a valid formula and a ranking by its text agree, whatever the store:
after the formula was looked up they make the same calls and give the same response if the text
makes a formula. If it makes none, there are no other calls, and the responses differ in their
status only. -/
theorem rankings_agree (api : Api) (now later : Instant) {formula : StoredFormula}
    (pair : RankingPair api.access instanceID key expression byKey byText)
    (named : key ≠ .ofString "") (filled : expression ≠ "")
    (holds : answer state (.formulaByKey instanceID key) = (.ok formula, after))
    (valid : formula.valid = true) (text : formula.expression = expression) :
    let stored := (api.respond now byKey).run answer state
    let adHoc := (api.respond later byText).run answer after
    (Compiles api.whitelist expression →
      stored.asked = .formulaByKey instanceID key :: adHoc.asked ∧
        stored.state = adHoc.state ∧
        ∃ response : Response,
          stored.result = .answered (response.withTag (some byKey.tag)) ∧
            adHoc.result = .answered (response.withTag (some byText.tag))) ∧
    (¬Compiles api.whitelist expression →
      stored.asked = [.formulaByKey instanceID key] ∧ adHoc.asked = [] ∧
        ∃ (message : String) (type : ErrorType),
          stored.result =
              .answered ((expressionFailure 422 message type).withTag (some byKey.tag)) ∧
            adHoc.result =
              .answered ((expressionFailure 400 message type).withTag (some byText.tag))) := by
  obtain ⟨page, readKey, readText⟩ := pair.read_eq
  subst text
  rw [pair.run_byKey now named holds valid readKey, pair.run_byText later filled readText after]
  dsimp only
  constructor
  · rintro ⟨made, compiled⟩
    rw [rankFrom_of_compiled (.stored _) compiled, rankFrom_of_compiled
      (.adHoc formula.expression) compiled]
    exact ⟨rfl, rfl, _, rfl, rfl⟩
  · intro refused
    cases made : Formula.ofText api.whitelist formula.expression with
    | ok compiled => exact absurd ⟨compiled, made⟩ refused
    | error error =>
      rw [rankFrom_of_refused (.stored _) made, rankFrom_of_refused
        (.adHoc formula.expression) made]
      exact ⟨rfl, rfl, error.message, error.type, rfl, rfl⟩

end Agreement

/-- A valid formula that ranks by `likes`, under a key. -/
def likesFormula (key : String) : StoredFormula :=
  { StoredFormula.blank with
    key := key, expression := "likes", variableNames := some ["likes"], valid := true }

/-- A store of `blog` with that formula. -/
def likesStore (key : String) : MemoryStore :=
  { blogStore with formulas := [("blog", [likesFormula key])] }

/-- A reader asks for the posts of `blog` ranked as a query says. -/
def blogRanking (query : String) : Request :=
  ⟨"GET", "/v1/instances/blog/posts/ranked?" ++ query, [("X-API-Key", "read")], "", false⟩

/-- Rankings of `blog` by a key and by the text `likes`. -/
theorem blogRanking_pair {query : String} {key : RawText}
    (path : pathSegments (blogRanking query).path =
      instancePath "blog" [.ofString "posts", .ofString "ranked"])
    (keyed : (blogRanking query).query.text "formula" = key ∧
      (blogRanking query).query.text "expression" = .ofString "")
    (same : ∀ name ∈ ["page", "limit", "filter"],
      (blogRanking query).query.bytes? name = (blogRanking "expression=likes").query.bytes? name)
    (accepted : (PageQuery.read (blogRanking query).query).isOk = true) :
    RankingPair blog.access "blog" key "likes" (blogRanking query)
      (blogRanking "expression=likes") where
  methods := ⟨rfl, rfl⟩
  paths := ⟨path, by decide⟩
  clients := by
    have client : ⟨"feed", "read"⟩ ∈ blog.access.clients := List.mem_singleton.mpr rfl
    exact ⟨⟨_, client, by decide, rfl⟩, ⟨_, client, by decide, rfl⟩⟩
  served := List.mem_singleton.mpr rfl
  keyed := keyed
  written := by decide
  same := same
  accepted := by
    cases read : PageQuery.read (blogRanking query).query with
    | ok page => exact ⟨page, rfl⟩
    | error fault =>
      rw [read] at accepted
      cases accepted

/-- The text `likes` makes a formula of `blog`. -/
theorem compiles_likes : Compiles blog.whitelist "likes" := by
  have made : (Formula.ofText blog.whitelist (.ofString "likes")).isOk = true := by decide
  cases compiled : Formula.ofText blog.whitelist (.ofString "likes") with
  | ok formula => exact ⟨formula, compiled⟩
  | error error =>
    rw [compiled] at made
    cases made

/-- Rankings of `blog` by the key `hot` and by the text that stands under it agree. -/
theorem rankings_agree_hot :
    let stored := (blog.respond .zero (blogRanking "formula=hot")).run MemoryStore.answer
      (likesStore "hot")
    let adHoc := (blog.respond .zero (blogRanking "expression=likes")).run MemoryStore.answer
      (likesStore "hot")
    stored.asked = .formulaByKey "blog" (.ofString "hot") :: adHoc.asked ∧
      stored.state = adHoc.state ∧
      ∃ response : Response, stored.result = .answered (response.withTag (some .fresh)) ∧
        adHoc.result = .answered (response.withTag (some .fresh)) := by
  have pair : RankingPair blog.access "blog" (.ofString "hot") "likes"
      (blogRanking "formula=hot") (blogRanking "expression=likes") :=
    blogRanking_pair (by decide) (by decide) (by decide)
      (by decide)
  have holds : (likesStore "hot").answer (.formulaByKey "blog" (.ofString "hot")) =
      (.ok (likesFormula "hot"), likesStore "hot") := rfl
  exact (rankings_agree blog .zero .zero pair (by decide) (by decide) holds rfl rfl).1
    compiles_likes

/-- A ranking in memory by a text that makes a formula succeeds. -/
theorem run_rankWith_status (api : Api) (instanceID : String) (page : PageQuery)
    (formula : Formula) (store : MemoryStore) :
    ((api.rankWith instanceID page formula).run MemoryStore.answer store).result.status = 200 := by
  show (Response.ofJson? 200 (rankedPage? store.posts _ formula)).status = 200
  cases rankedPage? store.posts _ formula <;> rfl

/-- A formula that stands under the empty key is valid and makes a formula, yet a ranking by its
key is refused while a ranking by its text succeeds. -/
theorem rankings_differ_unnamed :
    RankingPair blog.access "blog" (.ofString "") "likes" (blogRanking "formula=")
        (blogRanking "expression=likes") ∧
      (likesStore "").answer (.formulaByKey "blog" (.ofString "")) =
        (.ok (likesFormula ""), likesStore "") ∧
      (likesFormula "").valid = true ∧ (likesFormula "").expression = "likes" ∧
      Compiles blog.whitelist "likes" ∧
      ∃ refusal success : Response,
        ((blog.respond .zero (blogRanking "formula=")).run MemoryStore.answer
            (likesStore "")).result = .answered refusal ∧
          ((blog.respond .zero (blogRanking "expression=likes")).run MemoryStore.answer
            (likesStore "")).result = .answered success ∧
          refusal.status = 400 ∧ success.status = 200 := by
  have pair : RankingPair blog.access "blog" (.ofString "") "likes" (blogRanking "formula=")
      (blogRanking "expression=likes") :=
    blogRanking_pair (by decide) (by decide) (by decide)
      (by decide)
  obtain ⟨page, readKey, readText⟩ := pair.read_eq
  obtain ⟨formula, compiled⟩ := compiles_likes
  refine ⟨pair, rfl, rfl, rfl, ⟨formula, compiled⟩, ?_⟩
  rw [respond_rankedPosts .zero pair.methods.1 pair.paths.1 pair.clients.1 pair.served, run_tagged,
    rankedPosts_eq, readKey, pair.run_byText .zero (by decide) readText (likesStore "")]
  dsimp only
  rw [rankingSource_missing pair.keyed.1 pair.keyed.2,
    rankFrom_of_compiled (.adHoc "likes") compiled]
  exact ⟨_, _, rfl, rfl, rfl, run_rankWith_status blog "blog" page formula (likesStore "")⟩

end Api
end RankFormula
