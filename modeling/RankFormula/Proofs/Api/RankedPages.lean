import RankFormula.Proofs.Api.RankingSources
import RankFormula.Proofs.Formula.Paging
import RankFormula.Proofs.Formula.Ranking
import RankFormula.Service.Connection

/-!
# Pages of ranked posts

A ranking counts the posts before it reads a page of them, and the two calls have to speak of the
same posts. `ShowsPage` says which pipelines show the page of a window, and
`Api.ranked_page_matches_count` that every ranking that reads posts reads such a page, of the
posts that it counted. What the store counts is left open; `Connection.countsPosts` shows that a
connection to a server answers pages as it is assumed here.
-/

namespace RankFormula

/-- The page of a query has at least one post and at most a hundred. -/
theorem PageQuery.limit_bounds {query : Query} {page : PageQuery}
    (read : PageQuery.read query = .ok page) :
    1 ≤ page.limit.toInt ∧ page.limit.toInt ≤ 100 := by
  simp only [PageQuery.read, bind, Except.bind] at read
  split at read
  · cases read
  · split at read
    · cases read
    · split at read
      · cases read
      · next limit _ =>
        split at read
        · cases read
        · next large =>
          split at read
          · cases read
          · obtain rfl := Except.ok.inj read
            have sized : ¬limit < 1 := by
              intro small
              simp [small] at large
            rw [Int64.toInt_ofInt_of_le (by simp only [maxLimit]; omega)
              (by simp only [maxLimit]; omega)]
            simp only [maxLimit]
            omega

/-- A pipeline shows the page of a window, out of the documents that satisfy a filter. -/
structure ShowsPage (filter : Filter) (window : PageWindow) (pipeline : List Stage) : Prop where
  /-- A page has at least one document and at most a hundred. -/
  bounded : 1 ≤ window.pageSize.toInt ∧ window.pageSize.toInt ≤ 100
  /-- The documents are filtered, unless the filter is empty, then scored and sorted; those before
  the page are left out, if there are any, and in the end the page is cut off. -/
  stages : ∃ additions keys, (∀ stage ∈ additions, ∃ fields, stage = Stage.addFields fields) ∧
    pipeline =
      (if filter.isEmpty then [] else [.filter filter]) ++ additions ++ [.sort keys] ++
        (if 1 < window.currentPage.toInt then
          [.skip ((window.currentPage.toInt - 1) * window.pageSize.toInt)] else []) ++
        [.limit window.pageSize.toInt]

/-- A response with a JSON value reports a window as the page it shows. -/
def Response.ReportsWindow (response : Response) (window : PageWindow) : Prop :=
  response.status = 200 → ∀ value, response.body = .json value →
    value.member? "pagination" = some window.toJson

/-- A call reads posts. -/
def StoreCall.ReadsPosts : StoreCall → Prop
  | .ranked _ _ => True
  | _ => False

/-- A store that answers a page by counting: the window it answers is the one that belongs to
some number of posts. -/
def CountsPosts {σ : Type} (answer : σ → (call : StoreCall) → Except StoreFault call.Answer × σ) :
    Prop :=
  ∀ (state : σ) (instanceID : String) (filter : Filter) (page limit : Int64) (window : PageWindow),
    (answer state (.page instanceID filter page limit)).1 = .ok window →
      ∃ count : Int64, 0 ≤ count.toInt ∧ window = .clamp count page limit

namespace Api

variable {σ : Type} {api : Api} {instanceID : String} {formula : Formula} {query : PageQuery}
  {answer : σ → (call : StoreCall) → Except StoreFault call.Answer × σ} {state : σ}

/-- The stages between the filter of a pipeline and its order only add fields. -/
theorem pipeline_additions (formula : Formula) (options : PipelineOptions) :
    ∃ additions keys, (∀ stage ∈ additions, ∃ fields, stage = Stage.addFields fields) ∧
      formula.pipeline options =
        (if (formula.matchFilter options.filter).isEmpty then []
          else [.filter (formula.matchFilter options.filter)]) ++ additions ++ [.sort keys] ++
          (if 0 < options.skip then [.skip options.skip] else []) ++
          (if 0 < options.limit then [.limit options.limit] else []) := by
  rw [formula.pipeline_eq_blocks options]
  have converting : ∃ stages : List Stage, stages =
      (if (formula.dateConversions options.dateFields).isEmpty then []
        else [.addFields (formula.dateConversions options.dateFields)]) ∧
      ∀ stage ∈ stages, ∃ fields, stage = Stage.addFields fields := by
    refine ⟨_, rfl, fun stage member => ?_⟩
    split at member
    · exact absurd member List.not_mem_nil
    · exact ⟨_, List.mem_singleton.mp member⟩
  obtain ⟨stages, shape, adds⟩ := converting
  refine ⟨stages ++ [.addFields [(options.scoreName, formula.tree)]], options.sortKeys, ?_, ?_⟩
  · intro stage member
    rcases List.mem_append.mp member with conversion | score
    · exact adds stage conversion
    · exact ⟨_, List.mem_singleton.mp score⟩
  · simp only [← shape, List.append_assoc, List.cons_append, List.nil_append]

/-- The pipeline of a page shows it, out of the documents that are counted. -/
theorem pagePipeline_shows (api : Api) (formula : Formula) (conditions : Filter)
    (count page : Int64) {limit : Int64} (bounds : 1 ≤ limit.toInt ∧ limit.toInt ≤ 100) :
    ShowsPage (formula.matchFilter conditions) (.clamp count page limit)
      (api.pagePipeline formula conditions (.clamp count page limit)) := by
  have size : (PageWindow.clamp count page limit).pageSize = limit :=
    PageWindow.clamp_pageSize bounds.1
  have skipped := PageWindow.clamp_skip count page bounds.1
  have shown := PageWindow.clamp_currentPage count page bounds.1
  dsimp only at skipped shown
  generalize PageWindow.clamp count page limit = window at size skipped shown ⊢
  subst size
  -- There is something to leave out exactly if the page is not the first one.
  have later : 0 < window.skip.toInt ↔ 1 < window.currentPage.toInt := by
    rw [skipped]
    rcases shown with first | ⟨later, -⟩
    · simp [first]
    · exact iff_of_true (Int.mul_pos (by omega) (by omega)) later
  have limited : 0 < window.pageSize.toInt := by omega
  obtain ⟨additions, keys, adds, stages⟩ := pipeline_additions formula
    { scoreField := api.scoreField, filter := conditions, dateFields := api.dateFields,
      skip := window.skip.toInt, limit := window.pageSize.toInt }
  refine ⟨bounds, additions, keys, adds, ?_⟩
  rw [pagePipeline, stages]
  simp only [later, limited, if_true]
  rw [skipped]

/-- The response of a ranking reports the window that was shown. -/
theorem reportsWindow_rankedPage (posts : Option (List Value)) (window : PageWindow)
    (formula : Formula) :
    (Response.ofJson? 200 (rankedPage? posts window formula)).ReportsWindow window := by
  intro _ value carried
  cases written : rankedPage? posts window formula with
  | none =>
    rw [written] at carried
    cases carried
  | some json =>
    rw [written] at carried
    obtain rfl := Body.json.inj carried
    simp only [rankedPage?, bind, Option.bind_eq_some_iff, Option.some.injEq] at written
    obtain ⟨posts, -, formula, -, rfl⟩ := written
    rfl

/-- How a ranking can go. -/
inductive RankingPlay (api : Api) (instanceID : String) : List AnsweredCall → Response → Prop where
  /-- It reads no posts. -/
  | unread {exchanges : List AnsweredCall} {response : Response}
    (none : ∀ exchange ∈ exchanges, ¬exchange.1.ReadsPosts) :
    RankingPlay api instanceID exchanges response
  /-- It looks up its formula, counts posts, and reads a page of those that it counted. -/
  | read {lookups : List AnsweredCall} {query : PageQuery} {window : PageWindow}
    {reply : Except StoreFault (Option (List Value))} {response : Response} (formula : Formula)
    (looked : ∀ exchange ∈ lookups, ∃ key, exchange.1 = .formulaByKey instanceID key)
    (bounds : 1 ≤ query.limit.toInt ∧ query.limit.toInt ≤ 100)
    (reports : response.ReportsWindow window) :
    RankingPlay api instanceID
      (lookups ++
        [⟨.page instanceID (formula.matchFilter query.conditions) query.page query.limit,
            .ok window⟩,
          ⟨.ranked instanceID (api.pagePipeline formula query.conditions window), reply⟩])
      response

/-- Looking up formulas reads no posts. -/
theorem not_readsPosts_of_looked {lookups : List AnsweredCall}
    (looked : ∀ exchange ∈ lookups, ∃ key, exchange.1 = .formulaByKey instanceID key) :
    ∀ exchange ∈ lookups, ¬exchange.1.ReadsPosts := by
  intro exchange member
  obtain ⟨key, shape⟩ := looked exchange member
  rw [shape]
  exact id

/-- How a ranking goes from its formula, after the formula was looked up. -/
theorem rankWith_plays (api : Api) {lookups : List AnsweredCall} (formula : Formula)
    (looked : ∀ exchange ∈ lookups, ∃ key, exchange.1 = .formulaByKey instanceID key)
    (bounds : 1 ≤ query.limit.toInt ∧ query.limit.toInt ≤ 100) :
    (api.rankWith instanceID query formula).AllPlays fun exchanges =>
      RankingPlay api instanceID (lookups ++ exchanges) := by
  rintro (fault | window)
  · refine .unread (List.forall_mem_append.mpr ⟨not_readsPosts_of_looked looked, ?_⟩)
    exact List.forall_mem_singleton.mpr id
  · rintro (fault | posts)
    · exact .read formula looked bounds fun succeeds => absurd succeeds (by decide)
    · exact .read formula looked bounds (reportsWindow_rankedPage posts window formula)

/-- How a ranking goes. -/
theorem rankedPosts_plays (api : Api) (instanceID : String) (query : Query) :
    (api.rankedPosts instanceID query).AllPlays (RankingPlay api instanceID) := by
  rw [rankedPosts_eq]
  split
  · exact .unread fun _ member => absurd member List.not_mem_nil
  · next page read =>
    refine (rankingSource_looksUp instanceID query).allPlays.bind fun lookups source looked => ?_
    have unread (response : Response) : RankingPlay api instanceID (lookups ++ []) response := by
      rw [List.append_nil]
      exact .unread (not_readsPosts_of_looked looked)
    rcases source with response | source
    · exact unread response
    · rw [rankFrom]
      split
      · exact unread _
      · exact rankWith_plays api _ looked (PageQuery.limit_bounds read)

/-- How a ranking goes does not depend on the tag of its response. -/
theorem RankingPlay.withTag {exchanges : List AnsweredCall} {response : Response}
    (play : RankingPlay api instanceID exchanges response) (tag : Option RequestTag) :
    RankingPlay api instanceID exchanges (response.withTag tag) := by
  cases play with
  | unread none => exact .unread none
  | read formula looked bounds reports => exact .read formula looked bounds reports

/-- How a request for ranked posts goes. -/
theorem respond_plays (api : Api) (now : Instant) {request : Request}
    (method : request.method = "GET")
    (path : pathSegments request.path =
      instancePath instanceID [.ofString "posts", .ofString "ranked"]) :
    (api.respond now request).AllPlays fun exchanges outcome =>
      ∃ response, outcome = .answered response ∧ RankingPlay api instanceID exchanges response := by
  rcases respond_rankedPosts_cases api now method path with ⟨refusal, tag, refused⟩ | reached
  · rw [refused]
    exact ⟨_, rfl, .unread fun _ member => absurd member List.not_mem_nil⟩
  · obtain ⟨session, reached, plays⟩ : ∃ session,
        api.respond now request = tagged (some request.tag) session ∧
          session.AllPlays (RankingPlay api instanceID) :=
      ⟨_, reached, rankedPosts_plays api instanceID request.query⟩
    rw [reached]
    exact tagged_allPlays plays fun _ _ play => play.withTag _

/-- The page that a ranking shows and the count behind it describe the same posts, and no ranking
reads without bound. Whatever the request for ranked posts and whatever number of posts the store
counts, if posts are read at all, they are read last and from a page that was counted just before,
with the filter of the count, and the response reports that page. -/
theorem ranked_page_matches_count (api : Api) (now : Instant) {request : Request}
    (method : request.method = "GET")
    (path : pathSegments request.path =
      instancePath instanceID [.ofString "posts", .ofString "ranked"])
    (counts : CountsPosts answer) (state : σ) {other : String} {pipeline : List Stage}
    (ranked : .ranked other pipeline ∈ ((api.respond now request).run answer state).asked) :
    ∃ (lookups : List AnsweredCall) (filter : Filter) (page limit count : Int64)
      (reply : Except StoreFault (Option (List Value))) (response : Response),
      let window := PageWindow.clamp count page limit
      0 ≤ count.toInt ∧
        (api.respond now request).exchanges answer state =
          lookups ++ [⟨.page instanceID filter page limit, .ok window⟩,
            ⟨.ranked instanceID pipeline, reply⟩] ∧
        (∀ exchange ∈ lookups, ∃ key, exchange.1 = .formulaByKey instanceID key) ∧
        ShowsPage filter window pipeline ∧
        ((api.respond now request).run answer state).result = .answered response ∧
        response.ReportsWindow window := by
  obtain ⟨response, answered, play⟩ := (respond_plays api now method path).run answer state
  have given : ∀ exchange ∈ (api.respond now request).exchanges answer state,
      ∃ before, (answer before exchange.1).1 = exchange.2 :=
    fun _ => Dialogue.exists_answer_of_mem_exchanges
  rw [Dialogue.run_asked_eq] at ranked
  obtain ⟨⟨call, posts⟩, asked, same⟩ := List.mem_map.mp ranked
  obtain rfl : call = .ranked other pipeline := same
  generalize (api.respond now request).exchanges answer state = exchanges at play given asked ⊢
  cases play with
  | unread none =>
    exact absurd trivial (none _ asked)
  | @read lookups query window reply _ formula looked bounds reports =>
    -- The only call that reads posts is the last one, so its pipeline is the one of the page.
    have last : pipeline = api.pagePipeline formula query.conditions window := by
      rcases List.mem_append.mp asked with lookup | final
      · exact absurd trivial (not_readsPosts_of_looked looked _ lookup)
      · rcases List.mem_cons.mp final with counting | ranking
        · cases congrArg Sigma.fst counting
        · have calls := congrArg Sigma.fst (List.mem_singleton.mp ranking)
          exact (StoreCall.ranked.inj calls).2
    obtain ⟨before, counted⟩ := given
      ⟨.page instanceID (formula.matchFilter query.conditions) query.page query.limit, .ok window⟩
      (List.mem_append_right _ List.mem_cons_self)
    obtain ⟨count, nonneg, rfl⟩ := counts _ _ _ _ _ _ counted
    subst last
    exact ⟨lookups, _, _, _, count, reply, response, nonneg, rfl, looked,
      pagePipeline_shows api formula query.conditions count query.page bounds, answered, reports⟩

end Api

namespace Connection

variable {σ : Type}

/-- A store whose calls are carried out over a connection to a server with a state. -/
def carryOut (connection : Connection) (now : Instant) (server : σ → Command → Value × σ)
    (state : σ) (call : StoreCall) : Except StoreFault call.Answer × σ :=
  let played := (connection.answer now call).run server state
  (played.result, played.state)

/-- Over a connection, a page is answered by counting. -/
theorem countsPosts (connection : Connection) (now : Instant) {server : σ → Command → Value × σ}
    (counted : ∀ state instanceID filter count,
      ((connection.countPosts instanceID filter).run server state).result = .ok count →
        0 ≤ count.toInt) :
    CountsPosts (connection.carryOut now server) := by
  intro state instanceID filter page limit window answered
  have picked : (((connection.countPosts instanceID filter).bind fun count =>
      .done (count.map fun n => PageWindow.clamp n page limit)).run server state).result =
        .ok window := answered
  rw [Dialogue.run_bind] at picked
  dsimp only [Dialogue.run] at picked
  cases found : ((connection.countPosts instanceID filter).run server state).result with
  | error fault =>
    rw [found] at picked
    cases picked
  | ok count =>
    rw [found] at picked
    exact ⟨count, counted state instanceID filter count found, (Except.ok.inj picked).symm⟩

end Connection

namespace Api

/-- A server with 41 posts: it answers every command by a document that holds that number. -/
def countingServer (_ : Unit) (_ : Command) : Value × Unit :=
  let batch := Value.list [.object [("n", .int 41)]]
  (.object [("ok", .int 1),
    ("cursor", .object [("firstBatch", batch), ("id", .int 0), ("ns", .string "db.posts")])], ())

/-- The store of that server. -/
def countingStore : Unit → (call : StoreCall) → Except StoreFault call.Answer × Unit :=
  Connection.carryOut ⟨"", false⟩ .zero countingServer

/-- The window that a call answers. -/
def AnsweredCall.window? : AnsweredCall → Option PageWindow
  | ⟨.page _ _ _ _, .ok window⟩ => some window
  | _ => none

/-- The third page of twenty posts of `blog` is the last one: of 41 posts forty are left out. -/
theorem ranked_page_matches_count_blog :
    let request := blogRanking "expression=likes&page=3&limit=20"
    ∃ filter pipeline,
      .ranked "blog" pipeline ∈ ((blog.respond .zero request).run countingStore ()).asked ∧
        ShowsPage filter ⟨41, 3, 3, 20⟩ pipeline := by
  intro request
  have counts : CountsPosts countingStore := by
    apply Connection.countsPosts
    intro _ _ _ count found
    obtain rfl : 41 = count := Except.ok.inj found
    decide
  have path : pathSegments request.path =
      instancePath "blog" [.ofString "posts", .ofString "ranked"] := by decide
  have windows : ((blog.respond .zero request).exchanges countingStore ()).map
      AnsweredCall.window? = [some ⟨41, 3, 3, 20⟩, none] := by decide +kernel
  have reads : ((blog.respond .zero request).run countingStore ()).asked.any
      (fun call => match call with | .ranked _ _ => true | _ => false) = true := by decide +kernel
  obtain ⟨call, asked, isRanked⟩ := List.any_eq_true.mp reads
  cases call with
  | ranked other pipeline =>
    obtain ⟨lookups, filter, page, limit, count, reply, response, -, exchanges, -, shows, -⟩ :=
      ranked_page_matches_count blog .zero rfl path counts () asked
    rw [exchanges, List.map_append] at windows
    have answered : lookups.map AnsweredCall.window? ++
        [some (PageWindow.clamp count page limit), none] = [] ++ [some ⟨41, 3, 3, 20⟩, none] :=
      windows
    have window := Option.some.inj (List.cons.inj (List.append_inj' answered rfl).2).1
    refine ⟨filter, pipeline, ?_, window ▸ shows⟩
    rw [Dialogue.run_asked_eq, exchanges]
    simp
  | _ => cases isRanked

end Api
end RankFormula
