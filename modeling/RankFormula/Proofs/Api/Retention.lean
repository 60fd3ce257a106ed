import RankFormula.Proofs.Api.Authorisation
import RankFormula.Proofs.Audit.Interleaving
import RankFormula.Proofs.Formula.Tree

/-!
# What requests leave in the store

A request leaves the table of the store as it is, puts one formula that the service can rank
with, or removes one (`Api.Serves.leaves`). By induction over requests, every formula that
stands in a table that was empty at first is usable, and a ranking by the key of such a
formula is not refused for the sake of the formula.
-/

namespace RankFormula

/-- A character that may stand in the key of a formula. -/
def KeyCharacter (c : Char) : Prop :=
  'a' ≤ c ∧ c ≤ 'z' ∨ 'A' ≤ c ∧ c ≤ 'Z' ∨ '0' ≤ c ∧ c ≤ '9' ∨ c = '-' ∨ c = '_'

/-- The test for characters of keys. -/
theorem isKeyChar_iff {c : Char} : isKeyChar c = true ↔ KeyCharacter c := by
  unfold isKeyChar KeyCharacter Char.isAlphanum Char.isAlpha Char.isUpper Char.isLower Char.isDigit
  simp only [Bool.or_eq_true, Bool.and_eq_true, decide_eq_true_eq, Char.le_def]
  tauto

/-- Keys are the texts of 1 to 64 bytes with nothing but such characters. -/
theorem isKey_iff {key : String} :
    isKey key = true ↔
      1 ≤ key.utf8ByteSize ∧ key.utf8ByteSize ≤ 64 ∧ ∀ c ∈ key.toList, KeyCharacter c := by
  have filled : (!key.isEmpty) = true ↔ 1 ≤ key.utf8ByteSize := by
    rw [Bool.not_eq_true', String.isEmpty_eq_false_iff, Nat.one_le_iff_ne_zero, ne_eq, ne_eq,
      String.utf8ByteSize_eq_zero_iff]
  simp only [isKey, Bool.and_eq_true, filled, decide_eq_true_eq, List.all_eq_true, isKeyChar_iff,
    and_assoc]
  rfl

/-- A formula that the service can rank with stands under a key. -/
structure StoredFormula.Usable (whitelist : Whitelist) (key : RawText)
    (formula : StoredFormula) : Prop where
  /-- The key is its own. -/
  own : key = .ofString formula.key
  /-- The key has 1 to 64 bytes. -/
  length : 1 ≤ formula.key.utf8ByteSize ∧ formula.key.utf8ByteSize ≤ 64
  /-- The key has only letters, digits, hyphens and underscores. -/
  characters : ∀ c ∈ formula.key.toList, KeyCharacter c
  /-- It is marked valid. -/
  valid : formula.valid = true
  /-- Its expression makes a formula. -/
  compiles : Compiles whitelist formula.expression
  /-- Its variables are those of its expression. -/
  variableNames : ∃ node : Node, Node.parse formula.expression = .ok node ∧
    formula.variableNames = some node.variableNames

/-- What a save records of an expression that compiled, under a proper key, is usable. -/
theorem SaveRequest.usable_of_records {whitelist : Whitelist} {saved : SaveRequest}
    {formula : Formula} {user : String} {recorded : StoredFormula}
    (proper : isKey saved.key = true)
    (compiled : Formula.ofText whitelist saved.expression = .ok formula)
    (records : recorded.Records (saved.toStored formula user)) :
    recorded.Usable whitelist (.ofString recorded.key) := by
  obtain ⟨nonempty, short, characters⟩ := isKey_iff.mp proper
  obtain ⟨node, parsed, made⟩ := Formula.ofText_eq_ok.mp compiled
  obtain ⟨-, -, names⟩ := Formula.ofNode_eq_ok.mp made
  have key : recorded.key = saved.key := records.key
  have expression : recorded.expression = saved.expression := records.expression
  refine ⟨rfl, ?_, ?_, records.valid, ?_, ?_⟩
  · rw [key]
    exact ⟨nonempty, short⟩
  · rw [key]
    exact characters
  · rw [expression]
    exact ⟨formula, compiled⟩
  · rw [expression]
    exact ⟨node, parsed, records.variableNames.trans (congrArg some names)⟩

namespace Api

variable {σ : Type} {api : Api} {now : Instant} {request : Request} {instanceID : String}
  {session : Session Outcome}

/-- What a request may make of a table. -/
inductive Leaves (api : Api) (request : Request) (before : FormulaTable) :
    Response → FormulaTable → Prop where
  /-- It leaves the table as it is. -/
  | unchanged (response : Response) : Leaves api request before response before
  /-- It puts a usable formula of the instance in its path, and succeeds. -/
  | saved {response : Response} {instanceID : String} {rest : List RawText}
    {formula : StoredFormula} (success : response.status = 200)
    (path : pathSegments request.path = instancePath instanceID rest)
    (usable : formula.Usable api.whitelist (.ofString formula.key)) :
    Leaves api request before response (before.put instanceID formula)
  /-- It removes a formula of the instance in its path, and succeeds. -/
  | deleted {response : Response} {instanceID : String} {rest : List RawText} (key : RawText)
    (success : response.status = 200)
    (path : pathSegments request.path = instancePath instanceID rest) :
    Leaves api request before response (before.remove instanceID key)

/-- What a request that is served makes of the table. -/
theorem Serves.leaves (serves : api.Serves now request session) (store : FormulaStore σ)
    (state : σ) :
    ∃ response, (session.run store.answer state).result = .answered response ∧
      api.Leaves request (store.table state) response
        (store.table (session.run store.answer state).state) := by
  cases serves with
  | reading asks ends =>
    obtain ⟨response, answered⟩ := ends.result state
    have kept := asks.keeps (fun s => store.table s = store.table state)
      (fun call read s same => (store.table_of_isRead s read.1).trans same) rfl
    refine ⟨response, answered, ?_⟩
    rw [kept]
    exact .unchanged response
  | @saving instanceID claims saved formula next method edits proper compiled ends =>
    let call := StoreCall.save instanceID (saved.toStored formula claims.subject)
    obtain ⟨response, ended, status⟩ := ends (store.answer state call).1
    simp only [Dialogue.run]
    rw [ended]
    refine ⟨response, rfl, ?_⟩
    cases reply : (store.answer state call).1 with
    | error fault =>
      rw [Dialogue.run, store.table_of_not_saved reply]
      exact .unchanged response
    | ok recorded =>
      obtain ⟨records, after⟩ := store.table_of_saved reply
      rw [Dialogue.run, after]
      exact .saved (status.mpr ⟨recorded, reply⟩) edits.path
        (SaveRequest.usable_of_records proper compiled records)
  | @deleting instanceID key claims next method edits admin ends =>
    obtain ⟨response, ended, status⟩ := ends (store.answer state (.delete instanceID key)).1
    simp only [Dialogue.run]
    rw [ended]
    refine ⟨response, rfl, ?_⟩
    cases reply : (store.answer state (.delete instanceID key)).1 with
    | error fault =>
      rw [Dialogue.run, store.table_of_not_deleted reply]
      exact .unchanged response
    | ok deleted =>
      rw [Dialogue.run, store.table_of_deleted reply]
      exact .deleted key (status.mpr reply) edits.path

/-- All formulas of a table are usable. -/
def AllUsable (api : Api) (table : FormulaTable) : Prop :=
  ∀ instanceID key formula, table instanceID key = some formula →
    formula.Usable api.whitelist key

namespace Leaves

variable {before after : FormulaTable} {response : Response}

/-- Formulas stay usable. -/
theorem allUsable (leaves : api.Leaves request before response after)
    (usable : api.AllUsable before) : api.AllUsable after := by
  intro i key formula present
  cases leaves with
  | unchanged => exact usable i key formula present
  | saved success path fresh =>
    rcases FormulaTable.of_put_eq_some present with ⟨rfl, rfl⟩ | stood
    · exact fresh
    · exact usable i key formula stood
  | deleted gone success path =>
    exact usable i key formula (FormulaTable.of_remove_eq_some present)

/-- A request that does not succeed changes nothing. -/
theorem eq_of_status_ne (leaves : api.Leaves request before response after)
    (failed : response.status ≠ 200) : after = before := by
  cases leaves with
  | unchanged => rfl
  | saved success path fresh => exact absurd success failed
  | deleted gone success path => exact absurd success failed

/-- A request changes only the instance in its path. -/
theorem path_of_ne (leaves : api.Leaves request before response after)
    (changed : after instanceID ≠ before instanceID) :
    ∃ rest, pathSegments request.path = instancePath instanceID rest := by
  cases leaves with
  | unchanged => exact absurd rfl changed
  | @saved named rest formula success path fresh =>
    by_cases same : instanceID = named
    · exact ⟨rest, same ▸ path⟩
    · exact absurd (FormulaTable.put_of_ne same formula) changed
  | @deleted named rest gone success path =>
    by_cases same : instanceID = named
    · exact ⟨rest, same ▸ path⟩
    · exact absurd (FormulaTable.remove_of_ne same gone) changed

end Leaves

/-- The state of a store after requests, each at its time. -/
def stateAfter (api : Api) (answer : σ → (call : StoreCall) → Except StoreFault call.Answer × σ) :
    List (Instant × Request) → σ → σ
  | [], state => state
  | (now, request) :: requests, state =>
    api.stateAfter answer requests ((api.respond now request).run answer state).state

/-- Requests leave only usable formulas where there were no others. -/
theorem allUsable_stateAfter (api : Api) (store : FormulaStore σ)
    (requests : List (Instant × Request)) {state : σ} (usable : api.AllUsable (store.table state)) :
    api.AllUsable (store.table (api.stateAfter store.answer requests state)) := by
  induction requests generalizing state with
  | nil => exact usable
  | cons first requests ih =>
    obtain ⟨now, request⟩ := first
    obtain ⟨response, -, leaves⟩ := (api.serves_respond now request).leaves store state
    exact ih (leaves.allUsable usable)

section Ranking

variable {store : FormulaStore σ} {state : σ} {query : Query}

/-- A status that blames the formula of a ranking. -/
def BlamesFormula (response : Response) : Prop := response.status = 404 ∨ response.status = 422

/-- A tag blames nothing. -/
theorem blamesFormula_withTag {response : Response} {tag : Option RequestTag} :
    BlamesFormula (response.withTag tag) ↔ BlamesFormula response := Iff.rfl

/-- Other statuses blame something else. -/
theorem not_blamesFormula {response : Response} (code : Nat) (status : response.status = code)
    (other : code ≠ 404 ∧ code ≠ 422) : ¬BlamesFormula response := by
  rw [BlamesFormula, status, not_or]
  exact other

/-- A source of a ranking for which the formula will not be blamed: a text of the caller, a
stored one that compiles, or none for other reasons. -/
def Blameless (whitelist : Whitelist) : Except Response RankingSource → Prop
  | .error response => ¬BlamesFormula response
  | .ok (.adHoc _) => True
  | .ok (.stored expression) => Compiles whitelist expression

/-- The source of a ranking by the key of a usable formula is blameless. -/
theorem rankingSource_blameless {formula : StoredFormula}
    (present : store.table state instanceID (query.text "formula") = some formula)
    (usable : formula.Usable api.whitelist (query.text "formula")) :
    Blameless api.whitelist ((rankingSource instanceID query).run store.answer state).result := by
  unfold rankingSource
  dsimp only
  split
  · exact not_blamesFormula 400 rfl (by decide)
  · split
    · trivial
    · split
      · exact not_blamesFormula 400 rfl (by decide)
      · obtain ⟨next, shape, -, valid, failing⟩ :=
          storedSource_eq_ask instanceID (query.text "formula")
        rw [shape, Dialogue.run]
        cases reply : (store.answer state (.formulaByKey instanceID (query.text "formula"))).1 with
        | ok found =>
          obtain rfl : formula = found :=
            Option.some.inj (present.symm.trans (store.table_of_found reply))
          dsimp only
          rw [reply, valid formula usable.valid]
          exact usable.compiles
        | error fault =>
          have other : fault ≠ .formulaNotFound := by
            rintro rfl
            cases present.symm.trans (store.table_of_not_found reply)
          obtain ⟨message, failed⟩ := failing fault other
          dsimp only
          rw [reply, failed]
          exact not_blamesFormula 500 rfl (by decide)

/-- Ranking with a formula that compiled never blames it. -/
theorem rankWith_endsIn (api : Api) (instanceID : String) (query : PageQuery)
    (formula : Formula) :
    (api.rankWith instanceID query formula).EndsIn fun response => ¬BlamesFormula response := by
  intro counted
  rcases counted with fault | window
  · exact not_blamesFormula 500 rfl (by decide)
  · intro ranked
    rcases ranked with fault | posts
    · exact not_blamesFormula 500 rfl (by decide)
    · show ¬BlamesFormula (Response.ofJson? 200 (rankedPage? posts window formula))
      cases rankedPage? posts window formula <;>
        exact not_blamesFormula 200 rfl (by decide)

/-- From a blameless source a ranking never blames the formula. -/
theorem rankFrom_endsIn {source : Except Response RankingSource} (page : PageQuery)
    (blameless : Blameless api.whitelist source) :
    (api.rankFrom instanceID page source).EndsIn fun response => ¬BlamesFormula response := by
  rcases source with response | source
  · exact blameless
  · rw [rankFrom]
    cases compiled : Formula.ofText api.whitelist source.expression with
    | ok formula => exact rankWith_endsIn api instanceID page formula
    | error error =>
      cases source with
      | adHoc text => exact not_blamesFormula 400 rfl (by decide)
      | stored expression =>
        obtain ⟨formula, made⟩ := blameless
        cases compiled.symm.trans made

/-- A ranking by the key of a usable formula never blames the formula. -/
theorem rankedPosts_blameless {formula : StoredFormula}
    (present : store.table state instanceID (query.text "formula") = some formula)
    (usable : formula.Usable api.whitelist (query.text "formula")) :
    ¬BlamesFormula ((api.rankedPosts instanceID query).run store.answer state).result := by
  rw [rankedPosts_eq]
  split
  · exact not_blamesFormula 400 rfl (by decide)
  · next page _ =>
    rw [Dialogue.run_bind]
    exact (rankFrom_endsIn page (rankingSource_blameless present usable)).result _

/-- Whoever asks for a ranking by the key of a usable formula, the formula is not blamed. -/
theorem respond_blameless {formula : StoredFormula} (now : Instant)
    (method : request.method = "GET")
    (path : pathSegments request.path =
      instancePath instanceID [.ofString "posts", .ofString "ranked"])
    (present : store.table state instanceID (request.query.text "formula") = some formula)
    (usable : formula.Usable api.whitelist (request.query.text "formula")) :
    ∃ response, ((api.respond now request).run store.answer state).result = .answered response ∧
      ¬BlamesFormula response := by
  rcases api.respond_rankedPosts_cases now method path with ⟨refusal, tag, refused⟩ | reached
  · rw [refused]
    refine ⟨_, rfl, ?_⟩
    have other : refusal.status ≠ 404 ∧ refusal.status ≠ 422 := by cases refusal <;> decide
    exact not_blamesFormula refusal.status rfl other
  · rw [reached, run_tagged]
    refine ⟨_, rfl, ?_⟩
    rw [blamesFormula_withTag]
    exact rankedPosts_blameless present usable

end Ranking

/-- Starting without formulas, whatever requests are served: every stored formula is usable, and
whoever asks for a ranking by its key, the formula is not blamed. A request that does not
succeed leaves the formulas as they are, and one that changes the formulas of an instance has
the instance in its path. -/
theorem stored_formulas_usable (api : Api) (store : FormulaStore σ) (start : σ)
    (vacant : store.table start = .empty) (requests : List (Instant × Request)) :
    let reached := api.stateAfter store.answer requests start
    (∀ instanceID key formula, store.table reached instanceID key = some formula →
      formula.Usable api.whitelist key) ∧
    (∀ now request instanceID, request.method = "GET" →
      pathSegments request.path =
        instancePath instanceID [.ofString "posts", .ofString "ranked"] →
      store.table reached instanceID (request.query.text "formula") ≠ none →
      ∃ response,
        ((api.respond now request).run store.answer reached).result = .answered response ∧
          response.status ≠ 404 ∧ response.status ≠ 422) ∧
    ∀ now request state,
      let played := (api.respond now request).run store.answer state
      ∃ response, played.result = .answered response ∧
        (response.status ≠ 200 → store.table played.state = store.table state) ∧
        ∀ instanceID, store.table played.state instanceID ≠ store.table state instanceID →
          ∃ rest, pathSegments request.path = instancePath instanceID rest := by
  intro reached
  have usable : api.AllUsable (store.table reached) := by
    apply api.allUsable_stateAfter store requests
    rw [vacant]
    exact fun _ _ _ present => nomatch present
  refine ⟨usable, ?_, ?_⟩
  · intro now request instanceID method path present
    obtain ⟨formula, found⟩ := Option.ne_none_iff_exists'.mp present
    obtain ⟨response, answered, blameless⟩ :=
      respond_blameless now method path found (usable _ _ _ found)
    exact ⟨response, answered, not_or.mp blameless⟩
  · intro now request state
    obtain ⟨response, answered, leaves⟩ := (api.serves_respond now request).leaves store state
    exact ⟨response, answered, leaves.eq_of_status_ne, fun _ => leaves.path_of_ne⟩

/-- A reader asks for the posts of `blog` ranked by `hot`. -/
def blogRanked : Request :=
  ⟨"GET", "/v1/instances/blog/posts/ranked?formula=hot", [("X-API-Key", "read")], "", false⟩

/-- After an editor saved `hot`, it is usable, and a reader can rank by it. -/
theorem stored_formulas_usable_blog :
    let reached := blog.stateAfter MemoryStore.answer [(.zero, blogSave)] blogStore
    (∃ formula, reached.formula? "blog" (.ofString "hot") = some formula ∧
        formula.Usable blog.whitelist (.ofString "hot")) ∧
      ∃ response,
        ((blog.respond .zero blogRanked).run MemoryStore.answer reached).result =
            .answered response ∧
          response.status ≠ 404 ∧ response.status ≠ 422 := by
  obtain ⟨formula, found⟩ := Option.isSome_iff_exists.mp blogSave_run.2
  have stored : (blog.stateAfter MemoryStore.answer [(.zero, blogSave)] blogStore).formula? "blog"
      (.ofString "hot") = some formula := by
    rw [stateAfter, stateAfter]
    exact found
  have served := stored_formulas_usable blog MemoryStore.formulaStore blogStore rfl
    [(.zero, blogSave)]
  rw [MemoryStore.formulaStore_answer, MemoryStore.formulaStore_table] at served
  -- The state that was reached is kept as a name: no step below may run the requests again.
  generalize blog.stateAfter MemoryStore.answer [(.zero, blogSave)] blogStore = reached
    at stored served ⊢
  obtain ⟨usable, ranked, -⟩ := served
  have named : blogRanked.query.text "formula" = .ofString "hot" := by decide
  refine ⟨⟨formula, stored, usable _ _ _ stored⟩, ?_⟩
  refine ranked .zero blogRanked "blog" rfl (by decide) ?_
  rw [named, stored]
  exact Option.some_ne_none formula

end Api
end RankFormula
