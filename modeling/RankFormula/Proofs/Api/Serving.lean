import RankFormula.Api.Service
import RankFormula.Proofs.Api.Refusals
import RankFormula.Proofs.Dialogue
import RankFormula.Proofs.Http.Guarding
import RankFormula.Proofs.Http.Routing
import RankFormula.Proofs.Store.Table

/-!
# What serving a request amounts to

`Api.Serves` says all that a request can do to the store: read from an instance, save one
formula, or delete one, each under the conditions that the guards in front of its endpoint
impose. `Api.serves_respond` shows that every request is served so, and it is the only proof
that goes through routes, guards and endpoints together; what holds of all requests is
derived from it case by case.
-/

namespace RankFormula

/-- The segments of a path of an instance. -/
def instancePath (instanceID : String) (rest : List RawText) : List RawText :=
  .ofString "v1" :: .ofString "instances" :: .ofString instanceID :: rest

namespace Access

/-- A request may read from the instance in its path. -/
structure MayRead (access : Access) (request : Request) (instanceID : String) : Prop where
  /-- It carries the key of a client. -/
  client : access.FromClient request
  /-- The instance is served. -/
  served : instanceID ∈ access.allowedInstances
  /-- The path names the instance. -/
  path : ∃ rest, pathSegments request.path = instancePath instanceID rest

/-- A request may edit the instance in its path, in the name of the user of its token. -/
structure MayEdit (access : Access) (now : Instant) (request : Request) (instanceID : String)
    (rest : List RawText) (claims : Claims) : Prop where
  /-- It carries a token with the claims. -/
  carried : access.Carries now request claims
  /-- The token is for the instance. -/
  sameInstance : claims.instanceID = instanceID
  /-- The instance is served. -/
  served : instanceID ∈ access.allowedInstances
  /-- The path names the instance. -/
  path : pathSegments request.path = instancePath instanceID rest

end Access

/-- A request is answered, and not left to a guard that is missing. -/
def Outcome.IsAnswered (outcome : Outcome) : Prop := ∃ response, outcome = .answered response

namespace Api

/-- What a request can do to the store. -/
inductive Serves (api : Api) (now : Instant) (request : Request) : Session Outcome → Prop where
  /-- It reads from an instance it may read from, or calls no store at all. -/
  | reading {session : Session Outcome}
    (asks : session.AsksOnly fun call =>
      call.IsRead ∧ api.access.MayRead request call.instanceID)
    (ends : session.EndsIn Outcome.IsAnswered) : Serves api now request session
  /-- It saves a formula that compiled, and succeeds exactly if the store does. -/
  | saving {instanceID : String} {claims : Claims} {saved : SaveRequest} {formula : Formula}
    {next : Except StoreFault StoredFormula → Session Outcome} (method : request.method = "POST")
    (edits : api.access.MayEdit now request instanceID [.ofString "formulas"] claims)
    (proper : isKey saved.key = true)
    (compiled : Formula.ofText api.whitelist saved.expression = .ok formula)
    (ends : ∀ reply, ∃ response, next reply = .done (.answered response) ∧
      (response.status = 200 ↔ ∃ f, reply = .ok f)) :
    Serves api now request (.ask (.save instanceID (saved.toStored formula claims.subject)) next)
  /-- It deletes a formula for an administrator, and succeeds exactly if the store does. -/
  | deleting {instanceID : String} {key : RawText} {claims : Claims}
    {next : Except StoreFault Unit → Session Outcome} (method : request.method = "DELETE")
    (edits : api.access.MayEdit now request instanceID [.ofString "formulas", key] claims)
    (admin : claims.isAdmin = true)
    (ends : ∀ reply, ∃ response, next reply = .done (.answered response) ∧
      (response.status = 200 ↔ reply = .ok ())) :
    Serves api now request (.ask (.delete instanceID key) next)

end Api

namespace Endpoint

/-- The patterns of two endpoints of one method do not overlap. -/
theorem eq_of_overlaps {first second : Endpoint} (same : first.method = second.method)
    (overlap : first.pattern.overlaps second.pattern = true) : first = second := by
  revert same overlap
  cases first <;> cases second <;> decide

/-- A request of its method whose path follows its pattern is served by an endpoint. -/
theorem destination_route (endpoint : Endpoint) {method : String} {path : RawText}
    {parameters : List (String × RawText)} (same : endpoint.method = method)
    (follows : endpoint.route.parameters? path = some parameters) :
    destination serviceSite.routes method path = .found endpoint.route parameters := by
  have listed : ∀ endpoint, endpoint ∈ all := by intro endpoint; cases endpoint <;> decide
  apply destination_of_unambiguous
  · exact List.mem_map_of_mem (listed endpoint)
  · exact same
  · exact follows
  · intro other member otherMethod overlap
    obtain ⟨candidate, -, rfl⟩ := List.mem_map.mp member
    rw [eq_of_overlaps (otherMethod.trans same.symm) overlap]

/-- A request that is served is served by an endpoint of its method. -/
theorem of_destination_eq_found {route : Route (Guarded Endpoint)} {method : String}
    {path : RawText} {parameters : List (String × RawText)}
    (found : destination serviceSite.routes method path = .found route parameters) :
    ∃ endpoint : Endpoint, route = endpoint.route ∧ endpoint.method = method ∧
      endpoint.pattern.parameters? (pathSegments path) = some parameters := by
  obtain ⟨member, same, follows⟩ := destination_eq_found found
  obtain ⟨endpoint, -, rfl⟩ := List.mem_map.mp member
  exact ⟨endpoint, rfl, same, Route.pattern_of_parameters? follows⟩

/-- A path of an instance names it in its parameters. -/
theorem parameters?_instancePattern {rest : Pattern} {segments : List RawText}
    {parameters : List (String × RawText)} :
    (instancePattern rest).parameters? segments = some parameters ↔
      ∃ segment tail others,
        segments = .ofString "v1" :: .ofString "instances" :: segment :: tail ∧
          rest.parameters? tail = some others ∧
          parameters = (instanceParameter, segment) :: others := by
  simp only [instancePattern, Pattern.parameters?_exact_eq_some,
    Pattern.parameters?_parameter_eq_some]
  constructor
  · rintro ⟨_, rfl, _, rfl, segment, tail, others, rfl, inner, rfl⟩
    exact ⟨segment, tail, others, rfl, inner, rfl⟩
  · rintro ⟨segment, tail, others, rfl, inner, rfl⟩
    exact ⟨_, rfl, _, rfl, segment, tail, others, rfl, inner, rfl⟩

end Endpoint

namespace Api

variable {api : Api} {now : Instant} {request : Request} {instanceID : String}

section Endpoints

/-- Listing formulas reads from the instance. -/
theorem listFormulas_asksOnly (instanceID : String) (onlyValid : Bool) :
    (listFormulas instanceID onlyValid).AsksOnly (StoreCall.ReadsFrom instanceID) := by
  refine Dialogue.asksOnly_ask_done ⟨trivial, rfl⟩ fun reply => ?_
  rcases reply with _ | _ <;> exact ⟨_, rfl⟩

/-- Reading a formula reads from the instance. -/
theorem readFormula_asksOnly (instanceID : String) (key : RawText) :
    (readFormula instanceID key).AsksOnly (StoreCall.ReadsFrom instanceID) := by
  refine Dialogue.asksOnly_ask_done ⟨trivial, rfl⟩ fun reply => ?_
  rcases reply with (_ | _) | _ <;> exact ⟨_, rfl⟩

/-- The source of a ranking by key is asked of the store: a valid formula is one, and a store
that fails is not mistaken for a formula that is missing. -/
theorem storedSource_eq_ask (instanceID : String) (key : RawText) :
    ∃ next, storedSource instanceID key = .ask (.formulaByKey instanceID key) next ∧
      (∀ reply, ∃ source, next reply = .done source) ∧
      (∀ formula : StoredFormula, formula.valid = true →
        next (.ok formula) = .done (.ok (.stored formula.expression))) ∧
      ∀ fault, fault ≠ .formulaNotFound →
        ∃ message, next (.error fault) = .done (.error (.failure 500 message)) := by
  refine ⟨_, rfl, fun reply => ?_, fun formula valid => if_pos valid, fun fault other => ?_⟩
  · rcases reply with fault | formula
    · cases fault <;> exact ⟨_, rfl⟩
    · by_cases valid : formula.valid = true
      · exact ⟨_, if_pos valid⟩
      · exact ⟨_, if_neg valid⟩
  · cases fault with
    | formulaNotFound => exact absurd rfl other
    | _ => exact ⟨_, rfl⟩

/-- The source of a ranking is looked up by a key, if it is not in the query. -/
theorem rankingSource_looksUp (instanceID : String) (query : Query) :
    (rankingSource instanceID query).AsksOnly fun call =>
      ∃ key, call = .formulaByKey instanceID key := by
  unfold rankingSource
  dsimp only
  split
  · trivial
  · split
    · trivial
    · split
      · trivial
      · obtain ⟨next, shape, ends, -, -⟩ := storedSource_eq_ask instanceID (query.text "formula")
        rw [shape]
        exact Dialogue.asksOnly_ask_done ⟨_, rfl⟩ ends

/-- The source of a ranking is read from the instance. -/
theorem rankingSource_asksOnly (instanceID : String) (query : Query) :
    (rankingSource instanceID query).AsksOnly (StoreCall.ReadsFrom instanceID) := by
  refine (rankingSource_looksUp instanceID query).imp ?_
  rintro _ ⟨key, rfl⟩
  exact ⟨trivial, rfl⟩

/-- A ranking counts and ranks the posts of the instance. -/
theorem rankWith_asksOnly (api : Api) (instanceID : String) (query : PageQuery)
    (formula : Formula) :
    (api.rankWith instanceID query formula).AsksOnly (StoreCall.ReadsFrom instanceID) := by
  refine ⟨⟨trivial, rfl⟩, fun counted => ?_⟩
  rcases counted with _ | window
  · trivial
  · refine Dialogue.asksOnly_ask_done ⟨trivial, rfl⟩ fun ranked => ?_
    rcases ranked with _ | posts <;> exact ⟨_, rfl⟩

/-- How a ranking goes on from its source. -/
def rankFrom (api : Api) (instanceID : String) (page : PageQuery) :
    Except Response RankingSource → Session Response
  | .error response => .done response
  | .ok source =>
    match Formula.ofText api.whitelist source.expression with
    | .error error => .done (error.toResponse source.refusalStatus)
    | .ok formula => api.rankWith instanceID page formula

/-- A ranking is refused for its page, or looks for its source and goes on from there. -/
theorem rankedPosts_eq (api : Api) (instanceID : String) (query : Query) :
    api.rankedPosts instanceID query =
      match PageQuery.read query with
      | .error fault => .done (.failure 400 fault.message)
      | .ok page => (rankingSource instanceID query).bind (api.rankFrom instanceID page) := by
  unfold rankedPosts
  cases PageQuery.read query with
  | error fault => rfl
  | ok page =>
    refine congrArg (Dialogue.bind (rankingSource instanceID query)) (funext fun source => ?_)
    cases source with
    | error response => rfl
    | ok source =>
      dsimp only [rankFrom]
      cases Formula.ofText api.whitelist source.expression with
      | ok formula => rfl
      | error error => exact congrArg Dialogue.done (source.refuse_report error)

/-- Ranking posts reads from the instance. -/
theorem rankedPosts_asksOnly (api : Api) (instanceID : String) (query : Query) :
    (api.rankedPosts instanceID query).AsksOnly (StoreCall.ReadsFrom instanceID) := by
  rw [rankedPosts_eq]
  split
  · trivial
  · next page _ =>
    refine (rankingSource_asksOnly instanceID query).bind fun source => ?_
    rcases source with response | source
    · trivial
    · rw [rankFrom]
      split
      · trivial
      · exact rankWith_asksOnly api instanceID page _

/-- A save answers at once, or calls the store once with what compiled and answers according
to its reply. -/
theorem saveFormula_cases (api : Api) (claims : Claims) (instanceID body : String) :
    (∃ response, api.saveFormula claims instanceID body = .done response) ∨
      ∃ (saved : SaveRequest) (formula : Formula) (next : _ → Session Response),
        isKey saved.key = true ∧
        Formula.ofText api.whitelist saved.expression = .ok formula ∧
        api.saveFormula claims instanceID body =
          .ask (.save instanceID (saved.toStored formula claims.subject)) next ∧
        ∀ reply, ∃ response, next reply = .done response ∧
          (response.status = 200 ↔ ∃ f, reply = .ok f) := by
  unfold saveFormula
  split
  · exact .inl ⟨_, rfl⟩
  · next saved _ =>
    by_cases proper : isKey saved.key = true
    · simp only [proper, Bool.not_true, Bool.false_eq_true, if_false]
      cases compiled : Formula.ofText api.whitelist saved.expression with
      | error error => exact .inl ⟨_, rfl⟩
      | ok formula =>
        refine .inr ⟨saved, formula, _, proper, compiled, rfl, fun reply => ?_⟩
        rcases reply with fault | stored
        · exact ⟨_, rfl, by simp [Response.failure, Response.json]⟩
        · exact ⟨_, rfl, by simp [Response.json]⟩
    · simp only [proper, Bool.not_false, if_true]
      exact .inl ⟨_, rfl⟩

/-- A delete calls the store once and answers according to its reply. -/
theorem deleteFormula_eq_ask (instanceID : String) (key : RawText) :
    ∃ next, deleteFormula instanceID key = .ask (.delete instanceID key) next ∧
      ∀ reply, ∃ response, next reply = .done response ∧
        (response.status = 200 ↔ reply = .ok ()) := by
  refine ⟨_, rfl, fun reply => ?_⟩
  rcases reply with fault | deleted
  · cases fault <;> exact ⟨_, rfl, by simp [Response.failure, Response.json]⟩
  · exact ⟨_, rfl, fun _ => rfl, fun _ => rfl⟩

end Endpoints
end Api

namespace Access

variable {access : Access} {now : Instant} {request : Request} {last : Pass} {rest : Pattern}
  {parameters : List (String × RawText)}

/-- The guards of endpoints that read let through who may read. -/
theorem mayRead_of_passes
    (follows : (Endpoint.instancePattern rest).parameters? (pathSegments request.path) =
      some parameters)
    (passes : access.Passes now request parameters [.requestTag, .apiKey, .servedInstance]
      .start last) :
    ∃ instanceID others, parameters = (instanceParameter, .ofString instanceID) :: others ∧
      access.MayRead request instanceID := by
  obtain ⟨segment, tail, others, path, -, rfl⟩ := Endpoint.parameters?_instancePattern.mp follows
  obtain ⟨tagged, -, passes⟩ := passes_cons.mp passes
  obtain ⟨_, accepted, passes⟩ := passes_cons.mp passes
  obtain ⟨client, known, rfl⟩ := check_apiKey_eq_ok.mp accepted
  obtain ⟨_, admitted, -⟩ := passes_cons.mp passes
  obtain ⟨instanceID, named, served, -⟩ := check_servedInstance_eq_ok.mp admitted
  obtain rfl : segment = .ofString instanceID := by rwa [parameter_cons_self] at named
  exact ⟨instanceID, others, rfl, exists_client?_eq_some.mp ⟨client, known⟩, served, tail, path⟩

/-- The guards of endpoints that write let through who may edit, if the last of them does. -/
theorem mayEdit_of_passes {guard : Guard}
    (follows : (Endpoint.instancePattern rest).parameters? (pathSegments request.path) =
      some parameters)
    (passes : access.Passes now request parameters [.requestTag, .token, .servedInstance, guard]
      .start last) :
    ∃ instanceID claims tail others,
      parameters = (instanceParameter, .ofString instanceID) :: others ∧
      rest.parameters? tail = some others ∧
      access.MayEdit now request instanceID tail claims ∧
      ∃ pass : Pass, pass.claims = some claims ∧
        access.check now request parameters pass guard = .ok last := by
  obtain ⟨segment, tail, others, path, inner, rfl⟩ :=
    Endpoint.parameters?_instancePattern.mp follows
  obtain ⟨tagged, -, passes⟩ := passes_cons.mp passes
  obtain ⟨identified, accepted, passes⟩ := passes_cons.mp passes
  obtain ⟨claims, carried, rfl⟩ := check_token_eq_ok.mp accepted
  obtain ⟨_, admitted, passes⟩ := passes_cons.mp passes
  obtain ⟨instanceID, named, served, same, rfl⟩ := check_servedInstance_eq_ok.mp admitted
  obtain ⟨_, final, ended⟩ := passes_cons.mp passes
  obtain rfl := passes_nil.mp ended
  obtain rfl : segment = .ofString instanceID := by rwa [parameter_cons_self] at named
  exact ⟨instanceID, claims, tail, others, rfl, inner,
    ⟨carried, same claims rfl, served, path⟩, _, rfl, final⟩

/-- Who may read is let through to the endpoints that read. -/
theorem passes_of_fromClient {instanceID : String} {others : List (String × RawText)}
    (client : access.FromClient request) (served : instanceID ∈ access.allowedInstances) :
    ∃ name, access.Passes now request ((instanceParameter, .ofString instanceID) :: others)
      [.requestTag, .apiKey, .servedInstance] .start ⟨some request.tag, some name, none⟩ := by
  obtain ⟨found, known⟩ := exists_client?_eq_some.mpr client
  have keyed : access.check now request ((instanceParameter, .ofString instanceID) :: others)
      ⟨some request.tag, none, none⟩ .apiKey =
        .ok ⟨some request.tag, some found.name, none⟩ :=
    check_apiKey_eq_ok.mpr ⟨found, known, rfl⟩
  have admitted : access.check now request ((instanceParameter, .ofString instanceID) :: others)
      ⟨some request.tag, some found.name, none⟩ .servedInstance =
        .ok ⟨some request.tag, some found.name, none⟩ :=
    check_servedInstance_eq_ok.mpr
      ⟨instanceID, parameter_cons_self _ _ _, served, (fun _ absent => nomatch absent), rfl⟩
  exact ⟨found.name, .cons check_requestTag (.cons keyed (.cons admitted (passes_nil.mpr rfl)))⟩

/-- Who may edit is let through to the endpoints that write, if the last guard accepts. -/
theorem passes_of_mayEdit {instanceID : String} {tail : List RawText} {claims : Claims}
    {others : List (String × RawText)} {guard : Guard}
    (edits : access.MayEdit now request instanceID tail claims)
    (accepted : access.check now request ((instanceParameter, .ofString instanceID) :: others)
      ⟨some request.tag, none, some claims⟩ guard = .ok ⟨some request.tag, none, some claims⟩) :
    access.Passes now request ((instanceParameter, .ofString instanceID) :: others)
      [.requestTag, .token, .servedInstance, guard] .start
      ⟨some request.tag, none, some claims⟩ := by
  have identified : access.check now request ((instanceParameter, .ofString instanceID) :: others)
      ⟨some request.tag, none, none⟩ .token = .ok ⟨some request.tag, none, some claims⟩ :=
    check_token_eq_ok.mpr ⟨claims, edits.carried, rfl⟩
  have admitted : access.check now request ((instanceParameter, .ofString instanceID) :: others)
      ⟨some request.tag, none, some claims⟩ .servedInstance =
        .ok ⟨some request.tag, none, some claims⟩ := by
    refine check_servedInstance_eq_ok.mpr
      ⟨instanceID, parameter_cons_self _ _ _, edits.served, ?_, rfl⟩
    rintro _ ⟨⟩
    exact edits.sameInstance
  exact .cons check_requestTag (.cons identified (.cons admitted (.cons accepted
    (passes_nil.mpr rfl))))

end Access

/-- The query of a request. -/
def Request.query (request : Request) : Query := .read (request.rawQuery?.getD [])

/-- The instance of a visit is the one in its path. -/
theorem Visit.instanceID_eq (request : Request) (pass : Pass) (instanceID : String)
    (others : List (String × RawText)) :
    (Visit.parameter ⟨request, (instanceParameter, .ofString instanceID) :: others, pass⟩
      instanceParameter).toString = instanceID := by
  simp [Visit.parameter]

/-- The key of a visit is the one in its path. -/
theorem Visit.key_eq (request : Request) (pass : Pass) (segment key : RawText) :
    Visit.parameter ⟨request, [(instanceParameter, segment), (keyParameter, key)], pass⟩
      keyParameter = key := by
  simp [Visit.parameter, RankFormula.parameter, getField?, instanceParameter, keyParameter]

namespace Api

variable {api : Api} {now : Instant} {request : Request} {instanceID : String}
  {session : Session Response} {tag : Option RequestTag}

/-- A session that answers a tagged request. -/
def tagged (tag : Option RequestTag) (session : Session Response) : Session Outcome :=
  (Outcome.answered <$> session).bind fun outcome => .done (outcome.withTag tag)

/-- What is answered at once is tagged. -/
theorem tagged_done (response : Response) :
    tagged tag (.done response) = .done (.answered (response.withTag tag)) := rfl

/-- The answer after a call is tagged. -/
theorem tagged_ask (call : StoreCall) (next : Except StoreFault call.Answer → Session Response) :
    tagged tag (.ask call next) = .ask call fun reply => tagged tag (next reply) := rfl

/-- A tagged session runs as the session does, and its answer is tagged. -/
theorem run_tagged {σ : Type}
    (answer : σ → (call : StoreCall) → Except StoreFault call.Answer × σ)
    (session : Session Response) (state : σ) :
    (tagged tag session).run answer state =
      let played := session.run answer state
      ⟨played.asked, .answered (played.result.withTag tag), played.state⟩ := by
  rw [tagged, Dialogue.run_bind, Dialogue.run_map]
  simp only [Dialogue.run, Outcome.withTag, List.append_nil]

/-- A tagged session plays as the session does, if a tag does not matter to its answer. -/
theorem tagged_allPlays {expected : List ((call : StoreCall) × Except StoreFault call.Answer) →
      Response → Prop} (plays : session.AllPlays expected)
    (kept : ∀ exchanges response, expected exchanges response →
      expected exchanges (response.withTag tag)) :
    (tagged tag session).AllPlays fun exchanges outcome =>
      ∃ response, outcome = .answered response ∧ expected exchanges response := by
  have answered : (Outcome.answered <$> session).AllPlays fun exchanges outcome =>
      ∃ response, outcome = .answered response ∧ expected exchanges response := by
    refine plays.bind fun exchanges response shape => ⟨response, rfl, ?_⟩
    rwa [List.append_nil]
  refine answered.bind ?_
  rintro exchanges _ ⟨response, rfl, shape⟩
  refine ⟨response.withTag tag, rfl, ?_⟩
  rw [List.append_nil]
  exact kept exchanges response shape

/-- A request that is answered without a call is served. -/
theorem Serves.of_done (response : Response) :
    Serves api now request (.done (.answered response)) :=
  .reading trivial ⟨response, rfl⟩

/-- A request that reads from an instance it may read from is served. -/
theorem Serves.of_reading (asks : session.AsksOnly (StoreCall.ReadsFrom instanceID))
    (may : api.access.MayRead request instanceID) :
    Serves api now request (tagged tag session) := by
  have answers : (Outcome.answered <$> session).EndsIn Outcome.IsAnswered :=
    session.endsIn_true.bind fun response _ => ⟨response, rfl⟩
  refine .reading (.bind (.map (asks.imp ?_) _) fun _ => trivial) (answers.bind ?_)
  · rintro call ⟨read, rfl⟩
    exact ⟨read, may⟩
  · rintro _ ⟨response, rfl⟩
    exact ⟨_, rfl⟩

/-- A save by who may edit is served. -/
theorem Serves.of_saving {claims : Claims} (method : request.method = "POST")
    (edits : api.access.MayEdit now request instanceID [.ofString "formulas"] claims)
    (body : String) :
    Serves api now request (tagged tag (api.saveFormula claims instanceID body)) := by
  rcases saveFormula_cases api claims instanceID body with
    ⟨response, ended⟩ | ⟨saved, formula, next, proper, compiled, shape, ends⟩
  · rw [ended, tagged_done]
    exact .of_done _
  · rw [shape, tagged_ask]
    refine .saving method edits proper compiled fun reply => ?_
    obtain ⟨response, ended, status⟩ := ends reply
    exact ⟨response.withTag tag, congrArg (tagged tag) ended, status⟩

/-- A delete by an administrator who may edit is served. -/
theorem Serves.of_deleting {claims : Claims} {key : RawText} (method : request.method = "DELETE")
    (edits : api.access.MayEdit now request instanceID [.ofString "formulas", key] claims)
    (admin : claims.isAdmin = true) :
    Serves api now request (tagged tag (deleteFormula instanceID key)) := by
  obtain ⟨next, shape, ends⟩ := deleteFormula_eq_ask instanceID key
  rw [shape, tagged_ask]
  refine .deleting method edits admin fun reply => ?_
  obtain ⟨response, ended, status⟩ := ends reply
  exact ⟨response.withTag tag, congrArg (tagged tag) ended, status⟩

/-- What an endpoint does after its guards. -/
theorem serves_handle {endpoint : Endpoint} {parameters : List (String × RawText)} {pass : Pass}
    (method : endpoint.method = request.method)
    (follows : endpoint.pattern.parameters? (pathSegments request.path) = some parameters)
    (passes : api.access.Passes now request parameters endpoint.guards .start pass) :
    Serves api now request ((api.handle endpoint ⟨request, parameters, pass⟩).bind fun outcome =>
      .done (outcome.withTag pass.tag)) := by
  cases endpoint with
  | health => exact .of_done _
  | grammar => exact .of_done _
  | validate => exact .of_done _
  | compile => exact .of_done _
  | formulas =>
    obtain ⟨instanceID, _, rfl, may⟩ := Access.mayRead_of_passes follows passes
    simp only [handle, Visit.instanceID_eq]
    exact .of_reading (listFormulas_asksOnly instanceID _) may
  | formula =>
    obtain ⟨instanceID, _, rfl, may⟩ := Access.mayRead_of_passes follows passes
    simp only [handle, Visit.instanceID_eq]
    exact .of_reading (readFormula_asksOnly instanceID _) may
  | rankedPosts =>
    obtain ⟨instanceID, _, rfl, may⟩ := Access.mayRead_of_passes follows passes
    simp only [handle, Visit.instanceID_eq]
    exact .of_reading (rankedPosts_asksOnly api instanceID _) may
  | saveFormula =>
    obtain ⟨instanceID, claims, _, _, rfl, rest, edits, _, known, accepted⟩ :=
      Access.mayEdit_of_passes follows passes
    obtain ⟨_, rfl, ended⟩ := Pattern.parameters?_exact_eq_some.mp rest
    obtain ⟨rfl, rfl⟩ := Pattern.parameters?_nil_eq_some.mp ended
    obtain ⟨-, -, rfl⟩ := Access.check_payload_eq_ok.mp accepted
    simp only [handle, Visit.instanceID_eq, withClaims, known]
    exact .of_saving method.symm edits request.body
  | deleteFormula =>
    obtain ⟨instanceID, claims, _, _, rfl, rest, edits, _, known, accepted⟩ :=
      Access.mayEdit_of_passes follows passes
    obtain ⟨_, rfl, rest⟩ := Pattern.parameters?_exact_eq_some.mp rest
    obtain ⟨key, _, _, rfl, ended, rfl⟩ := Pattern.parameters?_parameter_eq_some.mp rest
    obtain ⟨rfl, rfl⟩ := Pattern.parameters?_nil_eq_some.mp ended
    obtain ⟨⟨_, same, admin⟩, rfl⟩ := Access.check_admin_eq_ok.mp accepted
    obtain rfl := Option.some.inj (known.symm.trans same)
    simp only [handle, Visit.instanceID_eq, Visit.key_eq, withClaims, known]
    exact .of_deleting method.symm edits admin

/-- Every request is served in one of the three ways. -/
theorem serves_respond (api : Api) (now : Instant) (request : Request) :
    api.Serves now request (api.respond now request) := by
  unfold respond Site.serve
  split
  · next route parameters found =>
    obtain ⟨endpoint, rfl, method, follows⟩ := Endpoint.of_destination_eq_found found
    split
    · exact .of_done _
    · next pass passes => exact serves_handle method follows passes
  · exact .of_done _
  · exact .of_done _

/-- A request that a guard refuses is answered with the refusal and nothing else. -/
theorem respond_of_refused {route : Route (Guarded Endpoint)}
    {parameters : List (String × RawText)} {pass : Pass} {refusal : Refusal}
    (found : destination serviceSite.routes request.method request.path = .found route parameters)
    (refused : api.access.askGuards now request parameters route.endpoint.guards .start =
      (pass, some refusal)) :
    api.respond now request = .done (.answered (refusal.toResponse.withTag pass.tag)) := by
  unfold respond Site.serve
  rw [found]
  dsimp only
  rw [refused]

/-- A request that the guards let through reaches its endpoint. -/
theorem respond_of_passes (endpoint : Endpoint) {parameters : List (String × RawText)}
    {pass : Pass} (method : endpoint.method = request.method)
    (follows : endpoint.route.parameters? request.path = some parameters)
    (passes : api.access.Passes now request parameters endpoint.guards .start pass) :
    api.respond now request =
      (api.handle endpoint ⟨request, parameters, pass⟩).bind fun outcome =>
        .done (outcome.withTag pass.tag) := by
  have asked : api.access.askGuards now request parameters endpoint.route.endpoint.guards .start =
      (pass, none) := passes
  unfold respond Site.serve
  rw [endpoint.destination_route method follows]
  dsimp only
  rw [asked]
  rfl

/-- The path of the ranked posts of an instance leads to their ranking. -/
theorem rankedPosts_parameters?
    (path : pathSegments request.path =
      instancePath instanceID [.ofString "posts", .ofString "ranked"]) :
    Endpoint.rankedPosts.route.parameters? request.path =
      some [(instanceParameter, .ofString instanceID)] :=
  Route.parameters?_of_pattern rfl
    (Endpoint.parameters?_instancePattern.mpr ⟨_, _, [], path, by simp, rfl⟩)

/-- A reader reaches the ranking of the posts of an instance. -/
theorem respond_rankedPosts (now : Instant) (method : request.method = "GET")
    (path : pathSegments request.path =
      instancePath instanceID [.ofString "posts", .ofString "ranked"])
    (client : api.access.FromClient request)
    (served : instanceID ∈ api.access.allowedInstances) :
    api.respond now request =
      tagged (some request.tag) (api.rankedPosts instanceID request.query) := by
  obtain ⟨name, passes⟩ := Access.passes_of_fromClient client served
  rw [respond_of_passes .rankedPosts method.symm (rankedPosts_parameters? path) passes]
  simp only [handle, Visit.instanceID_eq]
  rfl

/-- Whoever asks for ranked posts is refused by a guard or reaches the ranking. -/
theorem respond_rankedPosts_cases (api : Api) (now : Instant) (method : request.method = "GET")
    (path : pathSegments request.path =
      instancePath instanceID [.ofString "posts", .ofString "ranked"]) :
    (∃ (refusal : Refusal) (tag : Option RequestTag),
        api.respond now request = .done (.answered (refusal.toResponse.withTag tag))) ∨
      api.respond now request =
        tagged (some request.tag) (api.rankedPosts instanceID request.query) := by
  have follows := rankedPosts_parameters? path
  cases asked : api.access.askGuards now request [(instanceParameter, .ofString instanceID)]
      Endpoint.rankedPosts.guards .start with
  | mk pass refused =>
    cases refused with
    | some refusal =>
      have found := Endpoint.rankedPosts.destination_route method.symm follows
      exact .inl ⟨refusal, pass.tag, respond_of_refused found asked⟩
    | none =>
      obtain ⟨_, _, named, may⟩ :=
        Access.mayRead_of_passes (Route.pattern_of_parameters? follows) asked
      obtain rfl := RawText.ofString_inj.mp (Prod.mk.inj (List.cons.inj named).1).2
      exact .inr (respond_rankedPosts now method path may.client may.served)

/-- An editor reaches the endpoint that saves. -/
theorem respond_saveFormula {claims : Claims} (method : request.method = "POST")
    (edits : api.access.MayEdit now request instanceID [.ofString "formulas"] claims)
    (present : request.declaresNoBody = false)
    (json : request.contentType = "application/json") :
    api.respond now request =
      tagged (some request.tag) (api.saveFormula claims instanceID request.body) := by
  have follows : Endpoint.saveFormula.route.parameters? request.path =
      some [(instanceParameter, .ofString instanceID)] :=
    Route.parameters?_of_pattern rfl
      (Endpoint.parameters?_instancePattern.mpr ⟨_, _, [], edits.path, by simp, rfl⟩)
  have accepted : api.access.check now request [(instanceParameter, .ofString instanceID)]
      ⟨some request.tag, none, some claims⟩ .payload = .ok _ :=
    Access.check_payload_eq_ok.mpr ⟨present, json, rfl⟩
  have passes := Access.passes_of_mayEdit edits accepted
  rw [respond_of_passes .saveFormula method.symm follows passes]
  simp only [handle, Visit.instanceID_eq, withClaims]
  rfl

/-- An editor who is an administrator reaches the endpoint that deletes. -/
theorem respond_deleteFormula {claims : Claims} {key : RawText} (method : request.method = "DELETE")
    (edits : api.access.MayEdit now request instanceID [.ofString "formulas", key] claims)
    (named : key ≠ .ofString "") (admin : claims.isAdmin = true) :
    api.respond now request = tagged (some request.tag) (deleteFormula instanceID key) := by
  have last : (pathSegments request.path).getLast? ≠ some (.ofString "") := by
    rw [edits.path]
    exact fun empty => named (Option.some.inj empty)
  have tail : Pattern.parameters? [.exact "formulas", .parameter keyParameter]
      [.ofString "formulas", key] = some [(keyParameter, key)] := by
    simp [Pattern.parameters?]
  have follows : Endpoint.deleteFormula.route.parameters? request.path =
      some [(instanceParameter, .ofString instanceID), (keyParameter, key)] :=
    Route.parameters?_of_last last
      (Endpoint.parameters?_instancePattern.mpr ⟨_, _, _, edits.path, tail, rfl⟩)
  have accepted : api.access.check now request
      [(instanceParameter, .ofString instanceID), (keyParameter, key)]
      ⟨some request.tag, none, some claims⟩ .admin = .ok _ :=
    Access.check_admin_eq_ok.mpr ⟨⟨claims, rfl, admin⟩, rfl⟩
  have passes := Access.passes_of_mayEdit edits accepted
  rw [respond_of_passes .deleteFormula method.symm follows passes]
  simp only [handle, Visit.instanceID_eq, Visit.key_eq, withClaims]
  rfl

end Api
end RankFormula
