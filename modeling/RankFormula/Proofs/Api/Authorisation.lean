import RankFormula.Proofs.Api.Serving
import RankFormula.Store.Memory

/-!
# Who reaches the store

`Access.Authorises` says what a request has to bring for each call of the store: a management
token for a save or a delete, the key of a client for everything that is read, and always an
instance that is served and that the path names. No request makes a call without it, whatever
the store answers to the calls before (`Api.respond_authorised`).
-/

namespace RankFormula

/-- What a request has to bring for a call of the store. -/
def Access.Authorises (access : Access) (now : Instant) (request : Request) : StoreCall → Prop
  | .save instanceID formula =>
    request.method = "POST" ∧ ∃ claims,
      access.MayEdit now request instanceID [.ofString "formulas"] claims ∧
        formula.createdBy = claims.subject
  | .delete instanceID key =>
    request.method = "DELETE" ∧ ∃ claims,
      access.MayEdit now request instanceID [.ofString "formulas", key] claims ∧
        claims.isAdmin = true
  | .mark _ _ _ => False
  | call => access.MayRead request call.instanceID

namespace Api

variable {api : Api} {now : Instant} {request : Request}

/-- Who may read is authorised for every call that only asks. -/
theorem authorises_of_isRead {call : StoreCall} (read : call.IsRead)
    (may : api.access.MayRead request call.instanceID) :
    api.access.Authorises now request call := by
  cases call with
  | save instanceID formula => exact read.elim
  | delete instanceID key => exact read.elim
  | mark instanceID key check => exact read.elim
  | _ => exact may

/-- A request that is served makes only calls that it is authorised for. -/
theorem Serves.asksOnly {session : Session Outcome} (serves : api.Serves now request session) :
    session.AsksOnly (api.access.Authorises now request) := by
  cases serves with
  | reading asks ends => exact asks.imp fun call ⟨read, may⟩ => authorises_of_isRead read may
  | saving method edits proper compiled ends =>
    refine Dialogue.asksOnly_ask_done ⟨method, _, edits, rfl⟩ fun reply => ?_
    obtain ⟨response, ended, -⟩ := ends reply
    exact ⟨_, ended⟩
  | deleting method edits admin ends =>
    refine Dialogue.asksOnly_ask_done ⟨method, _, edits, admin⟩ fun reply => ?_
    obtain ⟨response, ended, -⟩ := ends reply
    exact ⟨_, ended⟩

/-- A request that is served is answered. -/
theorem Serves.endsIn {session : Session Outcome} (serves : api.Serves now request session) :
    session.EndsIn Outcome.IsAnswered := by
  cases serves with
  | reading asks ends => exact ends
  | saving method edits proper compiled ends =>
    intro reply
    obtain ⟨response, ended, -⟩ := ends reply
    rw [ended]
    exact ⟨response, rfl⟩
  | deleting method edits admin ends =>
    intro reply
    obtain ⟨response, ended, -⟩ := ends reply
    rw [ended]
    exact ⟨response, rfl⟩

/-- Whatever the store answers, a request makes only calls that it is authorised for, one that
a guard refuses makes none, and every request is answered: no endpoint that needs a validated
token is reached without one. -/
theorem respond_authorised {σ : Type} (api : Api) (now : Instant) (request : Request)
    (answer : σ → (call : StoreCall) → Except StoreFault call.Answer × σ) (state : σ) :
    let played := (api.respond now request).run answer state
    (∀ call ∈ played.asked, api.access.Authorises now request call) ∧
      (∀ route parameters pass refusal,
        destination serviceSite.routes request.method request.path = .found route parameters →
        api.access.askGuards now request parameters route.endpoint.guards .start =
          (pass, some refusal) →
        played.asked = [] ∧ played.result = .answered (refusal.toResponse.withTag pass.tag)) ∧
      ∃ response, played.result = .answered response := by
  have serves := api.serves_respond now request
  refine ⟨serves.asksOnly.asked state, ?_, serves.endsIn.result state⟩
  intro route parameters pass refusal found refused
  rw [respond_of_refused found refused]
  exact ⟨rfl, rfl⟩

/-- A service of the instance `blog` for one reader and for editors. -/
def blog : Api :=
  ⟨⟨"sign", [⟨"feed", "read"⟩], ["blog"]⟩, ⟨["likes"]⟩, [], ""⟩

/-- A store of `blog` without formulas. -/
def blogStore : MemoryStore := ⟨[], some [], 0, 0, .zero⟩

/-- The token of an editor of `blog`. -/
def editorToken : String :=
  "eyJhbGciOiJIUzI1NiJ9.eyJpbnN0YW5jZV9pZCI6ImJsb2ciLCJpc3MiOiJleHByZXNzaW9uLW1vbmdvIiwic3ViIjoi" ++
    "ZWRpdG9yIn0.qq57yjTTrlouWOq6JSjdazzZFTuMGUhYjFc15JWT6ys"

/-- An editor of `blog` saves the formula `hot`. -/
def blogSave : Request :=
  ⟨"POST", "/v1/instances/blog/formulas",
    [("Authorization", "Bearer " ++ editorToken), ("Content-Type", "application/json")],
    "\x7b\"key\": \"hot\", \"expression\": \"likes\"\x7d", false⟩

/-- A computation whose result is known has succeeded. -/
theorem eq_ok_of_toOption {ε α : Type} {result : Except ε α} {a : α}
    (known : result.toOption = some a) : result = .ok a := by
  cases result with
  | ok found => rw [Option.some.inj known]
  | error fault => cases known

/-- The editor may edit the formulas of `blog`. -/
theorem blogSave_mayEdit :
    blog.access.MayEdit .zero blogSave "blog" [.ofString "formulas"]
      ⟨"blog", false, "expression-mongo", "editor", none, none⟩ where
  carried := ⟨editorToken, eq_ok_of_toOption (by decide +kernel),
    eq_ok_of_toOption (by decide +kernel)⟩
  sameInstance := rfl
  served := List.mem_singleton.mpr rfl
  path := by decide

/-- The save reaches the store, which then holds the formula. -/
theorem blogSave_run :
    ((blog.respond .zero blogSave).run MemoryStore.answer blogStore).asked.any (fun call =>
        match call with
        | .save instanceID _ => instanceID == "blog"
        | _ => false) = true ∧
      (((blog.respond .zero blogSave).run MemoryStore.answer blogStore).state.formula? "blog"
        (.ofString "hot")).isSome = true := by
  rw [respond_saveFormula rfl blogSave_mayEdit (by decide) (by decide)]
  decide +kernel

/-- The save of an editor is authorised, and without its token it makes no call. -/
theorem respond_authorised_blog :
    (∃ formula,
      .save "blog" formula ∈
          ((blog.respond .zero blogSave).run MemoryStore.answer blogStore).asked ∧
        blog.access.Authorises .zero blogSave (.save "blog" formula)) ∧
      ((blog.respond .zero { blogSave with headers := [] }).run MemoryStore.answer
        blogStore).asked = [] := by
  constructor
  · obtain ⟨call, asked, saves⟩ := List.any_eq_true.mp blogSave_run.1
    have authorised := (respond_authorised blog .zero blogSave MemoryStore.answer blogStore).1
    cases call with
    | save instanceID formula =>
      obtain rfl : instanceID = "blog" := by simpa using saves
      exact ⟨formula, asked, authorised _ asked⟩
    | _ => cases saves
  · have found : destination serviceSite.routes "POST" blogSave.path =
        .found Endpoint.saveFormula.route [(instanceParameter, .ofString "blog")] :=
      Endpoint.saveFormula.destination_route rfl (by decide)
    have refused : (blog.access.askGuards .zero { blogSave with headers := [] }
        [(instanceParameter, .ofString "blog")] Endpoint.saveFormula.guards .start).2 =
          some .authorizationMissing := by decide
    have stopped := (respond_authorised blog .zero { blogSave with headers := [] }
      MemoryStore.answer blogStore).2.1
    exact (stopped _ _ _ _ found (Prod.ext rfl refused)).1

end Api
end RankFormula
