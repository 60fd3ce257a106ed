import RankFormula.Proofs.Api.Verdicts

/-!
# Where server errors come from

No expression, however wrong, is answered as an error of the server: every error that making a
formula can end in is recognised as that of the stage that failed (`Node.FailsAt`). What is left
are the calls of the store. `Api.respond_reports` follows the answers of the store through every
route: a request is answered as a server error exactly if a call failed for a reason of the
store's own.
-/

namespace RankFormula

namespace Node

/-- The stage at which an expression that was read fails, by the kind of its error. -/
inductive FailsAt (whitelist : Whitelist) (node : Node) : ErrorType → Prop where
  /-- Validation meets a variable outside the whitelist. -/
  | variableName {name : String}
    (refused : node.validate whitelist = .error (.invalidVariable name)) :
    FailsAt whitelist node .invalidVariable
  /-- Validation meets a function that is unknown or has another number of arguments. -/
  | function {name : String} {arguments : Nat}
    (refused : node.validate whitelist = .error (.invalidFunction name arguments)) :
    FailsAt whitelist node .invalidFunction
  /-- Validation meets a node that no formula may contain. -/
  | expression {description : String}
    (refused : node.validate whitelist = .error (.invalidExpression description)) :
    FailsAt whitelist node .invalidExpression
  /-- Validation meets a literal that is no number. -/
  | literal (invalid : node.validate whitelist = .ok false) :
    FailsAt whitelist node .invalidLiteral
  /-- The expression is valid, and a part of it has no counterpart. -/
  | lowering {part : Unlowered} (valid : node.validate whitelist = .ok true)
    (missing : node.lower.missing = some part) : FailsAt whitelist node .notCompilable

variable {whitelist : Whitelist} {node : Node}

/-- A fault that validation finds is one of the three that it looks for. -/
theorem failsAt_of_validate_error {fault : ExpressionFault}
    (refused : node.validate whitelist = .error fault) : node.FailsAt whitelist fault.type := by
  have kind := validate_error_type refused
  cases fault with
  | invalidVariable name => exact .variableName refused
  | invalidFunction name arguments => exact .function refused
  | invalidExpression description => exact .expression refused
  | invalidLiteral => simp [ExpressionFault.type, validationTypes] at kind
  | notCompilable part => simp [ExpressionFault.type, validationTypes] at kind

/-- An expression that does not compile fails at the stage of its fault. -/
theorem failsAt_of_compile_error {failure : CompileFailure}
    (failed : node.compile whitelist = .error failure) :
    node.FailsAt whitelist failure.fault.type := by
  cases validated : node.validate whitelist with
  | error fault =>
    rw [compile_of_fault validated] at failed
    obtain rfl := Except.error.inj failed
    exact failsAt_of_validate_error validated
  | ok valid =>
    cases valid with
    | false =>
      rw [compile_of_invalid validated] at failed
      obtain rfl := Except.error.inj failed
      exact .literal validated
    | true =>
      have faultless : node.fault? whitelist = none := by rw [fault?, validated]
      rw [compile, faultless] at failed
      cases lowered : node.lower with
      | mk tree missing =>
        cases missing with
        | none => simp [lowered] at failed
        | some part =>
          rw [lowered] at failed
          obtain rfl := Except.error.inj failed
          have incomplete : node.lower.missing = some part := by rw [lowered]
          exact .lowering validated incomplete

end Node

/-- What can be told from an error: its one kind, whether it is an error of a formula, and that
it blames the request. -/
structure Report.Classified (report : Report) (type : ErrorType) (ofFormula : Prop) : Prop where
  /-- It is found to be of the kind. -/
  found : report.type? = some type
  /-- It bears the mark of the kind and of no other. -/
  only : ∀ other : ErrorType, report.bears other.mark = true ↔ other = type
  /-- It bears the mark of formulas exactly if it is of a formula. -/
  formula : report.bears .invalidFormula = true ↔ ofFormula
  /-- It is answered as a fault of the request. -/
  refused : report.refuse = expressionFailure 400 report.words type

/-- An error of a kind is classified. -/
theorem Report.IsOf.classified {report : Report} {type : ErrorType} {ofFormula : Prop}
    (kind : report.IsOf type) (formula : report.bears .invalidFormula = true ↔ ofFormula) :
    report.Classified type ofFormula :=
  ⟨kind.type?, kind, formula, kind.refuse⟩

/-- The error of a text that is no expression is classified. -/
theorem ParseFault.classified (fault : ParseFault) :
    fault.report.Classified .parseError False :=
  fault.report_isOf.classified (by simp [fault.report_bears_invalidFormula])

/-- The error of validation is classified. -/
theorem ExpressionFault.classified (fault : ExpressionFault) :
    fault.report.Classified fault.type False :=
  fault.report_isOf.classified (by simp [fault.report_bears_invalidFormula])

/-- The error of a formula is classified. -/
theorem FormulaError.classified (error : FormulaError) :
    error.report.Classified error.type (error.type ≠ .parseError) :=
  error.report_isOf.classified error.report_bears_invalidFormula

/-- The error of an expression that was read is that of the stage that failed. -/
theorem Formula.ofNode_error {whitelist : Whitelist} {source : RawText} {node : Node}
    {error : FormulaError} (failed : ofNode whitelist source node = .error error) :
    ∃ type, node.FailsAt whitelist type ∧ error.report.Classified type True := by
  unfold ofNode at failed
  split at failed
  · cases failed
  · next failure compiled =>
    obtain rfl := Except.error.inj failed
    have stage := Node.failsAt_of_compile_error compiled
    have classified := (FormulaError.invalid failure.fault).classified
    refine ⟨failure.fault.type, stage, ?_⟩
    rwa [FormulaError.type, eq_true failure.fault.type_ne_parseError] at classified

/-- The error of a text is that of the stage that failed. -/
theorem Formula.ofText_error {whitelist : Whitelist} {source : RawText} {error : FormulaError}
    (failed : ofText whitelist source = .error error) :
    (∃ fault, Node.parse source = .error fault ∧ error.report.Classified .parseError False) ∨
      ∃ node type, Node.parse source = .ok node ∧ node.FailsAt whitelist type ∧
        error.report.Classified type True := by
  unfold ofText at failed
  cases parsed : Node.parse source with
  | error fault =>
    rw [parsed] at failed
    obtain rfl := Except.error.inj failed
    exact .inl ⟨fault, rfl, fault.classified⟩
  | ok node =>
    rw [parsed] at failed
    obtain ⟨type, stage, classified⟩ := ofNode_error failed
    exact .inr ⟨node, type, rfl, stage, classified⟩

/-- A call that looks for a formula, which need not be there. -/
def StoreCall.LooksUp : StoreCall → Prop
  | .formulaByKey _ _ => True
  | .delete _ _ => True
  | _ => False

/-- A call fails for a reason of the store's own: not only because the formula it looks for is
not there. -/
def StoreCall.Fails (call : StoreCall) (reply : Except StoreFault call.Answer) : Prop :=
  ∃ fault, reply = .error fault ∧ ¬(fault = .formulaNotFound ∧ call.LooksUp)

/-- A call that is answered does not fail. -/
@[simp] theorem StoreCall.not_fails_ok {call : StoreCall} (a : call.Answer) :
    ¬call.Fails (.ok a) := by
  rintro ⟨fault, failed, -⟩
  cases failed

/-- A fault fails a call unless the call looks for a formula that is not there. -/
@[simp] theorem StoreCall.fails_error {call : StoreCall} {fault : StoreFault} :
    call.Fails (.error fault) ↔ (fault = .formulaNotFound → ¬call.LooksUp) := by
  simp [Fails]

/-- An answer of the server's own error. -/
def Outcome.IsServerError (outcome : Outcome) : Prop :=
  ∃ response, outcome = .answered response ∧ response.status = 500

@[simp] theorem Outcome.isServerError_answered {response : Response} :
    (Outcome.answered response).IsServerError ↔ response.status = 500 := by
  simp [IsServerError]

@[simp] theorem Response.status_failure (status : Nat) (message : String) :
    (failure status message).status = status := rfl

@[simp] theorem Response.status_ofJson? (status : Nat) (value : Option Json) :
    (ofJson? status value).status = status := by
  cases value <;> rfl

/-- Errors of formulas are no errors of the server. -/
theorem FormulaError.refuse_status (error : FormulaError) : error.report.refuse.status = 400 := by
  rw [error.refuse_report]
  rfl

namespace Api

variable {api : Api} {instanceID : String}

/-- A session ends in a failure exactly if a call of the store fails. It is a structure so that
no proof computes the session it speaks of. -/
structure ReportsFailures {α : Type} (failed : α → Prop) (session : Session α) : Prop where
  /-- Its result reports the calls that fail. -/
  reports : session.Reports StoreCall.Fails failed False

/-- A session that is answered as a server error exactly if a call of the store fails. -/
abbrev TellsFailures (session : Session Response) : Prop :=
  ReportsFailures (fun response => response.status = 500) session

/-- A response that is at hand and no server error. -/
theorem tellsFailures_done {response : Response} (other : response.status ≠ 500) :
    TellsFailures (.done response) := ⟨iff_of_false other id⟩

/-- A session of one call whose answer shows whether the call failed. -/
theorem tellsFailures_ask {call : StoreCall}
    {next : Except StoreFault call.Answer → Session Response}
    (ends : ∀ reply, ∃ response, next reply = .done response ∧
      (response.status = 500 ↔ call.Fails reply)) : TellsFailures (.ask call next) := by
  constructor
  intro reply
  obtain ⟨response, ended, status⟩ := ends reply
  rw [ended, false_or]
  exact status

/-- Listing formulas reports a store that fails. -/
theorem listFormulas_reports (instanceID : String) (onlyValid : Bool) :
    TellsFailures (listFormulas instanceID onlyValid) := by
  refine tellsFailures_ask fun reply => ?_
  rcases reply with fault | formulas
  · exact ⟨_, rfl, by simp [StoreCall.LooksUp]⟩
  · exact ⟨_, rfl, by simp⟩

/-- Reading a formula reports a store that fails, and no formula that is missing. -/
theorem readFormula_reports (instanceID : String) (key : RawText) :
    TellsFailures (readFormula instanceID key) := by
  refine tellsFailures_ask fun reply => ?_
  rcases reply with fault | formula
  · cases fault <;> exact ⟨_, rfl, by simp [StoreCall.LooksUp]⟩
  · exact ⟨_, rfl, by simp⟩

/-- Deleting a formula reports a store that fails, and no formula that is missing. -/
theorem deleteFormula_reports (instanceID : String) (key : RawText) :
    TellsFailures (deleteFormula instanceID key) := by
  refine tellsFailures_ask fun reply => ?_
  rcases reply with fault | deleted
  · cases fault <;> exact ⟨_, rfl, by simp [StoreCall.LooksUp]⟩
  · exact ⟨_, rfl, by simp⟩

/-- Saving a formula reports a store that fails; whatever is wrong with the request is not. -/
theorem saveFormula_reports (api : Api) (claims : Claims) (instanceID body : String) :
    TellsFailures (api.saveFormula claims instanceID body) := by
  unfold saveFormula
  split
  · exact tellsFailures_done (by simp [payloadUnreadable])
  · next saved _ =>
    split
    · exact tellsFailures_done (by simp)
    · split
      · next error _ => exact tellsFailures_done (by simp [error.refuse_status])
      · next formula _ =>
        refine tellsFailures_ask fun reply => ?_
        rcases reply with fault | stored
        · exact ⟨_, rfl, by simp [StoreCall.LooksUp]⟩
        · exact ⟨_, rfl, by simp⟩

/-- A ranking with a formula reports a store that fails to count or to rank. -/
theorem rankWith_reports (api : Api) (instanceID : String) (query : PageQuery)
    (formula : Formula) : TellsFailures (api.rankWith instanceID query formula) := by
  constructor
  intro counted
  rcases counted with fault | window
  · exact iff_of_true rfl (.inr (by simp [StoreCall.LooksUp]))
  · rw [false_or, eq_false (StoreCall.not_fails_ok window)]
    refine (tellsFailures_ask fun ranked => ?_).reports
    rcases ranked with fault | posts
    · exact ⟨_, rfl, by simp [StoreCall.LooksUp]⟩
    · exact ⟨_, rfl, by simp⟩

/-- The search for a source ended in a server error. -/
def SourceFailed : Except Response RankingSource → Prop
  | .error response => response.status = 500
  | .ok _ => False

/-- The search for a stored formula reports a store that fails, and no formula that is missing
or marked invalid. -/
theorem storedSource_reports (instanceID : String) (key : RawText) :
    (storedSource instanceID key).Reports StoreCall.Fails SourceFailed False := by
  intro reply
  rw [false_or]
  rcases reply with fault | formula
  · cases fault with
    | formulaNotFound =>
      exact iff_of_false (show (404 : Nat) ≠ 500 by decide) (by simp [StoreCall.LooksUp])
    | _ => exact iff_of_true rfl (by simp)
  · rw [eq_false (StoreCall.not_fails_ok formula)]
    by_cases valid : formula.valid = true
    · simp only [Dialogue.bind, valid, if_true]
      exact Iff.rfl
    · simp only [Dialogue.bind, valid, Bool.false_eq_true, if_false]
      exact iff_of_false (show (422 : Nat) ≠ 500 by decide) id

/-- The search for the source of a ranking reports a store that fails. -/
theorem rankingSource_reports (instanceID : String) (query : Query) :
    (rankingSource instanceID query).Reports StoreCall.Fails SourceFailed False := by
  have refused : ¬SourceFailed (.error (.failure 400 "use either formula or expression")) ∧
      ¬SourceFailed (.error (.failure 400 "formula or expression required")) := by
    simp [SourceFailed]
  unfold rankingSource
  dsimp only
  split
  · exact iff_of_false refused.1 id
  · split
    · exact Iff.rfl
    · split
      · exact iff_of_false refused.2 id
      · exact storedSource_reports instanceID _

/-- Ranking posts reports a store that fails. -/
theorem rankedPosts_reports (api : Api) (instanceID : String) (query : Query) :
    TellsFailures (api.rankedPosts instanceID query) := by
  rw [rankedPosts_eq]
  split
  · exact tellsFailures_done (by simp)
  · next page _ =>
    refine ⟨(rankingSource_reports instanceID query).bind fun source => ?_⟩
    rcases source with response | source
    · exact Iff.rfl
    · rw [rankFrom]
      split
      · next error _ =>
        have status : source.refusalStatus ≠ 500 := by
          cases source <;> simp [RankingSource.refusalStatus]
        exact (tellsFailures_done status).reports
      · next formula _ => exact (rankWith_reports api instanceID page formula).reports

/-- An expression of a payload is answered without a server error. -/
theorem withExpression_status (visit : Visit) {answer : String → Response}
    (answers : ∀ text, (answer text).status ≠ 500) :
    (withExpression visit answer).status ≠ 500 := by
  unfold withExpression
  split
  · exact answers _
  · simp [payloadUnreadable]

/-- No text makes validation a server error. -/
theorem validateText_status (api : Api) (text : String) : (api.validateText text).status ≠ 500 := by
  unfold validateText
  split
  · next fault _ => simp [fault.report_isOf.refuse, expressionFailure]
  · split
    · next fault _ => simp [fault.report_isOf.refuse, expressionFailure]
    · simp

/-- No text makes compilation a server error. -/
theorem compileText_status (api : Api) (text : String) : (api.compileText text).status ≠ 500 := by
  unfold compileText
  split
  · next error _ => simp [error.refuse_status]
  · simp

/-- A tagged session reports what the session does. -/
theorem tagged_reports {session : Session Response} (tag : Option RequestTag)
    (tells : TellsFailures session) :
    ReportsFailures Outcome.IsServerError (tagged tag session) := by
  have answered : (Outcome.answered <$> session).Reports StoreCall.Fails Outcome.IsServerError
      False := tells.reports.bind fun _ => Outcome.isServerError_answered
  refine ⟨answered.bind fun outcome => ?_⟩
  cases outcome with
  | answered response => simp [Dialogue.Reports, Outcome.withTag, Response.withTag]
  | unguarded => exact Iff.rfl

/-- What an endpoint does reports a store that fails. -/
theorem handle_reports (api : Api) (endpoint : Endpoint) (visit : Visit) (tag : Option RequestTag) :
    ReportsFailures Outcome.IsServerError ((api.handle endpoint visit).bind fun outcome =>
      .done (outcome.withTag tag)) := by
  have unguarded : ReportsFailures Outcome.IsServerError
      (.done (Outcome.unguarded.withTag tag)) :=
    ⟨iff_of_false (by simp [Outcome.IsServerError, Outcome.withTag]) id⟩
  cases endpoint with
  | health => exact tagged_reports tag (tellsFailures_done (by simp))
  | grammar => exact tagged_reports tag (tellsFailures_done (by simp [grammar]))
  | validate =>
    have status := withExpression_status visit api.validateText_status
    exact tagged_reports tag (tellsFailures_done status)
  | compile =>
    have status := withExpression_status visit api.compileText_status
    exact tagged_reports tag (tellsFailures_done status)
  | formulas => exact tagged_reports tag (listFormulas_reports _ _)
  | formula => exact tagged_reports tag (readFormula_reports _ _)
  | rankedPosts => exact tagged_reports tag (rankedPosts_reports api _ _)
  | saveFormula =>
    rw [handle, withClaims]
    split
    · exact tagged_reports tag (saveFormula_reports api _ _ _)
    · exact unguarded
  | deleteFormula =>
    rw [handle, withClaims]
    split
    · exact tagged_reports tag (deleteFormula_reports _ _)
    · exact unguarded

/-- A request is answered as a server error exactly if a call of the store fails. -/
theorem respond_reports (api : Api) (now : Instant) (request : Request) :
    ReportsFailures Outcome.IsServerError (api.respond now request) := by
  have answered {response : Response} (other : response.status ≠ 500) :
      ReportsFailures Outcome.IsServerError (.done (.answered response)) :=
    ⟨iff_of_false (by simpa using other) id⟩
  unfold respond Site.serve
  split
  · split
    · next pass refusal _ =>
      have status : refusal.status ≠ 500 := by cases refusal <;> decide
      exact answered status
    · exact handle_reports api _ _ _
  · refine answered ?_
    unfold movedResponse
    dsimp only
    split <;> simp
  · exact answered (by decide : (404 : Nat) ≠ 500)

/-- No server error is spurious. Every error that making a formula, reading a text or validating
an expression can end in is classified by the stage that failed, as one of a formula exactly if
it came from a formula whose text could be read, and is answered as a fault of the request.
Whatever the store answers, every request is answered, and as a server error exactly if a call of
the store failed for a reason of the store's own. -/
theorem server_errors_from_store :
    (∀ whitelist source error, Formula.ofText whitelist source = .error error →
      (∃ fault, Node.parse source = .error fault ∧ error.report.Classified .parseError False) ∨
        ∃ node type, Node.parse source = .ok node ∧ node.FailsAt whitelist type ∧
          error.report.Classified type True) ∧
    (∀ whitelist source node error, Formula.ofNode whitelist source node = .error error →
      ∃ type, node.FailsAt whitelist type ∧ error.report.Classified type True) ∧
    (∀ source fault, Node.parse source = .error fault →
      fault.report.Classified .parseError False) ∧
    (∀ (whitelist : Whitelist) (node : Node) fault, node.validate whitelist = .error fault →
      ∃ type, node.FailsAt whitelist type ∧ fault.report.Classified type False) ∧
    ∀ (api : Api) (now : Instant) (request : Request) (σ : Type)
      (answer : σ → (call : StoreCall) → Except StoreFault call.Answer × σ) (state : σ),
      ∃ response, ((api.respond now request).run answer state).result = .answered response ∧
        (response.status = 500 ↔
          ∃ exchange ∈ (api.respond now request).exchanges answer state,
            exchange.1.Fails exchange.2) := by
  refine ⟨fun _ _ _ => Formula.ofText_error, fun _ _ _ _ => Formula.ofNode_error,
    fun _ fault _ => fault.classified, ?_, ?_⟩
  · intro whitelist node fault refused
    exact ⟨fault.type, Node.failsAt_of_validate_error refused, fault.classified⟩
  · intro api now request σ answer state
    have ends : ((api.respond now request).run answer state).result.IsAnswered :=
      (api.serves_respond now request).endsIn.result state
    have reported : ((api.respond now request).run answer state).result.IsServerError ↔
        False ∨ ∃ exchange ∈ (api.respond now request).exchanges answer state,
          exchange.1.Fails exchange.2 := (api.respond_reports now request).reports.result state
    obtain ⟨response, answered⟩ := ends
    rw [answered, Outcome.isServerError_answered, false_or] at reported
    exact ⟨response, answered, reported⟩

/-- A reader asks for the formulas of `blog`. -/
def blogListing : Request :=
  ⟨"GET", "/v1/instances/blog/formulas", [("X-API-Key", "read")], "", false⟩

/-- A store that loses every call. -/
def lostStore (_ : Unit) (call : StoreCall) : Except StoreFault call.Answer × Unit :=
  (.error (.refused "connection lost"), ())

/-- In `blog` the text `views` fails for its variable, and a listing of formulas from a store
that loses every call is a server error. -/
theorem server_errors_from_store_blog :
    (∃ error, Formula.ofText blog.whitelist (.ofString "views") = .error error ∧
        error.report.Classified .invalidVariable True) ∧
      ∃ response, ((blog.respond .zero blogListing).run lostStore ()).result =
        .answered response ∧ response.status = 500 := by
  obtain ⟨texts, -, -, -, requests⟩ := server_errors_from_store
  constructor
  · have failed : Formula.ofText blog.whitelist (.ofString "views") =
        .error (.invalid (.invalidVariable "views")) := rfl
    refine ⟨_, failed, ?_⟩
    rcases texts _ _ _ failed with ⟨_, -, classified⟩ | ⟨_, type, -, -, classified⟩
    · cases classified.found
    · obtain rfl := Option.some.inj classified.found
      exact classified
  · obtain ⟨response, answered, status⟩ := requests blog .zero blogListing Unit lostStore ()
    have lost : (blog.respond .zero blogListing).exchanges lostStore () =
        [⟨.formulas "blog" false, .error (.refused "connection lost")⟩] := rfl
    refine ⟨response, answered, status.mpr ?_⟩
    rw [lost]
    exact ⟨_, List.mem_singleton_self _, by simp [StoreCall.LooksUp]⟩

end Api
end RankFormula
