import RankFormula.Proofs.Api.Authorisation
import RankFormula.Proofs.Formula.Tree
import RankFormula.Proofs.Surface.Reading

/-!
# Validation and compilation side by side

Two endpoints take an expression: one says whether it is valid, the other answers its formula.
`Api.Verdicts` lists the four pairs of answers that they can give to one text, and
`Api.verdicts_of_text` shows that they give no other. That a formula always has a body rests
on the parser, which reads no number that cannot be written.
-/

namespace RankFormula

/-- The kinds of faults that validation finds. -/
def validationTypes : List ErrorType := [.invalidVariable, .invalidFunction, .invalidExpression]

namespace Node

variable {whitelist : Whitelist} {fault : ExpressionFault}

/-- A call that is not in the vocabulary is a fault of its function. -/
theorem callFault?_type {callee : Node} {arguments : Nat}
    (found : callFault? callee arguments = some fault) : fault.type = .invalidFunction := by
  unfold callFault? at found
  split at found
  · split at found
    · split at found
      · cases found
      · obtain rfl := Option.some.inj found
        rfl
    · obtain rfl := Option.some.inj found
      rfl
  · obtain rfl := Option.some.inj found
    rfl

/-- Validation finds faults of three kinds. -/
theorem validate_error_type {node : Node} (failed : node.validate whitelist = .error fault) :
    fault.type ∈ validationTypes := by
  induction node with
  | literal value => cases failed
  | identifier name =>
    rw [validate] at failed
    split at failed
    · cases failed
    · obtain rfl := Except.error.inj failed
      simp [ExpressionFault.type, validationTypes]
  | binary operator left right leftClaim rightClaim =>
    rw [validate] at failed
    split at failed
    · obtain rfl := Except.error.inj failed
      simp [ExpressionFault.type, validationTypes]
    · split at failed
      · exact rightClaim failed
      · exact leftClaim failed
  | call callee arguments _ argumentClaim =>
    rw [validate] at failed
    split at failed
    · next found =>
      obtain rfl := Except.error.inj failed
      rw [callFault?_type found]
      decide
    · obtain ⟨argument, member, invalid⟩ := exists_of_validateAll_error failed
      exact argumentClaim argument member invalid
  | _ =>
    obtain rfl := Except.error.inj failed
    simp [ExpressionFault.type, validationTypes]

end Node

namespace Api

/-- The answers of validation and of compilation to one text. -/
inductive Verdicts : Response → Response → Prop where
  /-- Both refuse it, for a fault of one kind. -/
  | refused (validated compiled : String) {type : ErrorType}
    (known : type ∈ .parseError :: validationTypes) :
    Verdicts (expressionFailure 400 validated type) (expressionFailure 400 compiled type)
  /-- It is not valid for a literal that is no number. -/
  | notNumeric (names : List String) (compiled : String) :
    Verdicts (.json 200 (.object [("valid", .bool false), ("variables", namesJson names)]))
      (expressionFailure 400 compiled .invalidLiteral)
  /-- It is valid and has no operator tree. -/
  | notLowered (names : List String) (compiled : String) :
    Verdicts (.json 200 (.object [("valid", .bool true), ("variables", namesJson names)]))
      (expressionFailure 400 compiled .notCompilable)
  /-- It is valid and makes a formula with the same variables. -/
  | accepted (names : List String) (source tree : Json) :
    Verdicts (.json 200 (.object [("valid", .bool true), ("variables", namesJson names)]))
      (.json 200 (.object [("source", source), ("tree", tree), ("variables", namesJson names)]))

/-- The answers of validation and of compilation to a text that can be read. -/
theorem verdicts_of_parsed (api : Api) {text : String} {node : Node}
    (parsed : Node.parse text = .ok node) :
    Verdicts (api.validateText text) (api.compileText text) := by
  simp only [validateText, compileText, Formula.ofText, Formula.ofNode, parsed]
  cases validated : node.validate api.whitelist with
  | error fault =>
    rw [Node.compile_of_fault validated]
    simp only [fault.report_isOf.refuse, FormulaError.refuse_report]
    exact .refused _ _ (List.mem_cons_of_mem _ (Node.validate_error_type validated))
  | ok valid =>
    cases valid with
    | false =>
      rw [Node.compile_of_invalid validated]
      simp only [FormulaError.refuse_report]
      exact .notNumeric _ _
    | true =>
      rcases Node.compile_of_valid validated with ⟨tree, compiled⟩ | ⟨part, tree, compiled⟩
      · have writable : tree.Writable :=
          (Node.compile_eq_ok.mp compiled).writable (Node.printable_of_parse parsed)
        obtain ⟨json, written⟩ := Option.isSome_iff_exists.mp writable
        rw [compiled]
        simp only [Formula.toJson?, written]
        exact .accepted _ _ _
      · rw [compiled]
        simp only [FormulaError.refuse_report]
        exact .notLowered _ _

/-- The answers of validation and of compilation to any text. -/
theorem verdicts_of_text (api : Api) (text : String) :
    Verdicts (api.validateText text) (api.compileText text) := by
  cases parsed : Node.parse text with
  | ok node => exact api.verdicts_of_parsed parsed
  | error fault =>
    unfold validateText compileText Formula.ofText
    rw [parsed]
    dsimp only
    rw [fault.report_isOf.refuse, FormulaError.refuse_report]
    exact .refused _ _ (by decide)

end Api

namespace Response

/-- A member of the JSON object that a response carries. -/
def member? (response : Response) (name : String) : Option Json :=
  match response.body with
  | .json value => value.member? name
  | .text _ => none

/-- A response has a status and a member. -/
def Says (response : Response) (status : Nat) (name : String) (value : Json) : Prop :=
  response.status = status ∧ response.member? name = some value

@[simp] theorem status_json (status : Nat) (value : Json) : (json status value).status = status :=
  rfl

@[simp] theorem member?_json (status : Nat) (value : Json) (name : String) :
    (json status value).member? name = value.member? name := rfl

@[simp] theorem says_json {status expected : Nat} {value member : Json} {name : String} :
    (json status value).Says expected name member ↔
      status = expected ∧ value.member? name = some member := Iff.rfl

end Response

namespace Api

/-- The answers of validation and of compilation do not contradict each other. -/
structure Consistent (validated compiled : Response) : Prop where
  /-- What is valid compiles, or has no operator tree. -/
  valid : validated.Says 200 "valid" (.bool true) ↔
    compiled.status = 200 ∨ compiled.Says 400 "errorType" (.string "not_compilable")
  /-- What is not valid has a literal that is no number. -/
  invalid : validated.Says 200 "valid" (.bool false) ↔
    compiled.Says 400 "errorType" (.string "invalid_literal")
  /-- What one refuses the other refuses, for a fault of the same kind. -/
  refused : ∀ type ∈ ["parse_error", "invalid_variable", "invalid_function",
      "invalid_expression"],
    validated.Says 400 "errorType" (.string type) ↔ compiled.Says 400 "errorType" (.string type)
  /-- What compiles has the variables that were found in it. -/
  sameVariables : validated.Says 200 "valid" (.bool true) → compiled.status = 200 →
    ∃ names, validated.member? "variables" = some (namesJson names) ∧
      compiled.member? "variables" = some (namesJson names)

/-- No fault of the parser or of validation is one of compilation. -/
theorem label_of_known {type : ErrorType} (known : type ∈ .parseError :: validationTypes) :
    type.label ≠ "not_compilable" ∧ type.label ≠ "invalid_literal" := by
  revert known
  cases type <;> decide

/-- Two answers to one text are consistent. -/
theorem Verdicts.consistent {validated compiled : Response}
    (verdicts : Verdicts validated compiled) : Consistent validated compiled := by
  cases verdicts with
  | refused first second known =>
    obtain ⟨notLowered, notNumeric⟩ := label_of_known known
    constructor <;> simp [expressionFailure, Json.member?, notLowered, notNumeric]
  | notNumeric names message =>
    constructor <;> simp [expressionFailure, Json.member?, ErrorType.label]
  | notLowered names message =>
    constructor <;> simp [expressionFailure, Json.member?, ErrorType.label]
  | accepted names source tree =>
    constructor <;> simp [Json.member?]

/-- Tags contradict nothing. -/
theorem Consistent.withTags {validated compiled : Response}
    (consistent : Consistent validated compiled) (first second : Option RequestTag) :
    Consistent (validated.withTag first) (compiled.withTag second) :=
  ⟨consistent.valid, consistent.invalid, consistent.refused, consistent.sameVariables⟩

/-- A reader sends an expression to an endpoint for expressions. -/
structure SendsExpression (access : Access) (name : String) (request : Request)
    (expression : String) : Prop where
  /-- It is sent. -/
  method : request.method = "POST"
  /-- The path names the endpoint. -/
  path : pathSegments request.path =
    [.ofString "v1", .ofString "expressions", .ofString name]
  /-- It carries the key of a client. -/
  client : access.FromClient request
  /-- It carries JSON. -/
  json : request.contentType = "application/json"
  /-- The expression is in the payload. -/
  payload : payloadExpression? request.body = some expression

section Sending

variable {api : Api} {now : Instant} {request : Request} {expression : String}

/-- A payload with an expression is not empty. -/
theorem SendsExpression.present {access : Access} {name : String}
    (sends : SendsExpression access name request expression) : request.declaresNoBody = false := by
  have filled : request.body.isEmpty = false := by
    rw [String.isEmpty_eq_false_iff]
    intro empty
    have nothing : payloadExpression? "" = none := by decide
    have payload := sends.payload
    rw [empty, nothing] at payload
    cases payload
  rw [Request.declaresNoBody, filled, Bool.and_false]

/-- The guards of the endpoints for expressions let the reader through. -/
theorem SendsExpression.passes {access : Access} {name : String}
    (sends : SendsExpression access name request expression) (now : Instant) :
    ∃ client, access.Passes now request [] [.requestTag, .apiKey, .payload] .start
      ⟨some request.tag, some client, none⟩ := by
  obtain ⟨found, known⟩ := Access.exists_client?_eq_some.mpr sends.client
  have keyed : access.check now request [] ⟨some request.tag, none, none⟩ .apiKey =
      .ok ⟨some request.tag, some found.name, none⟩ :=
    Access.check_apiKey_eq_ok.mpr ⟨found, known, rfl⟩
  have loaded : access.check now request [] ⟨some request.tag, some found.name, none⟩ .payload =
      .ok ⟨some request.tag, some found.name, none⟩ :=
    Access.check_payload_eq_ok.mpr ⟨sends.present, sends.json, rfl⟩
  exact ⟨found.name, .cons Access.check_requestTag (.cons keyed (.cons loaded
    (Access.passes_nil.mpr rfl)))⟩

/-- An endpoint for expressions answers what is sent to it. -/
theorem SendsExpression.respond {name : String}
    (sends : SendsExpression api.access name request expression) (now : Instant)
    (endpoint : Endpoint) (answer : String → Response) (method : endpoint.method = "POST")
    (pattern : endpoint.pattern = [.exact "v1", .exact "expressions", .exact name])
    (guards : endpoint.guards = [.requestTag, .apiKey, .payload])
    (handles : ∀ visit, api.handle endpoint visit =
      .done (.answered (withExpression visit answer))) :
    api.respond now request =
      .done (.answered ((answer expression).withTag (some request.tag))) := by
  have follows : endpoint.route.parameters? request.path = some [] := by
    refine Route.parameters?_of_pattern ?_ ?_
    · rw [Endpoint.route, pattern]
      rfl
    · simp [Endpoint.route, pattern, sends.path]
  obtain ⟨client, passes⟩ := sends.passes now
  rw [← guards] at passes
  rw [respond_of_passes endpoint (method.trans sends.method.symm) follows passes, handles]
  simp only [Dialogue.bind, withExpression, sends.payload, Outcome.withTag]

end Sending

/-- Whatever the whitelist, a text that is sent to be validated and to be compiled gets two
answers, at once, that do not contradict each other. -/
theorem answers_consistent (api : Api) (now later : Instant) {toValidate toCompile : Request}
    {expression : String}
    (validates : SendsExpression api.access "validate" toValidate expression)
    (compiles : SendsExpression api.access "compile" toCompile expression) :
    ∃ validated compiled : Response,
      api.respond now toValidate = .done (.answered validated) ∧
        api.respond later toCompile = .done (.answered compiled) ∧
        Consistent validated compiled := by
  have first := validates.respond now .validate api.validateText rfl rfl rfl fun _ => rfl
  have second := compiles.respond later .compile api.compileText rfl rfl rfl fun _ => rfl
  have consistent := (api.verdicts_of_text expression).consistent
  exact ⟨_, _, first, second, consistent.withTags _ _⟩

/-- A reader sends a call of the logistic function, which is valid and has no operator tree. -/
def blogExpression (name : String) : Request :=
  ⟨"POST", "/v1/expressions/" ++ name,
    [("X-API-Key", "read"), ("Content-Type", "application/json")],
    "\x7b\"expression\": \"sigmoid(likes)\"\x7d", false⟩

/-- The call may be sent to any endpoint for expressions. -/
theorem blogExpression_sends {name : String}
    (path : pathSegments (blogExpression name).path =
      [.ofString "v1", .ofString "expressions", .ofString name]) :
    SendsExpression blog.access name (blogExpression name) "sigmoid(likes)" where
  method := rfl
  path := path
  client := ⟨⟨"feed", "read"⟩, List.mem_singleton.mpr rfl, by decide, rfl⟩
  json := (by decide : (blogExpression "").contentType = "application/json")
  payload := (by decide +kernel :
    payloadExpression? (blogExpression "").body = some "sigmoid(likes)")

/-- The two answers to the call do not contradict each other. -/
theorem answers_consistent_sigmoid :
    ∃ validated compiled : Response,
      blog.respond .zero (blogExpression "validate") = .done (.answered validated) ∧
        blog.respond .zero (blogExpression "compile") = .done (.answered compiled) ∧
        Consistent validated compiled :=
  answers_consistent blog .zero .zero (blogExpression_sends (by decide))
    (blogExpression_sends (by decide))

end Api
end RankFormula
