import RankFormula.Api.PageQuery
import RankFormula.Http.Site
import RankFormula.Json.Fields

/-!
# Endpoints for expressions

The settings of the service, and the endpoints that concern expressions. They answer
the vocabulary of formulas, whether an expression is valid, and its operator tree. A
text that is no formula is refused with the kind of its fault.
-/

namespace RankFormula

/-- The settings of the service: who may use it, and how it ranks. -/
structure Api where
  /-- Who may do what. -/
  access : Access
  /-- The variables that formulas may read. -/
  whitelist : Whitelist
  /-- The fields of posts stored as dates. -/
  dateFields : List String
  /-- The field that receives the score; empty for the usual one. -/
  scoreField : String

/-- The kinds of faults that callers can tell apart. -/
inductive ErrorType where
  /-- The text is no expression. -/
  | parseError
  /-- A variable outside the whitelist. -/
  | invalidVariable
  /-- An unknown function or a wrong number of arguments. -/
  | invalidFunction
  /-- A node no formula may contain. -/
  | invalidExpression
  /-- A literal that is no number. -/
  | invalidLiteral
  /-- A valid part without counterpart in operator trees. -/
  | notCompilable
  deriving DecidableEq, Repr

/-- The name of a kind. -/
def ErrorType.label : ErrorType → String
  | .parseError => "parse_error"
  | .invalidVariable => "invalid_variable"
  | .invalidFunction => "invalid_function"
  | .invalidExpression => "invalid_expression"
  | .invalidLiteral => "invalid_literal"
  | .notCompilable => "not_compilable"

/-- The mark of the errors of a kind. -/
def ErrorType.mark : ErrorType → ErrorMark
  | .parseError => .unreadable
  | .invalidVariable => .invalidVariable
  | .invalidFunction => .invalidFunction
  | .invalidExpression => .invalidExpression
  | .invalidLiteral => .invalidLiteral
  | .notCompilable => .notCompilable

/-- The kinds in the order in which they are tried. -/
def ErrorType.all : List ErrorType :=
  [.parseError, .invalidVariable, .invalidFunction, .invalidExpression, .invalidLiteral,
    .notCompilable]

/-- The kind of an error: the first whose mark it bears, if there is one. -/
def Report.type? (report : Report) : Option ErrorType :=
  ErrorType.all.find? fun type => report.bears type.mark

/-- The response that refuses an expression. -/
def expressionFailure (status : Nat) (message : String) (type : ErrorType) : Response :=
  .json status (.object [("error", .string message), ("errorType", .string type.label)])

/-- The response to an error of an expression. One of no known kind is not the caller's. -/
def Report.refuse (report : Report) : Response :=
  match report.type? with
  | some type => expressionFailure 400 report.words type
  | none => .failure 500 "unexpected error"

/-- The JSON form of names. -/
def namesJson (names : List String) : Json := .array (names.map .string)

/-- The JSON form of a formula, if all its numbers can be written. -/
def Formula.toJson? (formula : Formula) : Option Json :=
  formula.tree.toJson?.map fun tree =>
    .object [("source", .ofRaw formula.source), ("tree", tree),
      ("variables", namesJson formula.variableNames)]

/-- The members of the JSON object in front of a payload. -/
def payloadMembers? (body : String) : Option (List (String × Json)) := do
  let (json, _) ← Json.readFirst? body.toList
  json.members?

/-- The expression in a payload. -/
def payloadExpression? (body : String) : Option String := do
  Json.textField? "expression" (← payloadMembers? body)

/-- The response to a payload that cannot be read. -/
def payloadUnreadable : Response := .failure 400 jsonUnreadable

namespace Api

/-- The functions in the order listed. -/
def listedFunctions : List FormulaFunction := [.exp, .sigmoid, .expDecay]

/-- The operators in the order listed. -/
def listedOperators : List ArithmeticOperator := [.add, .subtract, .multiply, .divide]

/-- Lists what formulas are made of. -/
def grammar (api : Api) : Response :=
  .json 200 (.object
    [("variables", namesJson api.whitelist.names),
      ("functions", .array (listedFunctions.map fun f =>
        .object [("name", .string f.name), ("arity", .int f.arity)])),
      ("operators", namesJson (listedOperators.map ArithmeticOperator.symbol))])

/-- Says whether a text is a valid expression. -/
def validateText (api : Api) (text : String) : Response :=
  match Node.parse text with
  | .error fault => fault.report.refuse
  | .ok node =>
    match node.validate api.whitelist with
    | .error fault => fault.report.refuse
    | .ok valid =>
      .json 200 (.object [("valid", .bool valid), ("variables", namesJson node.variableNames)])

/-- Answers the formula of a text. -/
def compileText (api : Api) (text : String) : Response :=
  match Formula.ofText api.whitelist text with
  | .error error => error.report.refuse
  | .ok formula => .ofJson? 200 formula.toJson?

/-- Answers an endpoint that takes the expression of a payload. -/
def withExpression (visit : Visit) (answer : String → Response) : Response :=
  match payloadExpression? visit.request.body with
  | some text => answer text
  | none => payloadUnreadable

end Api
end RankFormula
