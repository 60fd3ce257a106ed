import RankFormula.Expression.Fault
import RankFormula.Expression.Parsing

/-!
# Errors as they are handed on

An error that is handed on may wrap others. Whoever handles it does not look at how it was
built: it asks for a mark, and finds it on the error itself or on one that it wraps, at any
depth. `Report.bears` is that search.
-/

namespace RankFormula

/-- What an error can be recognised by. -/
inductive ErrorMark where
  /-- A text is no expression. -/
  | unreadable
  /-- A text is empty. -/
  | emptyText
  /-- A variable is outside the whitelist. -/
  | invalidVariable
  /-- A function is unknown, or called with another number of arguments. -/
  | invalidFunction
  /-- A node may not stand in a formula. -/
  | invalidExpression
  /-- A literal is no number. -/
  | invalidLiteral
  /-- A part has no counterpart in operator trees. -/
  | notCompilable
  /-- An expression is no formula. -/
  | invalidFormula
  deriving DecidableEq, Repr

/-- An error: its words, the mark it bears itself, and the errors it wraps. -/
inductive Report where
  | mk (words : String) (mark : Option ErrorMark) (wrapped : List Report)

namespace Report

/-- The words of an error. -/
def words : Report → String
  | .mk words _ _ => words

/-- An error that is known by a mark and wraps nothing. -/
def marked (mark : ErrorMark) (words : String) : Report := .mk words (some mark) []

/-- An error that is known only by what it wraps. -/
def wrapping (words : String) (wrapped : List Report) : Report := .mk words none wrapped

mutual

/-- Whether an error, or one that it wraps, bears a mark. -/
def bears (mark : ErrorMark) : Report → Bool
  | .mk _ own wrapped => own == some mark || anyBears mark wrapped

/-- Whether one of several errors bears a mark. -/
def anyBears (mark : ErrorMark) : List Report → Bool
  | [] => false
  | report :: reports => bears mark report || anyBears mark reports

end
end Report

/-- The error of a text that is no expression; it wraps the fault of the text. -/
def ParseFault.report (fault : ParseFault) : Report :=
  let cause : Report :=
    match fault with
    | .empty _ => .marked .emptyText "expression is empty"
    | .malformed source located => .wrapping (located.message source.chars) []
  .mk fault.message (some .unreadable) [cause]

/-- The error of an expression that is no formula. A part without counterpart is known by an
error that is wrapped. -/
def ExpressionFault.report (fault : ExpressionFault) : Report :=
  match fault with
  | .invalidVariable _ => .marked .invalidVariable fault.message
  | .invalidFunction _ _ => .marked .invalidFunction fault.message
  | .invalidExpression _ => .marked .invalidExpression fault.message
  | .invalidLiteral => .marked .invalidLiteral fault.message
  | .notCompilable _ =>
    .wrapping fault.message [.marked .notCompilable "no operator tree lowering"]

end RankFormula
