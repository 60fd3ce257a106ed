import RankFormula.Expression.Lowering
import RankFormula.Expression.Report
import RankFormula.Expression.Variables

/-!
# Ranking formulas

A formula is an expression that passed validation, together with its operator
tree and the variables it reads. Every way to make one goes through
`Node.compile`, so the tree of a formula is complete.
-/

namespace RankFormula

/-- An expression that can rank documents. -/
structure Formula where
  /-- The text it was made from, kept for reference. -/
  source : RawText
  /-- The operator tree. -/
  tree : Value
  /-- The variables of the expression, in the order of its text. -/
  variableNames : List String

/-- Why a text is no formula. -/
inductive FormulaError where
  /-- The text is no expression. -/
  | unreadable (fault : ParseFault)
  /-- The expression is no formula. -/
  | invalid (fault : ExpressionFault)
  deriving DecidableEq, Repr

/-- The words of an error. -/
def FormulaError.message : FormulaError → String
  | .unreadable fault => fault.message
  | .invalid fault => "invalid formula: " ++ fault.message

/-- The error as it is handed on. One of an expression wraps the mark of all errors of formulas
and the fault itself; one of a text is handed on as it is. -/
def FormulaError.report : FormulaError → Report
  | .unreadable fault => fault.report
  | .invalid fault =>
    .wrapping (FormulaError.invalid fault).message
      [.marked .invalidFormula "invalid formula", fault.report]

namespace Formula

/-- The formula of an expression. -/
def ofNode (whitelist : Whitelist) (source : RawText) (node : Node) : Except FormulaError Formula :=
  match node.compile whitelist with
  | .ok tree => .ok ⟨source, tree, node.variableNames⟩
  | .error failure => .error (.invalid failure.fault)

/-- The formula of a text. -/
def ofText (whitelist : Whitelist) (source : RawText) : Except FormulaError Formula :=
  match Node.parse source with
  | .ok node => ofNode whitelist source node
  | .error fault => .error (.unreadable fault)

/-- Adds a field to fields read so far, unless it is among them. -/
def addRead (fields : List String) (name : String) : List String :=
  if fields.contains name then fields else fields ++ [name]

/-- The fields a formula reads, each once. -/
def fields (formula : Formula) : List String := formula.variableNames.foldl addRead []

end Formula
end RankFormula
