import RankFormula.Text.Quoted

/-!
# Faults of expressions

Why an expression is no formula: what `Node.validate` refuses, and what has no
counterpart among the operators of the document store.
-/

namespace RankFormula

/-- The part of an expression that has no counterpart in operator trees. -/
inductive Unlowered where
  /-- An operator outside the four of arithmetic. -/
  | operator (symbol : String)
  /-- A callee that is no plain name. -/
  | callee (name : String)
  /-- A function without counterpart. -/
  | function (name : String)
  /-- A node of a kind without counterpart, by its description. -/
  | node (description : String)
  deriving DecidableEq, Repr

/-- The words that name a part without counterpart. -/
def Unlowered.message : Unlowered → String
  | .operator symbol => "no operator tree lowering: operator " ++ quotedString symbol
  | .callee name => "no operator tree lowering: callee " ++ name
  | .function name => "no operator tree lowering: function " ++ name
  | .node description => "no operator tree lowering: " ++ description

/-- Why an expression is no formula. -/
inductive ExpressionFault where
  /-- A variable outside the whitelist. -/
  | invalidVariable (name : String)
  /-- A call of an unknown function, or with another number of arguments. -/
  | invalidFunction (name : String) (arguments : Nat)
  /-- A node no formula may contain, by its description. -/
  | invalidExpression (description : String)
  /-- A literal that is no number. -/
  | invalidLiteral
  /-- A valid part without counterpart in operator trees. -/
  | notCompilable (part : Unlowered)
  deriving DecidableEq, Repr

/-- The words of a fault. -/
def ExpressionFault.message : ExpressionFault → String
  | .invalidVariable name => "invalid variable " ++ name
  | .invalidFunction name _ => "invalid function " ++ name
  | .invalidExpression description => "invalid expression " ++ description
  | .invalidLiteral => "literal is not a number"
  | .notCompilable part => part.message

end RankFormula
