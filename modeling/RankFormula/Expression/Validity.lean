import RankFormula.Expression.Fault
import RankFormula.Expression.Node
import RankFormula.Expression.Vocabulary
import RankFormula.Expression.Whitelist

/-!
# Validity of expressions

`Node.validate` looks at an expression from left to right and stops at its first
offence. An offence is either a fault, or a literal that is no number; the latter
makes the expression invalid without naming a fault.
-/

namespace RankFormula
namespace Node

/-- The fault of a call whose callee or number of arguments is not in the vocabulary. -/
def callFault? (callee : Node) (arguments : Nat) : Option ExpressionFault :=
  match callee with
  | .identifier name =>
    match FormulaFunction.ofName? name with
    | some f => if f.arity = arguments then none else some (.invalidFunction name arguments)
    | none => some (.invalidFunction name arguments)
  | _ => some (.invalidFunction callee.calleeName arguments)

mutual

/-- Whether an expression may be a formula: `true` if so, `false` if its first
offence is a literal that is no number, an error if it is a fault. -/
def validate (whitelist : Whitelist) : Node → Except ExpressionFault Bool
  | .literal value => .ok value.isNumber
  | .identifier name =>
    if whitelist.contains name then .ok true else .error (.invalidVariable name)
  | .malformedName name => .error (.invalidVariable name.toString)
  | .call callee arguments =>
    match callFault? callee arguments.length with
    | some fault => .error fault
    | none => validateAll whitelist arguments
  | .binary operator left right =>
    match ArithmeticOperator.ofSymbol? operator with
    | none => .error (.invalidExpression (describe (.binary operator left right)))
    | some _ =>
      match validate whitelist left with
      | .ok true => validate whitelist right
      | offence => offence
  | node => .error (.invalidExpression node.describe)

/-- Whether every expression of a list may be a formula, up to the first offence. -/
def validateAll (whitelist : Whitelist) : List Node → Except ExpressionFault Bool
  | [] => .ok true
  | node :: nodes =>
    match validate whitelist node with
    | .ok true => validateAll whitelist nodes
    | offence => offence

end
end Node
end RankFormula
