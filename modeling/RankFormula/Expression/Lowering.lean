import RankFormula.Expression.Validity

/-!
# Lowering to operator trees

`Node.lower` turns an expression into the operator tree that the document store
evaluates: a document with one field per operation, `"$name"` for a variable and
the number itself for a literal. A part without counterpart leaves a placeholder
and is reported; of several such parts the leftmost is.
-/

namespace RankFormula

/-- An operator tree, and the leftmost part that had no counterpart. -/
structure Lowered where
  /-- The operator tree. -/
  tree : Value
  /-- What the leftmost placeholder stands for. -/
  missing : Option Unlowered

/-- What stands in a tree for a part without counterpart. -/
def placeholder : Value := .string ""

namespace Lowered

/-- The tree of a part without counterpart. -/
def without (part : Unlowered) : Lowered := ⟨placeholder, some part⟩

/-- An operation on two operands. -/
def operation (op : ArithmeticOperator) (left right : Lowered) : Lowered :=
  ⟨.object [(op.treeName, .list [left.tree, right.tree])], left.missing <|> right.missing⟩

/-- The exponential of an operand. -/
def exponential (operand : Lowered) : Lowered :=
  ⟨.object [(expTreeName, operand.tree)], operand.missing⟩

/-- The product of a value and the exponential of minus a rate times a time. -/
def decay (value rate elapsed : Lowered) : Lowered :=
  let minusOne : Value := .number (.doubleOfInt (-1))
  let exponent : Value :=
    .object [(ArithmeticOperator.multiply.treeName, .list [minusOne, rate.tree, elapsed.tree])]
  ⟨.object [(ArithmeticOperator.multiply.treeName,
      .list [value.tree, .object [(expTreeName, exponent)]])],
    value.missing <|> rate.missing <|> elapsed.missing⟩

/-- A call of a function on lowered arguments; arguments beyond those used are ignored. -/
def call (name : String) (arguments : List Lowered) : Lowered :=
  match FormulaFunction.ofName? name, arguments with
  | some .exp, operand :: _ => exponential operand
  | some .expDecay, value :: rate :: elapsed :: _ => decay value rate elapsed
  | _, _ => without (.function name)

end Lowered

namespace Node

mutual

/-- The operator tree of an expression, valid or not. -/
def lower : Node → Lowered
  | .literal value => ⟨value, none⟩
  | .identifier name => ⟨.string ("$" ++ name), none⟩
  | .malformedName name => ⟨.malformed ⟨.char '$' :: name.units⟩, none⟩
  | .binary operator left right =>
    match ArithmeticOperator.ofSymbol? operator with
    | some op => .operation op (lower left) (lower right)
    | none => .without (.operator operator)
  | .call (.identifier name) arguments => .call name (lowerAll arguments)
  | .call (.malformedName name) _ => .without (.function name.toString)
  | .call callee _ => .without (.callee callee.calleeName)
  | node => .without (.node node.describe)

/-- The operator trees of expressions in order. -/
def lowerAll : List Node → List Lowered
  | [] => []
  | node :: nodes => lower node :: lowerAll nodes

end

/-- The fault that keeps a node from being a formula before it is lowered. -/
def fault? (whitelist : Whitelist) (node : Node) : Option ExpressionFault :=
  match node.validate whitelist with
  | .ok true => none
  | .ok false => some .invalidLiteral
  | .error fault => some fault

/-- A failed compilation: the fault, and the tree with its placeholders if the
expression was valid. -/
structure CompileFailure where
  /-- Why there is no formula. -/
  fault : ExpressionFault
  /-- The incomplete tree of a valid expression. -/
  tree : Option Value

/-- The operator tree of a valid expression; an error unless it is complete. -/
def compile (whitelist : Whitelist) (node : Node) : Except CompileFailure Value :=
  match node.fault? whitelist with
  | some fault => .error ⟨fault, none⟩
  | none =>
    match node.lower with
    | ⟨tree, none⟩ => .ok tree
    | ⟨tree, some part⟩ => .error ⟨.notCompilable part, some tree⟩

end Node
end RankFormula
