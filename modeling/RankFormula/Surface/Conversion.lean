import RankFormula.Surface.Printer

/-!
# From terms to expression nodes

Numbers become 64-bit floating literals, calls and predicates become calls, and
chains disappear. A construct that has no node of its own becomes an unsupported
one, which carries the construct's kind and text. Nothing is made of an absent term,
since every place of a term holds one.
-/

namespace RankFormula
namespace Surface

/-- The kind under which an unsupported construct is reported. -/
def Term.kindLabel : Term → String
  | .nil => "*ast.NilNode"
  | .closure _ => "*ast.ClosureNode"
  | .pointer _ => "*ast.PointerNode"
  | .conditional _ _ _ => "*ast.ConditionalNode"
  | .array _ => "*ast.ArrayNode"
  | .record _ => "*ast.MapNode"
  | .pair _ _ => "*ast.PairNode"
  | .constant _ => "*ast.ConstantNode"
  | .slice _ _ _ => "*ast.SliceNode"
  | .binding _ _ _ => "*ast.VariableDeclaratorNode"
  | _ => ""

mutual

/-- The expression node of a term. -/
def Term.toNode : Term → Node
  | .integer n => .literal (.number (.doubleOfInt n))
  | .float x => .literal (.number (.double x))
  | .text s => .literal (.ofRaw s)
  | .bool b => .literal (.bool b)
  | .name s => .identifier s
  | .unary operator operand => .unary operator operand.toNode
  | .binary operator left right => .binary operator left.toNode right.toNode
  | .call callee arguments => .call callee.toNode (nodesOf arguments)
  | .builtin name arguments => .call (.identifier name) (nodesOf arguments)
  | .member object (.text property) _ => .member object.toNode (.named property)
  | .member object property _ => .member object.toNode property.toNode
  | .chain inner => inner.toNode
  | term => .unsupported term.kindLabel term.print

/-- The expression nodes of terms in order. -/
def nodesOf : List Term → List Node
  | [] => []
  | term :: terms => term.toNode :: nodesOf terms

end
end Surface
end RankFormula
