import RankFormula.Document.Value

/-!
# Expression nodes

The tree of a ranking expression, as a reader of its text or of its JSON form
builds it. It also holds what no formula may contain (unary operators, member
accesses, constructs of the surface language), so that a refusal can name the
offending part. `Node.describe` is the JSON text by which messages name a node.
-/

namespace RankFormula

/-- A node of a ranking expression. -/
inductive Node where
  /-- No node where one may stand. -/
  | absent
  /-- A constant; only numbers have a meaning in a formula. -/
  | literal (value : Value)
  /-- A variable, or the name of a function in the place of a callee. -/
  | identifier (name : String)
  /-- A name with stray bytes, which only a property can have. -/
  | malformedName (name : RawText)
  /-- An operator between two operands. -/
  | binary (operator : String) (left right : Node)
  /-- A call with its arguments in order. -/
  | call (callee : Node) (arguments : List Node)
  /-- An operator in front of its operand. -/
  | unary (operator : String) (argument : Node)
  /-- A part of a value. -/
  | member (object property : Node)
  /-- A construct of the surface language that no formula uses. -/
  | unsupported (kind text : String)
  deriving Repr, Inhabited

namespace Node

/-- The node of a name. -/
def named (name : RawText) : Node :=
  match name.string? with
  | some s => .identifier s
  | none => .malformedName name

mutual

/-- The JSON form of a node, its type first; `none` if it holds a number that is
not finite. -/
def toJson? : Node → Option Json
  | .absent => some .null
  | .literal value => do
    let value ← value.toJson?
    some (.object [("type", .string "Literal"), ("value", value)])
  | .identifier name =>
    some (.object [("type", .string "Identifier"), ("name", .string name)])
  | .malformedName name =>
    some (.object [("type", .string "Identifier"), ("name", .malformed name)])
  | .binary operator left right => do
    let left ← toJson? left
    let right ← toJson? right
    some (.object [("type", .string "BinaryExpression"), ("operator", .string operator),
      ("left", left), ("right", right)])
  | .call callee arguments => do
    let callee ← toJson? callee
    let arguments ← allToJson? arguments
    some (.object [("type", .string "CallExpression"), ("callee", callee),
      ("arguments", .array arguments)])
  | .unary operator argument => do
    let argument ← toJson? argument
    some (.object [("type", .string "UnaryExpression"), ("operator", .string operator),
      ("argument", argument)])
  | .member object property => do
    let object ← toJson? object
    let property ← toJson? property
    some (.object [("type", .string "MemberExpression"), ("object", object),
      ("property", property)])
  | .unsupported kind text =>
    some (.object [("type", .string "UnsupportedExpression"), ("kind", .string kind),
      ("text", .string text)])

/-- The JSON forms of nodes in order. -/
def allToJson? : List Node → Option (List Json)
  | [] => some []
  | node :: nodes => do
    let head ← toJson? node
    let tail ← allToJson? nodes
    some (head :: tail)

end

/-- The text that stands for a node without a JSON text. -/
def unprintable : String := "<unprintable expression>"

/-- The JSON text of a node; `none` if it has no JSON form or one that is nested too deep. -/
def text? (node : Node) : Option String := do
  let json ← node.toJson?
  if json.depth ≤ Json.nestingLimit then some json.write else none

/-- The text by which messages name a node. -/
def describe (node : Node) : String := node.text?.getD unprintable

/-- The name by which messages call the callee of a call. -/
def calleeName : Node → String
  | .identifier name => name
  | .malformedName name => name.toString
  | .member object property => calleeName object ++ "." ++ calleeName property
  | node => node.describe

end Node
end RankFormula
