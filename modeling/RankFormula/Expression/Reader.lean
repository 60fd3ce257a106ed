import RankFormula.Expression.Node

/-!
# Reading nodes from JSON

The inverse of a node's JSON form. A missing member is its empty value: an absent
node, an empty text, no arguments. How the value of a literal is written is left
to the caller, who knows which kinds of numbers the form distinguishes.
-/

namespace RankFormula
namespace Node

/-- What the value of a member can be read as. -/
structure MemberReading where
  /-- The value itself. -/
  json : Json
  /-- The value as a node. -/
  node : Option Node
  /-- The value as a list of nodes. -/
  nodes : Option (List Node)

/-- The members of a node's JSON form with their readings. -/
abbrev MemberReadings := List (String × MemberReading)

namespace MemberReadings

/-- The reading of the last member with a name. -/
def find? (members : MemberReadings) (name : String) : Option MemberReading :=
  getField? name members.reverse

/-- The member as a text. -/
def text? (members : MemberReadings) (name : String) : Option String :=
  match (members.find? name).map MemberReading.json with
  | none => some ""
  | some .null => some ""
  | some (.string s) => some s
  | some _ => none

/-- The member as a node. -/
def node? (members : MemberReadings) (name : String) : Option Node :=
  match members.find? name with
  | none => some .absent
  | some reading => reading.node

/-- The member as a list of nodes. -/
def nodes? (members : MemberReadings) (name : String) : Option (List Node) :=
  match members.find? name with
  | none => some []
  | some reading => reading.nodes

/-- The node that the members describe. -/
def assemble (readLiteral : List (String × Json) → Option Value) (members : MemberReadings) :
    Option Node := do
  match ← members.text? "type" with
  | "Literal" => (readLiteral (members.map fun m => (m.1, m.2.json))).map .literal
  | "Identifier" => (members.text? "name").map .identifier
  | "BinaryExpression" =>
    let operator ← members.text? "operator"
    let left ← members.node? "left"
    let right ← members.node? "right"
    some (.binary operator left right)
  | "CallExpression" =>
    let callee ← members.node? "callee"
    let arguments ← members.nodes? "arguments"
    some (.call callee arguments)
  | "UnaryExpression" =>
    let operator ← members.text? "operator"
    let argument ← members.node? "argument"
    some (.unary operator argument)
  | "MemberExpression" =>
    let object ← members.node? "object"
    let property ← members.node? "property"
    some (.member object property)
  | "UnsupportedExpression" =>
    let kind ← members.text? "kind"
    let text ← members.text? "text"
    some (.unsupported kind text)
  | _ => none

end MemberReadings

mutual

/-- The node of a JSON form. -/
def ofJson? (readLiteral : List (String × Json) → Option Value) : Json → Option Node
  | .null => some .absent
  | .object members => (readingsOfJson readLiteral members).assemble readLiteral
  | _ => none

/-- The nodes of a JSON list; `null` is the empty list. -/
def allOfJson? (readLiteral : List (String × Json) → Option Value) : List Json → Option (List Node)
  | [] => some []
  | json :: rest => do
    let node ← ofJson? readLiteral json
    let nodes ← allOfJson? readLiteral rest
    some (node :: nodes)

/-- The readings of the members of a JSON object. -/
def readingsOfJson (readLiteral : List (String × Json) → Option Value) :
    List (String × Json) → MemberReadings
  | [] => []
  | (name, .array items) :: rest =>
    (name, ⟨.array items, none, allOfJson? readLiteral items⟩) :: readingsOfJson readLiteral rest
  | (name, .null) :: rest =>
    (name, ⟨.null, some .absent, some []⟩) :: readingsOfJson readLiteral rest
  | (name, value) :: rest =>
    (name, ⟨value, ofJson? readLiteral value, none⟩) :: readingsOfJson readLiteral rest

end

/-- Reads a literal whose value stands in the member `value` as plain JSON. -/
def plainLiteral? (members : List (String × Json)) : Option Value :=
  Value.ofJson? ((getField? "value" members.reverse).getD .null)

end Node
end RankFormula
