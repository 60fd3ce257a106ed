import RankFormula.Expression.Reader
import RankFormula.Proofs.Expression.Occurrence
import RankFormula.Proofs.Expression.Printable
import RankFormula.Proofs.Json.RoundTrip
import RankFormula.Proofs.Numeral.Shortest

/-!
# What a description tells

The text by which messages name a part is its JSON text. `Node.IsPlain` holds the expressions that
such a text can tell apart: their literals are those of JSON and their names are strings. Reading
the text gives the expression back (`ofJson?_reread`), so the text is another one for each
expression, but for those that have no text at all.
-/

namespace RankFormula

namespace Decimal

/-- Reading keeps the sign. -/
theorem negative_reread (d : Decimal) : d.reread.negative = d.negative := by
  unfold reread
  split
  · rfl
  · split <;> rfl

/-- Reading keeps the number. -/
theorem magnitude_reread (d : Decimal) : d.reread.magnitude = d.magnitude := by
  unfold reread
  split
  · next zero => simp [magnitude, zero]
  · split
    · next whole =>
      obtain ⟨power, same⟩ := Int.eq_ofNat_of_zero_le whole.1
      simp [magnitude, same]
    · rfl

end Decimal

/-- A 64-bit number is the one that its text is read as. -/
theorem Floating.Fits.toFloating_reread {x : Floating} {decimal : Decimal} (fits : x.Fits .double)
    (shown : x.toDecimal? .double = some decimal) : decimal.reread.toFloating .double = x :=
  fits.toFloating_shortest shown decimal.negative_reread decimal.magnitude_reread

/-- A value that JSON has as well: nothing, a truth value, a text or a 64-bit number. -/
inductive Value.IsPlain : Value → Prop where
  /-- No value. -/
  | null : IsPlain .null
  /-- A truth value. -/
  | bool (value : Bool) : IsPlain (.bool value)
  /-- A text. -/
  | string (value : String) : IsPlain (.string value)
  /-- A number, finite or not. -/
  | double {value : Floating} (fits : value.Fits .double) : IsPlain (.number (.double value))

namespace Value.IsPlain

variable {value : Value} {json : Json}

/-- What is read in place of a plain value is the value. -/
theorem ofJson?_reread (plain : value.IsPlain) (written : value.toJson? = some json) :
    Value.ofJson? json.reread = some value := by
  cases plain with
  | @double x fits =>
    obtain ⟨decimal, found, rfl⟩ := Option.map_eq_some_iff.mp written
    have same := fits.toFloating_reread found
    have finite : x.isFinite = true := by
      rw [← Floating.isSome_toDecimal? .double]
      exact Option.isSome_of_eq_some found
    simp [Json.reread, ofJson?, same, finite]
  | _ =>
    obtain rfl := Option.some.inj written
    rfl

/-- A plain value has no parts. -/
theorem depth_eq_zero (plain : value.IsPlain) (written : value.toJson? = some json) :
    json.depth = 0 := by
  cases plain with
  | double fits =>
    obtain ⟨decimal, -, rfl⟩ := Option.map_eq_some_iff.mp written
    rfl
  | _ =>
    obtain rfl := Option.some.inj written
    rfl

/-- A plain value can be written unless it is a number that is not finite. -/
theorem writable_iff (plain : value.IsPlain) :
    value.Writable ↔ ∀ x, value = .number (.double x) → x.isFinite = true := by
  cases plain with
  | double fits => simp
  | _ => simp [Writable, toJson?]

end Value.IsPlain

namespace Node

/-- The literals of an expression are plain values and its names are strings. -/
structure IsPlain (node : Node) : Prop where
  /-- Every literal in the expression, at any depth, is a plain value. -/
  literals : ∀ value, (literal value).OccursIn node → value.IsPlain
  /-- No name in the expression, at any depth, has stray bytes. -/
  names : ∀ name, ¬(malformedName name).OccursIn node

/-- What occurs in a plain expression is plain. -/
theorem IsPlain.of_occursIn {part node : Node} (plain : node.IsPlain)
    (occurs : part.OccursIn node) : part.IsPlain where
  literals value inside := plain.literals value (inside.trans occurs)
  names name inside := plain.names name (inside.trans occurs)

/-- An expression can be written exactly if its literals can. -/
theorem printable_iff_writable {node : Node} :
    node.Printable ↔ ∀ value, (literal value).OccursIn node → value.Writable := by
  induction node with
  | absent => simp [Printable, toJson?]
  | literal value => simp
  | identifier name => simp
  | malformedName name => simp [Printable, toJson?]
  | binary operator left right leftClaim rightClaim =>
    simp [leftClaim, rightClaim, or_imp, forall_and]
  | call callee arguments calleeClaim argumentClaim =>
    rw [printable_call, calleeClaim]
    constructor
    · rintro ⟨inCallee, inArguments⟩ value occurs
      rw [occursIn_call] at occurs
      rcases occurs with same | inside | ⟨argument, member, inside⟩
      · cases same
      · exact inCallee value inside
      · exact (argumentClaim argument member).mp (inArguments argument member) value inside
    · intro each
      refine ⟨fun value inside => each value (.callee _ inside), fun argument member => ?_⟩
      exact (argumentClaim argument member).mpr fun value inside =>
        each value (.argument _ member inside)
  | unary operator argument claim => simp [claim]
  | member object property objectClaim propertyClaim =>
    simp [objectClaim, propertyClaim, or_imp, forall_and]
  | unsupported kind text => simp

mutual

/-- How deep the JSON form of an expression with plain literals is nested: every part is an object,
and the arguments of a call are a list in it. -/
def nesting : Node → Nat
  | .absent => 0
  | .binary _ left right => max (nesting left) (nesting right) + 1
  | .call callee arguments => max (nesting callee) (nestingOfAll arguments + 1) + 1
  | .unary _ argument => nesting argument + 1
  | .member object property => max (nesting object) (nesting property) + 1
  | _ => 1

/-- How deep the JSON forms of expressions are nested. -/
def nestingOfAll : List Node → Nat
  | [] => 0
  | node :: nodes => max (nesting node) (nestingOfAll nodes)

end

section Forms

variable {json : Json}

/-- The JSON form of an operation holds those of its operands. -/
theorem toJson?_binary {operator : String} {left right : Node} :
    (binary operator left right).toJson? = some json ↔
      ∃ leftJson rightJson, left.toJson? = some leftJson ∧ right.toJson? = some rightJson ∧
        json = .object [("type", .string "BinaryExpression"), ("operator", .string operator),
          ("left", leftJson), ("right", rightJson)] := by
  rw [toJson?]
  cases left.toJson? <;> cases right.toJson? <;> simp [eq_comm]

/-- The JSON form of a call holds those of its callee and its arguments. -/
theorem toJson?_call {callee : Node} {arguments : List Node} :
    (call callee arguments).toJson? = some json ↔
      ∃ calleeJson items, callee.toJson? = some calleeJson ∧ allToJson? arguments = some items ∧
        json = .object [("type", .string "CallExpression"), ("callee", calleeJson),
          ("arguments", .array items)] := by
  rw [toJson?]
  cases callee.toJson? <;> cases allToJson? arguments <;> simp [eq_comm]

/-- The JSON form of an operation on one operand holds that of the operand. -/
theorem toJson?_unary {operator : String} {argument : Node} :
    (unary operator argument).toJson? = some json ↔
      ∃ argumentJson, argument.toJson? = some argumentJson ∧
        json = .object [("type", .string "UnaryExpression"), ("operator", .string operator),
          ("argument", argumentJson)] := by
  rw [toJson?]
  cases argument.toJson? <;> simp [eq_comm]

/-- The JSON form of an access holds those of its object and its property. -/
theorem toJson?_member {object property : Node} :
    (member object property).toJson? = some json ↔
      ∃ objectJson propertyJson, object.toJson? = some objectJson ∧
        property.toJson? = some propertyJson ∧
        json = .object [("type", .string "MemberExpression"), ("object", objectJson),
          ("property", propertyJson)] := by
  rw [toJson?]
  cases object.toJson? <;> cases property.toJson? <;> simp [eq_comm]

/-- The JSON form of a literal holds that of its value. -/
theorem toJson?_literal {value : Value} :
    (literal value).toJson? = some json ↔ ∃ valueJson, value.toJson? = some valueJson ∧
      json = .object [("type", .string "Literal"), ("value", valueJson)] := by
  rw [toJson?]
  cases value.toJson? <;> simp [eq_comm]

/-- The JSON forms of expressions are those of the first one and of the others. -/
theorem allToJson?_cons {node : Node} {nodes : List Node} {items : List Json} :
    allToJson? (node :: nodes) = some items ↔
      ∃ first others, node.toJson? = some first ∧ allToJson? nodes = some others ∧
        items = first :: others := by
  rw [allToJson?]
  cases node.toJson? <;> cases allToJson? nodes <;> simp [eq_comm]

end Forms

section Nesting

/-- The JSON forms of expressions are nested as deep as the expressions are, if each of them is. -/
theorem itemsDepth_allToJson? {nodes : List Node} {items : List Json}
    (each : ∀ node ∈ nodes, ∀ json, node.toJson? = some json → json.depth = node.nesting)
    (written : allToJson? nodes = some items) : Json.itemsDepth items = nestingOfAll nodes := by
  induction nodes generalizing items with
  | nil =>
    obtain rfl := Option.some.inj written
    rfl
  | cons node nodes ih =>
    obtain ⟨first, others, head, tail, rfl⟩ := allToJson?_cons.mp written
    have headDepth := each node List.mem_cons_self first head
    have tailDepth := ih (fun other member => each other (List.mem_cons_of_mem _ member)) tail
    rw [Json.itemsDepth, nestingOfAll, headDepth, tailDepth]

/-- The JSON form of a plain expression is nested as deep as the expression is. -/
theorem depth_toJson? {node : Node} {json : Json} (plain : node.IsPlain)
    (written : node.toJson? = some json) : json.depth = node.nesting := by
  induction node generalizing json with
  | absent =>
    obtain rfl := Option.some.inj written
    rfl
  | literal value =>
    obtain ⟨valueJson, found, rfl⟩ := toJson?_literal.mp written
    have flat := (plain.literals value .here).depth_eq_zero found
    simp [Json.depth, Json.membersDepth, flat, nesting]
  | identifier name =>
    obtain rfl := Option.some.inj written
    rfl
  | malformedName name =>
    obtain rfl := Option.some.inj written
    rfl
  | binary operator left right leftClaim rightClaim =>
    obtain ⟨leftJson, rightJson, foundLeft, foundRight, rfl⟩ := toJson?_binary.mp written
    have leftDepth := leftClaim (plain.of_occursIn (.left _ _ .here)) foundLeft
    have rightDepth := rightClaim (plain.of_occursIn (.right _ _ .here)) foundRight
    simp [Json.depth, Json.membersDepth, leftDepth, rightDepth, nesting]
  | call callee arguments calleeClaim argumentClaim =>
    obtain ⟨calleeJson, items, foundCallee, foundItems, rfl⟩ := toJson?_call.mp written
    have calleeDepth := calleeClaim (plain.of_occursIn (.callee _ .here)) foundCallee
    have itemsDepth := itemsDepth_allToJson? (fun argument member argumentJson found =>
      argumentClaim argument member (plain.of_occursIn (.argument _ member .here)) found) foundItems
    simp [Json.depth, Json.membersDepth, calleeDepth, itemsDepth, nesting]
  | unary operator argument claim =>
    obtain ⟨argumentJson, found, rfl⟩ := toJson?_unary.mp written
    have argumentDepth := claim (plain.of_occursIn (.operand _ .here)) found
    simp [Json.depth, Json.membersDepth, argumentDepth, nesting]
  | member object property objectClaim propertyClaim =>
    obtain ⟨objectJson, propertyJson, foundObject, foundProperty, rfl⟩ := toJson?_member.mp written
    have objectDepth := objectClaim (plain.of_occursIn (.object _ .here)) foundObject
    have propertyDepth := propertyClaim (plain.of_occursIn (.property _ .here)) foundProperty
    simp [Json.depth, Json.membersDepth, objectDepth, propertyDepth, nesting]
  | unsupported kind text =>
    obtain rfl := Option.some.inj written
    rfl

end Nesting

section Reading

variable (readLiteral : List (String × Json) → Option Value)

/-- The reading of the value of one member. -/
def memberReading : Json → MemberReading
  | .array items => ⟨.array items, none, allOfJson? readLiteral items⟩
  | .null => ⟨.null, some .absent, some []⟩
  | value => ⟨value, ofJson? readLiteral value, none⟩

/-- Members are read one by one. -/
theorem readingsOfJson_eq_map (members : List (String × Json)) :
    readingsOfJson readLiteral members =
      members.map fun member => (member.1, memberReading readLiteral member.2) := by
  induction members with
  | nil => rfl
  | cons member members ih =>
    obtain ⟨name, value⟩ := member
    rw [List.map_cons, ← ih]
    cases value <;> rfl

/-- A reading keeps the value. -/
@[simp] theorem json_memberReading (value : Json) :
    (memberReading readLiteral value).json = value := by
  cases value <;> rfl

/-- A reading as a node is that of the value. -/
@[simp] theorem node_memberReading (value : Json) :
    (memberReading readLiteral value).node = ofJson? readLiteral value := by
  cases value <;> rfl

/-- A reading of a list as nodes is that of its items. -/
@[simp] theorem nodes_memberReading_array (items : List Json) :
    (memberReading readLiteral (.array items)).nodes = allOfJson? readLiteral items := rfl

end Reading

/-- Plain expressions are read back as a list, if each of them is. -/
theorem allOfJson?_reread {nodes : List Node} {items : List Json}
    (each : ∀ node ∈ nodes, ∀ json, node.toJson? = some json →
      ofJson? plainLiteral? json.reread = some node)
    (written : allToJson? nodes = some items) :
    allOfJson? plainLiteral? (Json.rereadItems items) = some nodes := by
  induction nodes generalizing items with
  | nil =>
    obtain rfl := Option.some.inj written
    rfl
  | cons node nodes ih =>
    obtain ⟨first, others, head, tail, rfl⟩ := allToJson?_cons.mp written
    have headRead := each node List.mem_cons_self first head
    have tailRead := ih (fun other member => each other (List.mem_cons_of_mem _ member)) tail
    rw [Json.rereadItems, allOfJson?, headRead, tailRead]
    rfl

section Assembly

attribute [local simp] ofJson? readingsOfJson_eq_map Json.reread Json.rereadMembers
  MemberReadings.assemble MemberReadings.text? MemberReadings.node? MemberReadings.nodes?
  MemberReadings.find? getField?

/-- Where the JSON form of a plain expression was written, the expression is read. -/
theorem ofJson?_reread {node : Node} {json : Json} (plain : node.IsPlain)
    (written : node.toJson? = some json) : ofJson? plainLiteral? json.reread = some node := by
  induction node generalizing json with
  | absent =>
    obtain rfl := Option.some.inj written
    simp
  | literal value =>
    obtain ⟨valueJson, found, rfl⟩ := toJson?_literal.mp written
    have read := (plain.literals value .here).ofJson?_reread found
    simp [plainLiteral?, read]
  | identifier name =>
    obtain rfl := Option.some.inj written
    simp
  | malformedName name => exact absurd .here (plain.names name)
  | binary operator left right leftClaim rightClaim =>
    obtain ⟨leftJson, rightJson, foundLeft, foundRight, rfl⟩ := toJson?_binary.mp written
    have leftRead := leftClaim (plain.of_occursIn (.left _ _ .here)) foundLeft
    have rightRead := rightClaim (plain.of_occursIn (.right _ _ .here)) foundRight
    simp [leftRead, rightRead]
  | call callee arguments calleeClaim argumentClaim =>
    obtain ⟨calleeJson, items, foundCallee, foundItems, rfl⟩ := toJson?_call.mp written
    have calleeRead := calleeClaim (plain.of_occursIn (.callee _ .here)) foundCallee
    have argumentsRead := allOfJson?_reread (fun argument member argumentJson found =>
      argumentClaim argument member (plain.of_occursIn (.argument _ member .here)) found) foundItems
    simp [calleeRead, argumentsRead]
  | unary operator argument claim =>
    obtain ⟨argumentJson, found, rfl⟩ := toJson?_unary.mp written
    have argumentRead := claim (plain.of_occursIn (.operand _ .here)) found
    simp [argumentRead]
  | member object property objectClaim propertyClaim =>
    obtain ⟨objectJson, propertyJson, foundObject, foundProperty, rfl⟩ := toJson?_member.mp written
    have objectRead := objectClaim (plain.of_occursIn (.object _ .here)) foundObject
    have propertyRead := propertyClaim (plain.of_occursIn (.property _ .here)) foundProperty
    simp [objectRead, propertyRead]
  | unsupported kind text =>
    obtain rfl := Option.some.inj written
    simp

end Assembly

section Texts

variable {node : Node}

/-- An expression has a text exactly if it has a JSON form that is not nested too deep. -/
theorem text?_eq_some {text : String} : node.text? = some text ↔
    ∃ json, node.toJson? = some json ∧ json.depth ≤ Json.nestingLimit ∧ json.write = text := by
  rw [text?]
  cases node.toJson? with
  | none => simp
  | some json =>
    simp only [Option.bind_eq_bind, Option.bind_some, Option.some.injEq, exists_eq_left']
    split
    · next shallow => simp [shallow]
    · next deep => simp [deep]

/-- The text of a JSON form that is not nested too deep can be read. -/
theorem read?_write {json : Json} (shallow : json.depth ≤ Json.nestingLimit) :
    Json.read? json.write.toList = some json.reread := by
  rw [Json.write, String.toList_ofList]
  exact Json.read?_writeChars (Json.nests_of_depth_le json shallow)

/-- The text of a plain expression is JSON and is read as the expression. -/
theorem read?_text? {text : String} (plain : node.IsPlain) (shown : node.text? = some text) :
    ∃ json, Json.read? text.toList = some json ∧ ofJson? plainLiteral? json = some node := by
  obtain ⟨json, written, shallow, rfl⟩ := text?_eq_some.mp shown
  exact ⟨json.reread, read?_write shallow, ofJson?_reread plain written⟩

/-- What stands for an expression without text is not the text of another one: it is no JSON. -/
theorem describe_eq_unprintable : node.describe = unprintable ↔ node.text? = none := by
  rw [describe]
  cases shown : node.text? with
  | none => simp
  | some text =>
    obtain ⟨json, -, shallow, rfl⟩ := text?_eq_some.mp shown
    have noJson : Json.read? unprintable.toList = none := by decide
    simp only [Option.getD_some, reduceCtorEq, iff_false]
    intro same
    have read := read?_write shallow
    rw [same, noJson] at read
    cases read

/-- A plain expression has a text unless one of its numbers is not finite or it is nested too
deep. -/
theorem text?_eq_none (plain : node.IsPlain) : node.text? = none ↔
    (∃ x : Floating, (literal (.number (.double x))).OccursIn node ∧ x.isFinite = false) ∨
      Json.nestingLimit < node.nesting := by
  have finite : node.Printable ↔
      ¬∃ x : Floating, (literal (.number (.double x))).OccursIn node ∧ x.isFinite = false := by
    rw [printable_iff_writable]
    constructor
    · rintro each ⟨x, occurs, infinite⟩
      have writable := ((plain.literals _ occurs).writable_iff.mp (each _ occurs)) x rfl
      rw [infinite] at writable
      cases writable
    · intro none value occurs
      refine (plain.literals value occurs).writable_iff.mpr fun x same => ?_
      subst same
      exact Bool.of_not_eq_false fun infinite => none ⟨x, occurs, infinite⟩
  rw [Option.eq_none_iff_forall_ne_some]
  cases written : node.toJson? with
  | none =>
    have hasInfinite := (finite.not.mp (by simp [Printable, written]))
    rw [not_not] at hasInfinite
    refine iff_of_true (fun text shown => ?_) (.inl hasInfinite)
    obtain ⟨json, found, -⟩ := text?_eq_some.mp shown
    rw [written] at found
    cases found
  | some json =>
    have noInfinite := finite.mp (by simp [Printable, written])
    rw [or_iff_right noInfinite, ← depth_toJson? plain written, ← Nat.not_le]
    constructor
    · intro noText shallow
      exact noText _ (text?_eq_some.mpr ⟨json, written, shallow, rfl⟩)
    · intro deep text shown
      obtain ⟨found, same, shallow, -⟩ := text?_eq_some.mp shown
      obtain rfl : json = found := Option.some.inj (written.symm.trans same)
      exact deep shallow

end Texts

/-- Calls of `f` inside one another around `x`. -/
def nestedCalls : Nat → Node
  | 0 => .identifier "x"
  | count + 1 => .call (.identifier "f") [nestedCalls count]

/-- Every call is nested twice. -/
theorem nesting_nestedCalls (count : Nat) : (nestedCalls count).nesting = 2 * count + 1 := by
  induction count with
  | zero => rfl
  | succ count ih =>
    simp only [nestedCalls, nesting, nestingOfAll, ih]
    omega

/-- Calls of `f` around `x` hold neither literals nor names with stray bytes. -/
theorem occursIn_nestedCalls {part : Node} {count : Nat}
    (occurs : part.OccursIn (nestedCalls count)) :
    (∀ value, part ≠ .literal value) ∧ ∀ name, part ≠ .malformedName name := by
  induction count with
  | zero =>
    rw [nestedCalls, occursIn_identifier] at occurs
    subst occurs
    simp
  | succ count ih =>
    rw [nestedCalls, occursIn_call, occursIn_identifier] at occurs
    rcases occurs with rfl | rfl | ⟨argument, member, inside⟩
    · simp
    · simp
    · rw [List.mem_singleton] at member
      subst member
      exact ih inside

/-- Five thousand calls or more inside one another have no text, although there is no number among
them. -/
theorem describe_nestedCalls {count : Nat} (many : 5000 ≤ count) :
    (∀ value, ¬(literal value).OccursIn (unary "-" (nestedCalls count))) ∧
      (unary "-" (nestedCalls count)).IsPlain ∧
      (unary "-" (nestedCalls count)).describe = "<unprintable expression>" := by
  have noLiteral (value : Value) : ¬(literal value).OccursIn (unary "-" (nestedCalls count)) := by
    intro occurs
    rcases occursIn_unary.mp occurs with same | inside
    · cases same
    · exact (occursIn_nestedCalls inside).1 value rfl
  have plain : (unary "-" (nestedCalls count)).IsPlain := by
    refine ⟨fun value occurs => absurd occurs (noLiteral value), fun name occurs => ?_⟩
    rcases occursIn_unary.mp occurs with same | inside
    · cases same
    · exact (occursIn_nestedCalls inside).2 name rfl
  have deep : Json.nestingLimit < (unary "-" (nestedCalls count)).nesting := by
    rw [nesting, nesting_nestedCalls, Json.nestingLimit]
    omega
  exact ⟨noLiteral, plain, describe_eq_unprintable.mpr ((text?_eq_none plain).mpr (.inr deep))⟩

/-- Thus not every expression whose numbers are finite has a text: `-f(f(…f(x)…))` with five
thousand calls holds no number at all and is described by the fixed text. -/
theorem describe_five_thousand_calls :
    (unary "-" (nestedCalls 5000)).IsPlain ∧
      ¬((unary "-" (nestedCalls 5000)).describe = "<unprintable expression>" ↔
        ∃ x : Floating, (literal (.number (.double x))).OccursIn (unary "-" (nestedCalls 5000)) ∧
          x.isFinite = false) := by
  obtain ⟨noLiteral, plain, described⟩ := describe_nestedCalls (Nat.le_refl 5000)
  refine ⟨plain, fun claimed => ?_⟩
  obtain ⟨x, occurs, -⟩ := claimed.mp described
  exact noLiteral _ occurs

/-- The description of a plain expression is faithful. It is a fixed text exactly if a number in
the expression is not finite or the JSON form is nested more than ten thousand times. Otherwise it
is JSON that is read as the very expression, and no other plain expression has it. -/
theorem describe_faithful {node : Node} (plain : node.IsPlain) :
    (node.describe = "<unprintable expression>" ↔
      (∃ x : Floating, (literal (.number (.double x))).OccursIn node ∧ x.isFinite = false) ∨
        10000 < node.nesting) ∧
    (node.describe ≠ "<unprintable expression>" →
      (∃ json, Json.read? node.describe.toList = some json ∧
        ofJson? plainLiteral? json = some node) ∧
      ∀ other : Node, other.IsPlain → other.describe = node.describe → other = node) := by
  refine ⟨describe_eq_unprintable.trans (text?_eq_none plain), fun printable => ?_⟩
  obtain ⟨text, shown⟩ := Option.ne_none_iff_exists'.mp (describe_eq_unprintable.not.mp printable)
  have described : node.describe = text := by rw [describe, shown, Option.getD_some]
  have read := read?_text? plain shown
  rw [described] at printable ⊢
  refine ⟨read, fun other otherPlain same => ?_⟩
  -- The other expression has the same text, and that text is read as one expression only.
  have otherPrintable := describe_eq_unprintable.not.mp (same ▸ printable)
  obtain ⟨otherText, otherShown⟩ := Option.ne_none_iff_exists'.mp otherPrintable
  have sameText : otherText = text := by rw [← same, describe, otherShown, Option.getD_some]
  obtain ⟨json, found, readNode⟩ := read
  obtain ⟨otherJson, otherFound, readOther⟩ := read?_text? otherPlain otherShown
  rw [sameText, found] at otherFound
  obtain rfl := Option.some.inj otherFound
  rw [readNode] at readOther
  exact (Option.some.inj readOther).symm

/-- The description of `exp(2.5)` with nothing for the second argument is read as that call and is
not that of the call with a text in place of the number; with an infinite number there is none. -/
theorem describe_faithful_exp :
    let exp (value : Value) : Node := .call (.identifier "exp") [.literal value, .absent]
    let number : Node := exp (.number (.double (.finite false 5629499534213120 (-51))))
    let infinite : Node := exp (.number (.double (.infinite true)))
    (number.IsPlain ∧ number.describe = "\x7b\"type\":\"CallExpression\",\"callee\":" ++
      "\x7b\"type\":\"Identifier\",\"name\":\"exp\"\x7d,\"arguments\":" ++
      "[\x7b\"type\":\"Literal\",\"value\":2.5\x7d,null]\x7d" ∧
      (∃ json, Json.read? number.describe.toList = some json ∧
        ofJson? plainLiteral? json = some number) ∧
      (exp (.string "2.5")).describe ≠ number.describe) ∧
    (infinite.IsPlain ∧ infinite.describe = "<unprintable expression>") := by
  intro exp number infinite
  have plainExp {value : Value} (plain : value.IsPlain) : (exp value).IsPlain := by
    constructor
    · intro other occurs
      obtain rfl : other = value := by simpa [exp] using occurs
      exact plain
    · intro name occurs
      simp [exp] at occurs
  have holds : FloatFormat.double.Holds 5629499534213120 (-51) := by
    constructor <;> decide
  have plain : number.IsPlain := plainExp (.double (.finite false holds))
  have described : number.describe = "\x7b\"type\":\"CallExpression\",\"callee\":" ++
      "\x7b\"type\":\"Identifier\",\"name\":\"exp\"\x7d,\"arguments\":" ++
      "[\x7b\"type\":\"Literal\",\"value\":2.5\x7d,null]\x7d" := by
    decide +kernel
  have printable : number.describe ≠ "<unprintable expression>" := by
    rw [described]
    decide
  obtain ⟨read, only⟩ := (describe_faithful plain).2 printable
  refine ⟨⟨plain, described, read, fun same => ?_⟩, plainExp (.double (.infinite true)), ?_⟩
  · have equal := only _ (plainExp (.string "2.5")) same
    simp [exp, number] at equal
  · exact (describe_faithful (plainExp (.double (.infinite true)))).1.mpr
      (.inl ⟨.infinite true, by simp [exp], rfl⟩)

end Node
end RankFormula
