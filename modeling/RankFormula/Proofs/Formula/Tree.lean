import RankFormula.Formula.Basic
import RankFormula.Proofs.Expression.Derivation

/-!
# The trees of formulas

Whichever way a formula is made, its tree is derived from an expression. `OperatorTree`
is the grammar of such trees under a whitelist: numbers, references to listed fields, and
operations with the number of operands that they take. `Value.OccursIn` looks at every
part of a tree at any depth, so that the absence of a part can be said of the tree as the
store will read it, and not of the expression it came from.
-/

namespace RankFormula

namespace Formula

variable {whitelist : Whitelist} {source : RawText} {node : Node} {formula : Formula}

/-- An expression makes a formula exactly if the formula holds its text, its derived tree
and its variables. -/
theorem ofNode_eq_ok : ofNode whitelist source node = .ok formula ↔
    formula.source = source ∧ node.Lowers whitelist formula.tree ∧
      formula.variableNames = node.variableNames := by
  rw [← Node.compile_eq_ok]
  obtain ⟨text, tree, names⟩ := formula
  unfold ofNode
  cases compiled : node.compile whitelist with
  | error failure => simp
  | ok lowered => simp [eq_comm]

/-- A text makes a formula exactly if it can be read and its expression makes that formula. -/
theorem ofText_eq_ok : ofText whitelist source = .ok formula ↔
    ∃ node, Node.parse source = .ok node ∧ ofNode whitelist source node = .ok formula := by
  unfold ofText
  cases Node.parse source with
  | error fault => simp
  | ok node => simp

/-- The tree of a formula is derived from some expression, whichever way it was made. -/
theorem lowers_tree (made : (∃ node, ofNode whitelist source node = .ok formula) ∨
    ofText whitelist source = .ok formula) :
    ∃ node : Node, node.Lowers whitelist formula.tree := by
  rcases made with ⟨node, fromNode⟩ | fromText
  · exact ⟨node, (ofNode_eq_ok.mp fromNode).2.1⟩
  · obtain ⟨node, _, fromNode⟩ := ofText_eq_ok.mp fromText
    exact ⟨node, (ofNode_eq_ok.mp fromNode).2.1⟩

end Formula

/-- The trees that formulas may hold. -/
inductive OperatorTree (whitelist : Whitelist) : Value → Prop where
  /-- A number. -/
  | number (n : Number) : OperatorTree whitelist (.number n)
  /-- A reference to a listed field. -/
  | reference (name : String) (listed : whitelist.contains name = true) :
    OperatorTree whitelist (.string ("$" ++ name))
  /-- An operation on two operands. -/
  | operation {name : String} {left right : Value}
    (known : name ∈ ["$add", "$subtract", "$multiply", "$divide"])
    (first : OperatorTree whitelist left) (second : OperatorTree whitelist right) :
    OperatorTree whitelist (.object [(name, .list [left, right])])
  /-- An exponential of one operand. -/
  | exponential {operand : Value} (only : OperatorTree whitelist operand) :
    OperatorTree whitelist (.object [("$exp", operand)])
  /-- An exponential of a product of three operands, the first of which is minus one. -/
  | decay {rate elapsed : Value} (second : OperatorTree whitelist rate)
    (third : OperatorTree whitelist elapsed) :
    OperatorTree whitelist (.object [("$exp",
      .object [("$multiply", .list [.number (.doubleOfInt (-1)), rate, elapsed])])])

/-- The values of which a value is made directly. -/
def Value.children : Value → List Value
  | .list items => items
  | .object fields => fields.map Prod.snd
  | .document fields => fields.map Prod.snd
  | _ => []

/-- A value occurs in another one, at any depth. -/
inductive Value.OccursIn (part : Value) : Value → Prop where
  /-- As the value itself. -/
  | here : OccursIn part part
  /-- In an item of a list. -/
  | item {item : Value} {items : List Value} (member : item ∈ items)
    (inside : OccursIn part item) : OccursIn part (.list items)
  /-- In a field of an object. -/
  | objectField {name : String} {value : Value} {fields : List (String × Value)}
    (member : (name, value) ∈ fields) (inside : OccursIn part value) :
    OccursIn part (.object fields)
  /-- In a field of an ordered document. -/
  | documentField {name : String} {value : Value} {fields : List (String × Value)}
    (member : (name, value) ∈ fields) (inside : OccursIn part value) :
    OccursIn part (.document fields)

/-- What may stand somewhere in the tree of a formula. -/
inductive PermittedPart (whitelist : Whitelist) : Value → Prop where
  /-- A number. -/
  | number (n : Number) : PermittedPart whitelist (.number n)
  /-- A reference to a listed field. -/
  | reference (name : String) (listed : whitelist.contains name = true) :
    PermittedPart whitelist (.string ("$" ++ name))
  /-- The operands of an operation. -/
  | operands (items : List Value) : PermittedPart whitelist (.list items)
  /-- An object with one field, the name of which is that of an operation. -/
  | operation {name : String} (operand : Value)
    (known : name ∈ ["$add", "$subtract", "$multiply", "$divide", "$exp"]) :
    PermittedPart whitelist (.object [(name, operand)])

/-- A derived tree follows the grammar. -/
theorem Node.Lowers.operatorTree {whitelist : Whitelist} {node : Node} {tree : Value}
    (derived : node.Lowers whitelist tree) : OperatorTree whitelist tree := by
  induction derived with
  | number n => exact .number n
  | field name listed => exact .reference name listed
  | operation op _ _ leftClaim rightClaim =>
    have known : op.treeName ∈ ["$add", "$subtract", "$multiply", "$divide"] := by
      cases op <;> decide
    exact .operation known leftClaim rightClaim
  | exponential _ _ operandClaim => exact .exponential operandClaim
  | decay _ _ _ valueClaim rateClaim elapsedClaim =>
    exact .operation (by decide) valueClaim (.decay rateClaim elapsedClaim)

section Occurrences

variable {part : Value}

/-- The value of a field stands there under a name. -/
theorem Value.exists_field {child : Value} {fields : List (String × Value)}
    (member : child ∈ fields.map Prod.snd) : ∃ name, (name, child) ∈ fields := by
  obtain ⟨⟨name, _⟩, field, rfl⟩ := List.mem_map.mp member
  exact ⟨name, field⟩

/-- What occurs in a value is the value or occurs in a child. -/
theorem Value.occursIn_iff_children {value : Value} :
    part.OccursIn value ↔ part = value ∨ ∃ child ∈ value.children, part.OccursIn child := by
  constructor
  · intro occurs
    cases occurs with
    | here => exact .inl rfl
    | item member inside => exact .inr ⟨_, member, inside⟩
    | objectField member inside => exact .inr ⟨_, List.mem_map_of_mem member, inside⟩
    | documentField member inside => exact .inr ⟨_, List.mem_map_of_mem member, inside⟩
  · rintro (rfl | ⟨child, member, inside⟩)
    · exact .here
    · cases value with
      | list items => exact .item member inside
      | object fields =>
        obtain ⟨name, field⟩ := exists_field member
        exact .objectField field inside
      | document fields =>
        obtain ⟨name, field⟩ := exists_field member
        exact .documentField field inside
      | _ => cases member

/-- Nothing but itself occurs in a number. -/
@[simp] theorem Value.occursIn_number {n : Number} :
    part.OccursIn (.number n) ↔ part = .number n := by
  rw [occursIn_iff_children]
  simp [children]

/-- Nothing but itself occurs in a text. -/
@[simp] theorem Value.occursIn_string {text : String} :
    part.OccursIn (.string text) ↔ part = .string text := by
  rw [occursIn_iff_children]
  simp [children]

/-- What occurs in a list is the list or occurs in an item. -/
@[simp] theorem Value.occursIn_list {items : List Value} :
    part.OccursIn (.list items) ↔ part = .list items ∨ ∃ item ∈ items, part.OccursIn item :=
  occursIn_iff_children

/-- What occurs in an object with one field is the object or occurs in the field. -/
@[simp] theorem Value.occursIn_object_singleton {name : String} {value : Value} :
    part.OccursIn (.object [(name, value)]) ↔
      part = .object [(name, value)] ∨ part.OccursIn value := by
  rw [occursIn_iff_children]
  simp [children]

/-- Only permitted parts occur in a tree of the grammar. -/
theorem OperatorTree.permitted {whitelist : Whitelist} {tree : Value}
    (grammatical : OperatorTree whitelist tree) (occurs : part.OccursIn tree) :
    PermittedPart whitelist part := by
  induction grammatical with
  | number n =>
    rw [Value.occursIn_number.mp occurs]
    exact .number n
  | reference name listed =>
    rw [Value.occursIn_string.mp occurs]
    exact .reference name listed
  | operation known _ _ leftClaim rightClaim =>
    simp only [Value.occursIn_object_singleton, Value.occursIn_list, List.mem_cons,
      List.not_mem_nil, or_false, exists_eq_or_imp, exists_eq_left] at occurs
    rcases occurs with rfl | rfl | inLeft | inRight
    · exact .operation _ (List.mem_append_left ["$exp"] known)
    · exact .operands _
    · exact leftClaim inLeft
    · exact rightClaim inRight
  | exponential _ operandClaim =>
    rcases Value.occursIn_object_singleton.mp occurs with rfl | inside
    · exact .operation _ (by decide)
    · exact operandClaim inside
  | decay _ _ rateClaim elapsedClaim =>
    simp only [Value.occursIn_object_singleton, Value.occursIn_list, Value.occursIn_number,
      List.mem_cons, List.not_mem_nil, or_false, exists_eq_or_imp, exists_eq_left] at occurs
    rcases occurs with rfl | rfl | rfl | rfl | inRate | inElapsed
    · exact .operation _ (by decide)
    · exact .operation _ (by decide)
    · exact .operands _
    · exact .number _
    · exact rateClaim inRate
    · exact elapsedClaim inElapsed

/-- The placeholder refers to no field, so it is not permitted anywhere. -/
theorem not_permitted_placeholder {whitelist : Whitelist} :
    ¬PermittedPart whitelist placeholder := by
  generalize shown : placeholder = value
  rintro (_ | ⟨name, _⟩ | _ | _)
  · simp [placeholder] at shown
  · have characters := congrArg String.toList (Value.string.inj shown)
    simp at characters
  · simp [placeholder] at shown
  · simp [placeholder] at shown

end Occurrences

/-- The tree of a formula follows the grammar of its whitelist; every part of it, at any
depth, is permitted there, and the placeholder occurs nowhere. -/
theorem Formula.tree_permitted {whitelist : Whitelist} {source : RawText} {formula : Formula}
    (made : (∃ node, ofNode whitelist source node = .ok formula) ∨
      ofText whitelist source = .ok formula) :
    OperatorTree whitelist formula.tree ∧
      (∀ part : Value, part.OccursIn formula.tree → PermittedPart whitelist part) ∧
      ¬placeholder.OccursIn formula.tree := by
  obtain ⟨node, derived⟩ := lowers_tree made
  have grammatical := derived.operatorTree
  refine ⟨grammatical, fun part occurs => grammatical.permitted occurs, fun occurs => ?_⟩
  exact not_permitted_placeholder (grammatical.permitted occurs)

/-- A decay next to an exponential whose second argument is dropped: the tree as it is, with
nothing of that argument in it. -/
theorem Formula.tree_permitted_decay :
    let likes : Node := .identifier "likes"
    let node : Node := .binary "+"
      (.call (.identifier "exp_decay") [likes, .literal (.int 2), likes])
      (.call (.identifier "exp") [.literal (.int 3), likes])
    let tree : Value := .object [("$add", .list [
      .object [("$multiply", .list [.string "$likes", .object [("$exp",
        .object [("$multiply", .list [minusOneTree, .int 2, .string "$likes"])])]])],
      .object [("$exp", .int 3)]])]
    let formula : Formula := ⟨"", tree, ["likes", "likes", "likes"]⟩
    ofNode ⟨["likes"]⟩ "" node = .ok formula ∧
      OperatorTree ⟨["likes"]⟩ formula.tree ∧
      (∀ part : Value, part.OccursIn formula.tree → PermittedPart ⟨["likes"]⟩ part) ∧
      ¬placeholder.OccursIn formula.tree := by
  intro likes node tree formula
  have made : ofNode ⟨["likes"]⟩ "" node = .ok formula := by rfl
  exact ⟨made, tree_permitted (.inl ⟨node, made⟩)⟩

end RankFormula
