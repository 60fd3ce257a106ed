import RankFormula.Expression.Node

/-!
# Parts of expressions

`Node.OccursIn` looks at every part of an expression at any depth, whether or not validation or
lowering would get there. One lemma for each construct says what occurs in it.
-/

namespace RankFormula
namespace Node

/-- An expression occurs in another one, at any depth. -/
inductive OccursIn (part : Node) : Node → Prop where
  /-- As the expression itself. -/
  | here : OccursIn part part
  /-- In the left operand of an operation. -/
  | left (operator : String) {left : Node} (right : Node) (inside : OccursIn part left) :
    OccursIn part (.binary operator left right)
  /-- In the right operand of an operation. -/
  | right (operator : String) (left : Node) {right : Node} (inside : OccursIn part right) :
    OccursIn part (.binary operator left right)
  /-- In the callee of a call. -/
  | callee {callee : Node} (arguments : List Node) (inside : OccursIn part callee) :
    OccursIn part (.call callee arguments)
  /-- In an argument of a call. -/
  | argument (callee : Node) {argument : Node} {arguments : List Node}
    (member : argument ∈ arguments) (inside : OccursIn part argument) :
    OccursIn part (.call callee arguments)
  /-- In the operand of an operator in front. -/
  | operand (operator : String) {argument : Node} (inside : OccursIn part argument) :
    OccursIn part (.unary operator argument)
  /-- In the object of an access. -/
  | object {object : Node} (property : Node) (inside : OccursIn part object) :
    OccursIn part (.member object property)
  /-- In the property of an access. -/
  | property (object : Node) {property : Node} (inside : OccursIn part property) :
    OccursIn part (.member object property)

/-- What occurs in a part occurs in the whole. -/
theorem OccursIn.trans {inner part node : Node} (inside : inner.OccursIn part)
    (outer : part.OccursIn node) : inner.OccursIn node := by
  induction outer with
  | here => exact inside
  | left operator right _ claim => exact .left operator right claim
  | right operator left _ claim => exact .right operator left claim
  | callee arguments _ claim => exact .callee arguments claim
  | argument callee member _ claim => exact .argument callee member claim
  | operand operator _ claim => exact .operand operator claim
  | object property _ claim => exact .object property claim
  | property object _ claim => exact .property object claim

variable {part : Node}

@[simp] theorem occursIn_absent : part.OccursIn .absent ↔ part = .absent := by
  constructor
  · rintro ⟨⟩
    rfl
  · rintro rfl
    exact .here

@[simp] theorem occursIn_literal {value : Value} :
    part.OccursIn (.literal value) ↔ part = .literal value := by
  constructor
  · rintro ⟨⟩
    rfl
  · rintro rfl
    exact .here

@[simp] theorem occursIn_identifier {name : String} :
    part.OccursIn (.identifier name) ↔ part = .identifier name := by
  constructor
  · rintro ⟨⟩
    rfl
  · rintro rfl
    exact .here

@[simp] theorem occursIn_malformedName {name : RawText} :
    part.OccursIn (.malformedName name) ↔ part = .malformedName name := by
  constructor
  · rintro ⟨⟩
    rfl
  · rintro rfl
    exact .here

@[simp] theorem occursIn_unsupported {kind text : String} :
    part.OccursIn (.unsupported kind text) ↔ part = .unsupported kind text := by
  constructor
  · rintro ⟨⟩
    rfl
  · rintro rfl
    exact .here

/-- What occurs in an operation is the operation or occurs in an operand. -/
@[simp] theorem occursIn_binary {operator : String} {left right : Node} :
    part.OccursIn (.binary operator left right) ↔
      part = .binary operator left right ∨ part.OccursIn left ∨ part.OccursIn right := by
  constructor
  · intro occurs
    cases occurs with
    | here => exact .inl rfl
    | left _ _ inside => exact .inr (.inl inside)
    | right _ _ inside => exact .inr (.inr inside)
  · rintro (rfl | inside | inside)
    · exact .here
    · exact .left _ _ inside
    · exact .right _ _ inside

/-- What occurs in a call is the call or occurs in the callee or in an argument. -/
@[simp] theorem occursIn_call {callee : Node} {arguments : List Node} :
    part.OccursIn (.call callee arguments) ↔ part = .call callee arguments ∨
      part.OccursIn callee ∨ ∃ argument ∈ arguments, part.OccursIn argument := by
  constructor
  · intro occurs
    cases occurs with
    | here => exact .inl rfl
    | callee _ inside => exact .inr (.inl inside)
    | argument _ member inside => exact .inr (.inr ⟨_, member, inside⟩)
  · rintro (rfl | inside | ⟨argument, member, inside⟩)
    · exact .here
    · exact .callee _ inside
    · exact .argument _ member inside

/-- What occurs in an operation on one operand is the operation or occurs in the operand. -/
@[simp] theorem occursIn_unary {operator : String} {argument : Node} :
    part.OccursIn (.unary operator argument) ↔
      part = .unary operator argument ∨ part.OccursIn argument := by
  constructor
  · intro occurs
    cases occurs with
    | here => exact .inl rfl
    | operand _ inside => exact .inr inside
  · rintro (rfl | inside)
    · exact .here
    · exact .operand _ inside

/-- What occurs in an access is the access or occurs in the object or in the property. -/
@[simp] theorem occursIn_member {object property : Node} :
    part.OccursIn (.member object property) ↔
      part = .member object property ∨ part.OccursIn object ∨ part.OccursIn property := by
  constructor
  · intro occurs
    cases occurs with
    | here => exact .inl rfl
    | object _ inside => exact .inr (.inl inside)
    | property _ inside => exact .inr (.inr inside)
  · rintro (rfl | inside | inside)
    · exact .here
    · exact .object _ inside
    · exact .property _ inside

end Node
end RankFormula
