import RankFormula.Numeral.Integer
import RankFormula.Proofs.Expression.Derivation

/-!
# Expressions that can be written

A value or an expression can be written as JSON unless it holds a number that is not finite.
Integers of 64 bits round to finite numbers, so only the arithmetic of a text could make
others. What is derived from an expression that can be written can be written
(`Node.Lowers.writable`).
-/

namespace RankFormula

namespace Floating

/-- A number has a decimal exactly if it is finite. -/
theorem isSome_toDecimal? (f : FloatFormat) (x : Floating) :
    (x.toDecimal? f).isSome = x.isFinite := by
  cases x with
  | finite negative significand exponent =>
    rw [toDecimal?]
    split <;> rfl
  | _ => rfl

/-- The exponent of a rounded ratio is about the difference of the sizes of its parts. -/
theorem roundingExponent_le (f : FloatFormat) (num den : Nat) :
    roundingExponent f num den ≤
      max ((num.log2 : Int) - den.log2 - f.precision + 1) f.leastExponent := by
  unfold roundingExponent
  dsimp only
  split <;> omega

/-- A ratio whose parts differ little in size rounds to a finite number. -/
theorem isFinite_ofRatio {f : FloatFormat} {num den : Nat} (negative : Bool)
    (ordered : f.leastExponent < f.greatestExponent)
    (small : (num.log2 : Int) - den.log2 - f.precision + 1 < f.greatestExponent) :
    (ofRatio f negative num den).isFinite = true := by
  have bound := roundingExponent_le f num den
  unfold ofRatio
  split
  · rfl
  · dsimp only
    -- The last rounding raises the exponent by at most one.
    split
    · split
      · omega
      · rfl
    · split
      · omega
      · rfl

/-- An integer of 64 bits rounds to a finite number. -/
theorem isFinite_ofInt_double {n : Int} (small : n.natAbs < wordModulus) :
    (ofInt .double n).isFinite = true := by
  have size : n.natAbs.log2 < 64 := by
    by_cases zero : n.natAbs = 0
    · rw [zero]
      decide
    · exact (Nat.log2_lt zero).mpr small
  have one : Nat.log2 1 = 0 := by decide
  refine isFinite_ofRatio _ (by decide) ?_
  simp only [FloatFormat.double, one]
  omega

end Floating

/-- An integer in the signed range is one of 64 bits. -/
theorem natAbs_lt_of_signedInRange {negative : Bool} {n : Nat} {m : Int}
    (inRange : signedInRange negative n = .ok m) : m.natAbs < wordModulus := by
  have half : signedLimit < wordModulus := by decide
  unfold signedInRange at inRange
  split at inRange
  · split at inRange
    · cases inRange
    · obtain rfl := Except.ok.inj inRange
      omega
  · split at inRange
    · cases inRange
    · obtain rfl := Except.ok.inj inRange
      omega

namespace Value

attribute [local simp] toJson? itemsToJson? fieldsToJson?

/-- A value can be written as JSON. -/
def Writable (value : Value) : Prop := value.toJson?.isSome = true

/-- A number can be written exactly if it has a decimal. -/
theorem writable_number {n : Number} : (Value.number n).Writable ↔ n.toDecimal?.isSome = true := by
  rw [Writable, toJson?, Option.isSome_map]

/-- A floating number can be written exactly if it is finite. -/
@[simp] theorem writable_double {x : Floating} :
    (Value.number (.double x)).Writable ↔ x.isFinite = true := by
  rw [writable_number, Number.toDecimal?, Floating.isSome_toDecimal?]

/-- An integer of 64 bits can be written as a floating number. -/
theorem writable_doubleOfInt {n : Int} (small : n.natAbs < wordModulus) :
    (Value.number (.doubleOfInt n)).Writable :=
  writable_double.mpr (Floating.isFinite_ofInt_double small)

/-- A text can be written. -/
@[simp] theorem writable_string (s : String) : (Value.string s).Writable := rfl

/-- A text from outside can be written. -/
@[simp] theorem writable_ofRaw (text : RawText) : (ofRaw text).Writable := by
  unfold ofRaw
  split <;> rfl

/-- Items are written one by one. -/
theorem isSome_itemsToJson? {items : List Value} :
    (itemsToJson? items).isSome = true ↔ ∀ item ∈ items, item.Writable := by
  induction items with
  | nil => simp
  | cons item items ih =>
    rw [List.forall_mem_cons, ← ih, itemsToJson?, Writable]
    cases item.toJson? <;> cases itemsToJson? items <;> simp

/-- A list can be written exactly if its items can. -/
@[simp] theorem writable_list {items : List Value} :
    (Value.list items).Writable ↔ ∀ item ∈ items, item.Writable := by
  rw [Writable, toJson?, Option.isSome_map, isSome_itemsToJson?]

/-- Fields are written one by one. -/
theorem isSome_fieldsToJson? {fields : List (String × Value)} :
    (fieldsToJson? fields).isSome = true ↔ ∀ value ∈ fields.map Prod.snd, value.Writable := by
  induction fields with
  | nil => simp
  | cons field fields ih =>
    rw [List.map_cons, List.forall_mem_cons, ← ih, fieldsToJson?, Writable]
    cases field.2.toJson? <;> cases fieldsToJson? fields <;> simp

/-- An object can be written exactly if the values of its fields can. -/
theorem writable_object {fields : List (String × Value)} :
    (Value.object fields).Writable ↔ ∀ value ∈ fields.map Prod.snd, value.Writable := by
  rw [Writable, toJson?, Option.isSome_map, isSome_fieldsToJson?]

/-- An ordered document can be written exactly if the values of its fields can. -/
theorem writable_document {fields : List (String × Value)} :
    (Value.document fields).Writable ↔ ∀ value ∈ fields.map Prod.snd, value.Writable := by
  rw [Writable, toJson?, Option.isSome_map, isSome_fieldsToJson?]

/-- An object with one field can be written exactly if the field can. -/
@[simp] theorem writable_object_singleton {name : String} {value : Value} :
    (Value.object [(name, value)]).Writable ↔ value.Writable := by
  rw [writable_object]
  exact List.forall_mem_singleton

end Value

namespace Node

attribute [local simp] toJson? allToJson?

/-- An expression can be written as JSON. -/
def Printable (node : Node) : Prop := node.toJson?.isSome = true

/-- A literal can be written exactly if its value can. -/
@[simp] theorem printable_literal {value : Value} :
    (literal value).Printable ↔ value.Writable := by
  rw [Printable, toJson?, Value.Writable]
  cases value.toJson? <;> simp

/-- A name can be written. -/
@[simp] theorem printable_identifier (name : String) : (identifier name).Printable := by
  simp [Printable]

/-- A name from outside can be written. -/
@[simp] theorem printable_named (name : RawText) : (named name).Printable := by
  unfold named
  split <;> simp [Printable]

/-- An operation can be written exactly if its operands can. -/
@[simp] theorem printable_binary {operator : String} {left right : Node} :
    (binary operator left right).Printable ↔ left.Printable ∧ right.Printable := by
  rw [Printable, Printable, Printable, toJson?]
  cases left.toJson? <;> cases right.toJson? <;> simp

/-- Expressions are written one by one. -/
theorem isSome_allToJson? {nodes : List Node} :
    (allToJson? nodes).isSome = true ↔ ∀ node ∈ nodes, node.Printable := by
  induction nodes with
  | nil => simp
  | cons node nodes ih =>
    rw [List.forall_mem_cons, ← ih, allToJson?, Printable]
    cases node.toJson? <;> cases allToJson? nodes <;> simp

/-- A call can be written exactly if its callee and its arguments can. -/
@[simp] theorem printable_call {callee : Node} {arguments : List Node} :
    (call callee arguments).Printable ↔
      callee.Printable ∧ ∀ argument ∈ arguments, argument.Printable := by
  rw [← isSome_allToJson?, Printable, Printable, toJson?]
  cases callee.toJson? <;> cases allToJson? arguments <;> simp

/-- An operation on one operand can be written exactly if the operand can. -/
@[simp] theorem printable_unary {operator : String} {argument : Node} :
    (unary operator argument).Printable ↔ argument.Printable := by
  rw [Printable, Printable, toJson?]
  cases argument.toJson? <;> simp

/-- An access can be written exactly if its object and its property can. -/
@[simp] theorem printable_member {object property : Node} :
    (member object property).Printable ↔ object.Printable ∧ property.Printable := by
  rw [Printable, Printable, Printable, toJson?]
  cases object.toJson? <;> cases property.toJson? <;> simp

/-- An unsupported construct is written as its text. -/
@[simp] theorem printable_unsupported (kind text : String) :
    (unsupported kind text).Printable := by
  simp [Printable]

/-- What is derived from an expression that can be written can be written. -/
theorem Lowers.writable {whitelist : Whitelist} {node : Node} {tree : Value}
    (derived : node.Lowers whitelist tree) (printable : node.Printable) : tree.Writable := by
  induction derived with
  | number n => exact printable_literal.mp printable
  | field name listed => exact Value.writable_string _
  | operation op _ _ leftClaim rightClaim =>
    obtain ⟨left, right⟩ := printable_binary.mp printable
    simp [leftClaim left, rightClaim right]
  | exponential _ _ operandClaim =>
    obtain ⟨-, arguments⟩ := printable_call.mp printable
    simp [operandClaim (arguments _ (by simp))]
  | decay _ _ _ valueClaim rateClaim elapsedClaim =>
    obtain ⟨-, arguments⟩ := printable_call.mp printable
    have minusOne : minusOneTree.Writable := Value.writable_doubleOfInt (by decide)
    simp [valueClaim (arguments _ (by simp)), rateClaim (arguments _ (by simp)),
      elapsedClaim (arguments _ (by simp)), minusOne]

end Node
end RankFormula
