import Mathlib.Data.List.Basic
import RankFormula.Proofs.Expression.Structure

/-!
# Derivations of operator trees

`Node.Lowers` says by rules which expressions have which operator trees under a
whitelist: one rule for each form that a formula can take, and none for anything else.
`compile_eq_ok` shows that `Node.compile` answers exactly the derivable trees, so what
holds of every compiled tree is proved by induction on its derivation. The derivation
drops the second argument of an exponential but still demands that it be valid.
-/

namespace RankFormula

/-- The tree of minus one. -/
def minusOneTree : Value := .number (.doubleOfInt (-1))

namespace Lowered

/-- An operation is complete exactly if both operands are. -/
theorem operation_complete {op : ArithmeticOperator} {left right : Lowered} {tree : Value} :
    operation op left right = ⟨tree, none⟩ ↔
      ∃ leftTree rightTree, left = ⟨leftTree, none⟩ ∧ right = ⟨rightTree, none⟩ ∧
        tree = .object [(op.treeName, .list [leftTree, rightTree])] := by
  obtain ⟨leftTree, leftMissing⟩ := left
  obtain ⟨rightTree, rightMissing⟩ := right
  cases leftMissing <;> cases rightMissing <;> simp [operation, eq_comm]

/-- A call of the exponential is complete exactly if its first argument is. -/
theorem exponential_complete {operand : Lowered} {others : List Lowered} {tree : Value} :
    call FormulaFunction.exp.name (operand :: others) = ⟨tree, none⟩ ↔
      ∃ operandTree, operand = ⟨operandTree, none⟩ ∧
        tree = .object [(expTreeName, operandTree)] := by
  obtain ⟨operandTree, missing⟩ := operand
  cases missing <;> simp [call, exponential, FormulaFunction.ofName?_name, eq_comm]

/-- A call of the decay is complete exactly if its three arguments are. -/
theorem decay_complete {value rate elapsed : Lowered} {others : List Lowered} {tree : Value} :
    call FormulaFunction.expDecay.name (value :: rate :: elapsed :: others) = ⟨tree, none⟩ ↔
      ∃ valueTree rateTree elapsedTree, value = ⟨valueTree, none⟩ ∧ rate = ⟨rateTree, none⟩ ∧
        elapsed = ⟨elapsedTree, none⟩ ∧
        tree = .object [(ArithmeticOperator.multiply.treeName, .list [valueTree,
          .object [(expTreeName, .object [(ArithmeticOperator.multiply.treeName,
            .list [minusOneTree, rateTree, elapsedTree])])]])] := by
  obtain ⟨valueTree, valueMissing⟩ := value
  obtain ⟨rateTree, rateMissing⟩ := rate
  obtain ⟨elapsedTree, elapsedMissing⟩ := elapsed
  cases valueMissing <;> cases rateMissing <;> cases elapsedMissing <;>
    simp [call, decay, FormulaFunction.ofName?_name, minusOneTree, eq_comm]

/-- The logistic function has no counterpart, whatever its arguments. -/
theorem call_sigmoid (arguments : List Lowered) :
    call FormulaFunction.sigmoid.name arguments =
      without (.function FormulaFunction.sigmoid.name) := by
  simp [call, FormulaFunction.ofName?_name]

end Lowered

namespace Node

/-- An expression has an operator tree under a whitelist. -/
inductive Lowers (whitelist : Whitelist) : Node → Value → Prop where
  /-- A number stands for itself. -/
  | number (n : Number) : Lowers whitelist (.literal (.number n)) (.number n)
  /-- A variable becomes a reference to the field of its name. -/
  | field (name : String) (listed : whitelist.contains name = true) :
    Lowers whitelist (.identifier name) (.string ("$" ++ name))
  /-- An operator keeps its operands in order. -/
  | operation (op : ArithmeticOperator) {left right : Node} {leftTree rightTree : Value}
    (first : Lowers whitelist left leftTree) (second : Lowers whitelist right rightTree) :
    Lowers whitelist (.binary op.symbol left right)
      (.object [(op.treeName, .list [leftTree, rightTree])])
  /-- An exponential keeps its first argument only. -/
  | exponential {operand ignored : Node} {tree : Value} (first : Lowers whitelist operand tree)
    (second : ignored.validate whitelist = .ok true) :
    Lowers whitelist (.call (.identifier FormulaFunction.exp.name) [operand, ignored])
      (.object [(expTreeName, tree)])
  /-- A decay multiplies its value by the exponential of minus the rate times the time. -/
  | decay {value rate elapsed : Node} {valueTree rateTree elapsedTree : Value}
    (first : Lowers whitelist value valueTree) (second : Lowers whitelist rate rateTree)
    (third : Lowers whitelist elapsed elapsedTree) :
    Lowers whitelist (.call (.identifier FormulaFunction.expDecay.name) [value, rate, elapsed])
      (.object [(ArithmeticOperator.multiply.treeName, .list [valueTree,
        .object [(expTreeName, .object [(ArithmeticOperator.multiply.treeName,
          .list [minusOneTree, rateTree, elapsedTree])])]])])

/-- An expression compiles to a tree exactly if it is valid and its lowering is that
tree, complete. -/
theorem compile_eq_ok_iff_complete {whitelist : Whitelist} {node : Node} {tree : Value} :
    node.compile whitelist = .ok tree ↔
      node.validate whitelist = .ok true ∧ node.lower = ⟨tree, none⟩ := by
  have faultless : node.fault? whitelist = none ↔ node.validate whitelist = .ok true := by
    unfold fault?
    split <;> simp_all
  rw [← faultless]
  unfold compile
  split
  · next fault found => simp [found]
  · next found =>
    rw [found]
    split
    · next lowered complete => simp [complete]
    · next lowered part incomplete => simp [incomplete]

/-- What validation finds wrong is what compilation reports. -/
theorem compile_of_fault {whitelist : Whitelist} {node : Node} {fault : ExpressionFault}
    (failed : node.validate whitelist = .error fault) :
    node.compile whitelist = .error ⟨fault, none⟩ := by
  rw [compile, fault?, failed]

/-- An expression that is not valid without a fault has a literal that is no number. -/
theorem compile_of_invalid {whitelist : Whitelist} {node : Node}
    (invalid : node.validate whitelist = .ok false) :
    node.compile whitelist = .error ⟨.invalidLiteral, none⟩ := by
  rw [compile, fault?, invalid]

/-- A valid expression compiles, or a part of it has no counterpart. -/
theorem compile_of_valid {whitelist : Whitelist} {node : Node}
    (valid : node.validate whitelist = .ok true) :
    (∃ tree, node.compile whitelist = .ok tree) ∨
      ∃ part tree, node.compile whitelist = .error ⟨.notCompilable part, some tree⟩ := by
  rw [compile, fault?, valid]
  dsimp only
  split
  · exact .inl ⟨_, rfl⟩
  · exact .inr ⟨_, _, rfl⟩

/-- A valid expression whose lowering is complete has a derivation of that tree. -/
theorem lowers_of_complete {whitelist : Whitelist} {node : Node} :
    ∀ {tree : Value}, node.validate whitelist = .ok true → node.lower = ⟨tree, none⟩ →
      Lowers whitelist node tree := by
  induction node with
  | literal value =>
    intro tree valid complete
    cases value with
    | number n =>
      obtain rfl : Value.number n = tree := by simpa [lower] using complete
      exact .number n
    | _ => simp [validate, Value.isNumber] at valid
  | identifier name =>
    intro tree valid complete
    obtain rfl : Value.string ("$" ++ name) = tree := by simpa [lower] using complete
    exact .field name (by simpa [validate] using valid)
  | binary operator left right leftClaim rightClaim =>
    intro tree valid complete
    obtain ⟨⟨op, rfl⟩, leftValid, rightValid⟩ := validate_binary_eq_ok_true.mp valid
    rw [lower_binary_symbol, Lowered.operation_complete] at complete
    obtain ⟨leftTree, rightTree, leftComplete, rightComplete, rfl⟩ := complete
    exact .operation op (leftClaim leftValid leftComplete) (rightClaim rightValid rightComplete)
  | call callee arguments _ argumentClaim =>
    intro tree valid complete
    obtain ⟨⟨f, rfl, arity⟩, argumentsValid⟩ := validate_call_eq_ok_true.mp valid
    rw [lower, lowerAll_eq_map] at complete
    cases f with
    | exp =>
      -- Only the first argument reaches the tree; of the second, validity is all there is.
      obtain ⟨operand, ignored, rfl⟩ := List.length_eq_two.mp arity.symm
      obtain ⟨operandTree, operandComplete, rfl⟩ := Lowered.exponential_complete.mp complete
      exact .exponential
        (argumentClaim operand (by simp) (argumentsValid operand (by simp)) operandComplete)
        (argumentsValid ignored (by simp))
    | expDecay =>
      obtain ⟨value, rate, elapsed, rfl⟩ := List.length_eq_three.mp arity.symm
      obtain ⟨valueTree, rateTree, elapsedTree, valueComplete, rateComplete, elapsedComplete,
        rfl⟩ := Lowered.decay_complete.mp complete
      exact .decay
        (argumentClaim value (by simp) (argumentsValid value (by simp)) valueComplete)
        (argumentClaim rate (by simp) (argumentsValid rate (by simp)) rateComplete)
        (argumentClaim elapsed (by simp) (argumentsValid elapsed (by simp)) elapsedComplete)
    | sigmoid => simp [Lowered.call_sigmoid, Lowered.without] at complete
  | _ =>
    intro tree valid
    simp [validate] at valid

/-- A derived tree is the complete lowering of a valid expression. -/
theorem Lowers.complete {whitelist : Whitelist} {node : Node} {tree : Value}
    (derived : Lowers whitelist node tree) :
    node.validate whitelist = .ok true ∧ node.lower = ⟨tree, none⟩ := by
  induction derived with
  | number n => exact ⟨rfl, rfl⟩
  | field name listed => exact ⟨by simp [validate, listed], rfl⟩
  | operation op _ _ leftClaim rightClaim =>
    constructor
    · exact validate_binary_eq_ok_true.mpr ⟨⟨op, rfl⟩, leftClaim.1, rightClaim.1⟩
    · rw [lower_binary_symbol, leftClaim.2, rightClaim.2]
      rfl
  | exponential _ second operandClaim =>
    constructor
    · exact validate_call_eq_ok_true.mpr ⟨⟨.exp, rfl, rfl⟩, by simp [operandClaim.1, second]⟩
    · rw [lower, lowerAll, operandClaim.2]
      rfl
  | decay _ _ _ valueClaim rateClaim elapsedClaim =>
    constructor
    · exact validate_call_eq_ok_true.mpr ⟨⟨.expDecay, rfl, rfl⟩,
        by simp [valueClaim.1, rateClaim.1, elapsedClaim.1]⟩
    · rw [lower, lowerAll_eq_map, List.map_cons, List.map_cons, List.map_cons, valueClaim.2,
        rateClaim.2, elapsedClaim.2]
      rfl

/-- Compilation answers exactly the derivable trees. -/
theorem compile_eq_ok {whitelist : Whitelist} {node : Node} {tree : Value} :
    node.compile whitelist = .ok tree ↔ Lowers whitelist node tree := by
  rw [compile_eq_ok_iff_complete]
  exact ⟨fun ⟨valid, complete⟩ => lowers_of_complete valid complete, Lowers.complete⟩

end Node
end RankFormula
