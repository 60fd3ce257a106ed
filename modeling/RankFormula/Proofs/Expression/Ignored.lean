import RankFormula.Proofs.Expression.Derivation

/-!
# Expressions up to what exponentials ignore

An operator tree forgets the second argument of every exponential. `Node.withIgnored` puts one
expression in the place of all of them, and `Node.withoutIgnored` leaves them out. The tree
determines its expression up to that: `Node.Lowers.withIgnored_eq` goes by induction on the
derivation of the one expression and by inversion of the derivation of the other, so the rules
are compared pair by pair. Only products and decays share the name of an operation, and they are
told apart by their second operand: no expression has the exponential of a product of three as
its tree.
-/

namespace RankFormula
namespace Node

mutual

/-- Changes the list of arguments of every call of `exp`, from the inside out. -/
def editExponentials (edit : List Node → List Node) : Node → Node
  | .binary operator left right =>
    .binary operator (editExponentials edit left) (editExponentials edit right)
  | .call (.identifier name) arguments =>
    let edited := editAllExponentials edit arguments
    .call (.identifier name) (if name = "exp" then edit edited else edited)
  | .call callee arguments =>
    .call (editExponentials edit callee) (editAllExponentials edit arguments)
  | .unary operator argument => .unary operator (editExponentials edit argument)
  | .member object property =>
    .member (editExponentials edit object) (editExponentials edit property)
  | node => node

/-- Changes the calls of `exp` in every expression of a list. -/
def editAllExponentials (edit : List Node → List Node) : List Node → List Node
  | [] => []
  | node :: nodes => editExponentials edit node :: editAllExponentials edit nodes

end

/-- An expression without the second argument of any call of `exp`. -/
def withoutIgnored (node : Node) : Node :=
  node.editExponentials fun arguments => arguments.eraseIdx 1

/-- An expression with one and the same second argument in every call of `exp`. -/
def withIgnored (node fixed : Node) : Node :=
  node.editExponentials fun arguments => arguments.set 1 fixed

section Edits

variable {edit : List Node → List Node}

/-- The edit reaches the arguments of an exponential. -/
theorem editExponentials_exponential (arguments : List Node) :
    (call (.identifier FormulaFunction.exp.name) arguments).editExponentials edit =
      .call (.identifier FormulaFunction.exp.name)
        (edit (editAllExponentials edit arguments)) := by
  simp [editExponentials, FormulaFunction.name]

/-- The edit passes through a decay. -/
theorem editExponentials_decay (arguments : List Node) :
    (call (.identifier FormulaFunction.expDecay.name) arguments).editExponentials edit =
      .call (.identifier FormulaFunction.expDecay.name) (editAllExponentials edit arguments) := by
  simp [editExponentials, FormulaFunction.name]

end Edits

end Node

/-- The factor of a decay: the exponential of minus one times the rate times the time. -/
def decayFactor (rateTree elapsedTree : Value) : Value :=
  .object [(expTreeName, .object [(ArithmeticOperator.multiply.treeName,
    .list [minusOneTree, rateTree, elapsedTree])])]

/-- Operators with the same name in trees are the same. -/
theorem ArithmeticOperator.treeName_inj {first second : ArithmeticOperator} :
    first.treeName = second.treeName ↔ first = second := by
  cases first <;> cases second <;> decide

/-- The name of the exponential in trees is none of an operator. -/
theorem ArithmeticOperator.treeName_ne_exp (op : ArithmeticOperator) :
    op.treeName ≠ expTreeName := by
  cases op <;> decide

namespace Node
namespace Lowers

variable {whitelist here there : Whitelist} {node first second : Node} {tree : Value}

/-- Only a number has its tree. -/
theorem of_number {n : Number} (derived : Lowers whitelist node (.number n)) :
    node = .literal (.number n) := by
  cases derived
  rfl

/-- Only a variable has the reference to its field as a tree. -/
theorem of_reference {name : String} (derived : Lowers whitelist node (.string ("$" ++ name))) :
    node = .identifier name := by
  generalize shown : Value.string ("$" ++ name) = tree at derived
  cases derived with
  | field other =>
    have same : "$" ++ name = "$" ++ other := Value.string.inj shown
    rw [String.append_right_inj] at same
    rw [same]
  | _ => cases shown

/-- Only an exponential has the exponential of a tree as its tree. -/
theorem of_exponential {operandTree : Value}
    (derived : Lowers whitelist node (.object [(expTreeName, operandTree)])) :
    ∃ operand ignored, node = .call (.identifier FormulaFunction.exp.name) [operand, ignored] ∧
      Lowers whitelist operand operandTree := by
  generalize shown : Value.object [(expTreeName, operandTree)] = tree at derived
  cases derived with
  | operation op =>
    simp only [Value.object.injEq, List.cons.injEq, Prod.mk.injEq] at shown
    exact absurd shown.1.1.symm op.treeName_ne_exp
  | exponential operand =>
    simp only [Value.object.injEq, List.cons.injEq, Prod.mk.injEq, true_and, and_true] at shown
    rw [shown]
    exact ⟨_, _, rfl, operand⟩
  | decay =>
    simp only [Value.object.injEq, List.cons.injEq, Prod.mk.injEq] at shown
    exact absurd shown.1.1.symm (ArithmeticOperator.treeName_ne_exp .multiply)
  | _ => cases shown

/-- No expression has an operation on three operands as its tree. -/
theorem not_triple {name : String} {a b c : Value} :
    ¬Lowers whitelist node (.object [(name, .list [a, b, c])]) := by
  intro derived
  generalize shown : Value.object [(name, .list [a, b, c])] = tree at derived
  cases derived with
  | exponential operand =>
    -- The operand would be a list, and that is no tree of an expression.
    simp only [Value.object.injEq, List.cons.injEq, Prod.mk.injEq, and_true] at shown
    rw [← shown.2] at operand
    cases operand
  | _ => simp at shown

/-- No expression has the factor of a decay as its tree. -/
theorem not_decayFactor {rateTree elapsedTree : Value} :
    ¬Lowers whitelist node (decayFactor rateTree elapsedTree) := by
  intro derived
  obtain ⟨operand, ignored, rfl, operandDerived⟩ := of_exponential derived
  exact not_triple operandDerived

/-- An operation on two operands is the tree of that operation, or of a decay if the second
operand is the factor of one. -/
theorem of_pair {op : ArithmeticOperator} {leftTree rightTree : Value}
    (derived : Lowers whitelist node (.object [(op.treeName, .list [leftTree, rightTree])])) :
    (∃ left right, node = .binary op.symbol left right ∧ Lowers whitelist left leftTree ∧
      Lowers whitelist right rightTree) ∨
    ∃ value rate elapsed rateTree elapsedTree,
      node = .call (.identifier FormulaFunction.expDecay.name) [value, rate, elapsed] ∧
      rightTree = decayFactor rateTree elapsedTree ∧ Lowers whitelist value leftTree ∧
      Lowers whitelist rate rateTree ∧ Lowers whitelist elapsed elapsedTree := by
  generalize shown : Value.object [(op.treeName, .list [leftTree, rightTree])] = tree at derived
  cases derived with
  | operation other left right =>
    simp only [Value.object.injEq, List.cons.injEq, Prod.mk.injEq, Value.list.injEq,
      and_true, ArithmeticOperator.treeName_inj] at shown
    obtain ⟨rfl, rfl, rfl⟩ := shown
    exact .inl ⟨_, _, rfl, left, right⟩
  | exponential =>
    simp only [Value.object.injEq, List.cons.injEq, Prod.mk.injEq] at shown
    exact absurd shown.1.1 op.treeName_ne_exp
  | decay value rate elapsed =>
    simp only [Value.object.injEq, List.cons.injEq, Prod.mk.injEq, Value.list.injEq,
      and_true] at shown
    obtain ⟨-, rfl, rfl⟩ := shown
    exact .inr ⟨_, _, _, _, _, rfl, rfl, value, rate, elapsed⟩
  | _ => cases shown

/-- Expressions with the same tree differ at most in what exponentials ignore. -/
theorem withIgnored_eq (derived : Lowers here first tree) (again : Lowers there second tree)
    (fixed : Node) : first.withIgnored fixed = second.withIgnored fixed := by
  induction derived generalizing second with
  | number n => rw [of_number again]
  | field name => rw [of_reference again]
  | operation op firstDerived secondDerived leftClaim rightClaim =>
    obtain ⟨left, right, rfl, leftAgain, rightAgain⟩ |
      ⟨value, rate, elapsed, rateTree, elapsedTree, rfl, rfl, -⟩ := of_pair again
    · have sameLeft := leftClaim leftAgain
      have sameRight := rightClaim rightAgain
      unfold withIgnored at sameLeft sameRight ⊢
      rw [editExponentials, editExponentials, sameLeft, sameRight]
    · exact absurd secondDerived not_decayFactor
  | exponential operandDerived valid operandClaim =>
    obtain ⟨operand, ignored, rfl, operandAgain⟩ := of_exponential again
    have sameOperand := operandClaim operandAgain
    unfold withIgnored at sameOperand ⊢
    simp [editExponentials_exponential, editAllExponentials, sameOperand]
  | decay valueDerived rateDerived elapsedDerived valueClaim rateClaim elapsedClaim =>
    obtain ⟨left, right, rfl, leftAgain, rightAgain⟩ |
      ⟨value, rate, elapsed, rateTree, elapsedTree, rfl, factor, valueAgain, rateAgain,
        elapsedAgain⟩ := of_pair again
    · exact absurd rightAgain not_decayFactor
    · simp only [decayFactor, Value.object.injEq, Value.list.injEq, List.cons.injEq,
        Prod.mk.injEq, true_and, and_true] at factor
      obtain ⟨rfl, rfl⟩ := factor
      have sameValue := valueClaim valueAgain
      have sameRate := rateClaim rateAgain
      have sameElapsed := elapsedClaim elapsedAgain
      unfold withIgnored at sameValue sameRate sameElapsed ⊢
      simp [editExponentials_decay, editAllExponentials, sameValue, sameRate, sameElapsed]

/-- The tree stays complete and the same if what exponentials ignore is replaced. -/
theorem lower_withIgnored (derived : Lowers whitelist node tree) (fixed : Node) :
    (node.withIgnored fixed).lower = ⟨tree, none⟩ := by
  unfold withIgnored
  induction derived with
  | number n => rfl
  | field name => rfl
  | operation op _ _ leftClaim rightClaim =>
    rw [editExponentials, lower_binary_symbol, leftClaim, rightClaim]
    rfl
  | exponential _ _ operandClaim =>
    rw [editExponentials_exponential, lower]
    simp only [editAllExponentials, List.set_cons_succ, List.set_cons_zero, lowerAll, operandClaim]
    rfl
  | decay _ _ _ valueClaim rateClaim elapsedClaim =>
    rw [editExponentials_decay, lower]
    simp only [editAllExponentials, lowerAll, valueClaim, rateClaim, elapsedClaim]
    rfl

/-- What has the tree of a decay is a decay. -/
theorem of_decay {value rate elapsed : Node}
    (derived : Lowers here (.call (.identifier FormulaFunction.expDecay.name)
      [value, rate, elapsed]) tree) (again : Lowers there second tree) :
    ∃ arguments, second = .call (.identifier FormulaFunction.expDecay.name) arguments := by
  generalize shown : call (.identifier FormulaFunction.expDecay.name) [value, rate, elapsed] = node
    at derived
  cases derived with
  | exponential => simp [FormulaFunction.name] at shown
  | decay =>
    obtain ⟨left, right, -, -, rightAgain⟩ | ⟨_, _, _, _, _, rfl, -⟩ := of_pair again
    · exact absurd rightAgain not_decayFactor
    · exact ⟨_, rfl⟩
  | _ => cases shown

end Lowers

/-- Two expressions that compile have the same tree exactly if they are equal once every second
argument of `exp` is replaced by one and the same expression. The tree of a decay is that of decays
only, however products and exponentials are combined. -/
theorem compile_eq_iff_withIgnored_eq {here there : Whitelist} {first second : Node}
    {tree other : Value} (compiled : first.compile here = .ok tree)
    (alsoCompiled : second.compile there = .ok other) (fixed : Node) :
    (tree = other ↔ first.withIgnored fixed = second.withIgnored fixed) ∧
      ∀ value rate elapsed, first = .call (.identifier "exp_decay") [value, rate, elapsed] →
        (∀ arguments, second ≠ .call (.identifier "exp_decay") arguments) → tree ≠ other := by
  have derived := compile_eq_ok.mp compiled
  have alsoDerived := compile_eq_ok.mp alsoCompiled
  refine ⟨⟨?_, fun same => ?_⟩, ?_⟩
  · rintro rfl
    exact derived.withIgnored_eq alsoDerived fixed
  · have lowered := derived.lower_withIgnored fixed
    rw [same, alsoDerived.lower_withIgnored fixed] at lowered
    exact congrArg Lowered.tree lowered.symm
  · rintro value rate elapsed rfl otherwise rfl
    obtain ⟨arguments, decay⟩ := derived.of_decay alsoDerived
    exact otherwise arguments decay

/-- A decay and the product that means the same have different trees; the product has the tree of
any other one that differs only in what its exponential ignores. -/
theorem compile_eq_iff_withIgnored_eq_product :
    let likes : Node := .identifier "likes"
    let age : Node := .identifier "age"
    let two : Node := .literal (.int 2)
    let minusOne : Node := .literal (.number (.doubleOfInt (-1)))
    let exponent : Node := .binary "*" (.binary "*" minusOne two) age
    let product : Node → Node := fun ignored =>
      .binary "*" likes (.call (.identifier "exp") [exponent, ignored])
    let decay : Node := .call (.identifier "exp_decay") [likes, two, age]
    let productTree : Value := .object [("$multiply", .list [.string "$likes", .object [("$exp",
      .object [("$multiply", .list [.object [("$multiply", .list [minusOneTree, .int 2])],
        .string "$age"])])]])]
    let decayTree : Value := .object [("$multiply", .list [.string "$likes", .object [("$exp",
      .object [("$multiply", .list [minusOneTree, .int 2, .string "$age"])])]])]
    (product likes).compile ⟨["age", "likes"]⟩ = .ok productTree ∧
      (product two).compile ⟨["age", "likes", "views"]⟩ = .ok productTree ∧
      (product likes).withIgnored age = (product two).withIgnored age ∧
      decay.compile ⟨["age", "likes"]⟩ = .ok decayTree ∧ decayTree ≠ productTree := by
  intro likes age two minusOne exponent product decay productTree decayTree
  have compiled : (product likes).compile ⟨["age", "likes"]⟩ = .ok productTree := by rfl
  have alsoCompiled : (product two).compile ⟨["age", "likes", "views"]⟩ = .ok productTree := by
    rfl
  have decayCompiled : decay.compile ⟨["age", "likes"]⟩ = .ok decayTree := by rfl
  have same := (compile_eq_iff_withIgnored_eq compiled alsoCompiled age).1.mp rfl
  have differ := (compile_eq_iff_withIgnored_eq decayCompiled compiled age).2 likes two age rfl
    (fun _ isCall => by cases isCall)
  exact ⟨compiled, alsoCompiled, same, decayCompiled, differ⟩

end Node
end RankFormula
