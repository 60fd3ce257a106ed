import RankFormula.Proofs.Expression.Structure

/-!
# The offences of an expression

`Node.offences` lists everything in an expression that keeps it from being a formula, depth
first and from left to right, by rules of its own: it knows symbols, names and numbers of
arguments as they are written and looks at neither the vocabulary nor the walk of
`Node.validate`. It does not stop at an offence but never looks inside one.
`Node.validate_eq_first_offence` says that validation answers by the first entry of the list.
-/

namespace RankFormula

/-- What keeps an expression from being a formula. -/
inductive Offence where
  /-- A literal that is no number, which has no words of its own. -/
  | nonNumeric
  /-- A fault with its words. -/
  | fault (cause : ExpressionFault)
  deriving DecidableEq, Repr

/-- The symbols that may stand between two operands. -/
def operatorSymbols : List String := ["+", "-", "*", "/"]

/-- The names that may be called, each with its number of arguments. -/
def callableNames : List (String × Nat) := [("exp", 2), ("sigmoid", 3), ("exp_decay", 3)]

namespace Node

/-- A call of a name with its number of arguments. -/
def IsCallable : Node → Nat → Prop
  | .identifier name, arguments => (name, arguments) ∈ callableNames
  | _, _ => False

instance (callee : Node) (arguments : Nat) : Decidable (callee.IsCallable arguments) :=
  match callee with
  | .identifier name => inferInstanceAs (Decidable ((name, arguments) ∈ callableNames))
  | .absent | .literal _ | .malformedName _ | .binary _ _ _ | .call _ _ | .unary _ _
  | .member _ _ | .unsupported _ _ => .isFalse id

mutual

/-- The offences of an expression, depth first and from left to right. A call that names no
function of its number of arguments, and an operation of another symbol, are offences as a
whole; so is every node of a kind that no formula holds. -/
def offences (whitelist : Whitelist) : Node → List Offence
  | .literal (.number _) => []
  | .literal _ => [.nonNumeric]
  | .identifier name =>
    if name ∈ whitelist.names then [] else [.fault (.invalidVariable name)]
  | .malformedName name => [.fault (.invalidVariable name.toString)]
  | .call callee arguments =>
    if callee.IsCallable arguments.length then offencesOfAll whitelist arguments
    else [.fault (.invalidFunction callee.calleeName arguments.length)]
  | .binary operator left right =>
    if operator ∈ operatorSymbols then offences whitelist left ++ offences whitelist right
    else [.fault (.invalidExpression (describe (.binary operator left right)))]
  | .absent => [.fault (.invalidExpression (describe .absent))]
  | .unary operator argument =>
    [.fault (.invalidExpression (describe (.unary operator argument)))]
  | .member object property =>
    [.fault (.invalidExpression (describe (.member object property)))]
  | .unsupported kind text => [.fault (.invalidExpression (describe (.unsupported kind text)))]

/-- The offences of expressions in order. -/
def offencesOfAll (whitelist : Whitelist) : List Node → List Offence
  | [] => []
  | node :: nodes => offences whitelist node ++ offencesOfAll whitelist nodes

end
end Node

/-- What is answered to a list of offences: all that counts is the first. -/
def Offence.answer : List Offence → Except ExpressionFault Bool
  | [] => .ok true
  | .nonNumeric :: _ => .ok false
  | .fault cause :: _ => .error cause

/-- The answer to two lists in a row is that to the first, unless there is nothing in it. -/
theorem Offence.answer_append (first second : List Offence) :
    answer (first ++ second) =
      match answer first with
      | .ok true => answer second
      | offence => offence := by
  cases first with
  | nil => rfl
  | cons offence rest => cases offence <;> rfl

/-- The symbols of the vocabulary are those that may stand between operands. -/
theorem ArithmeticOperator.exists_symbol {operator : String} :
    (∃ op : ArithmeticOperator, op.symbol = operator) ↔ operator ∈ operatorSymbols := by
  constructor
  · rintro ⟨op, rfl⟩
    cases op <;> decide
  · intro listed
    simp only [operatorSymbols, List.mem_cons, List.not_mem_nil, or_false] at listed
    obtain rfl | rfl | rfl | rfl := listed
    · exact ⟨.add, rfl⟩
    · exact ⟨.subtract, rfl⟩
    · exact ⟨.multiply, rfl⟩
    · exact ⟨.divide, rfl⟩

namespace Node

/-- The functions of the vocabulary are those that may be called. -/
theorem exists_function {callee : Node} {arguments : Nat} :
    (∃ f : FormulaFunction, callee = .identifier f.name ∧ f.arity = arguments) ↔
      callee.IsCallable arguments := by
  constructor
  · rintro ⟨f, rfl, rfl⟩
    cases f <;> decide
  · intro callable
    cases callee with
    | identifier name =>
      simp only [IsCallable, callableNames, List.mem_cons, Prod.mk.injEq, List.not_mem_nil,
        or_false] at callable
      obtain ⟨rfl, rfl⟩ | ⟨rfl, rfl⟩ | ⟨rfl, rfl⟩ := callable
      · exact ⟨.exp, rfl, rfl⟩
      · exact ⟨.sigmoid, rfl, rfl⟩
      · exact ⟨.expDecay, rfl, rfl⟩
    | _ => exact callable.elim

/-- The fault of a call that is none of a function names its callee and counts its arguments. -/
theorem callFault?_of_not_isCallable {callee : Node} {arguments : Nat}
    (refused : ¬callee.IsCallable arguments) :
    callFault? callee arguments = some (.invalidFunction callee.calleeName arguments) := by
  have faulty : callFault? callee arguments ≠ none := by
    rw [Ne, callFault?_eq_none, exists_function]
    exact refused
  cases callee with
  | identifier name =>
    unfold callFault? at faulty ⊢
    dsimp only at faulty ⊢
    rw [calleeName]
    split at faulty
    · split at faulty
      · exact absurd rfl faulty
      · next apart => rw [if_neg apart]
    · rfl
  | _ => rfl

/-- Expressions are validated one by one, so the first offence of all of them decides. -/
theorem validateAll_eq_answer {whitelist : Whitelist} {nodes : List Node}
    (each : ∀ node ∈ nodes, node.validate whitelist = Offence.answer (node.offences whitelist)) :
    validateAll whitelist nodes = Offence.answer (offencesOfAll whitelist nodes) := by
  induction nodes with
  | nil => rfl
  | cons node nodes ih =>
    obtain ⟨here, rest⟩ := List.forall_mem_cons.mp each
    rewrite [validateAll, offencesOfAll, Offence.answer_append, here, ih rest]
    rfl

/-- Validation answers by the first offence of an expression and by nothing else: `true` if
there is none, `false` if it is a literal that is no number, and otherwise exactly its fault. -/
theorem validate_eq_first_offence (whitelist : Whitelist) (node : Node) :
    node.validate whitelist =
      match node.offences whitelist with
      | [] => .ok true
      | .nonNumeric :: _ => .ok false
      | .fault cause :: _ => .error cause := by
  show node.validate whitelist = Offence.answer (node.offences whitelist)
  induction node with
  | literal value => cases value <;> rfl
  | identifier name =>
    rw [validate, offences, Whitelist.contains]
    by_cases listed : name ∈ whitelist.names
    · rw [if_pos listed, if_pos (List.contains_iff_mem.mpr listed)]
      rfl
    · rw [if_neg listed, if_neg (mt List.contains_iff_mem.mp listed)]
      rfl
  | binary operator left right leftClaim rightClaim =>
    rw [validate, offences]
    by_cases known : operator ∈ operatorSymbols
    · obtain ⟨op, rfl⟩ := ArithmeticOperator.exists_symbol.mpr known
      rewrite [if_pos known, ArithmeticOperator.ofSymbol?_eq_some.mpr rfl, Offence.answer_append,
        leftClaim, rightClaim]
      rfl
    · rw [if_neg known]
      have unknown : ArithmeticOperator.ofSymbol? operator = none := by
        cases found : ArithmeticOperator.ofSymbol? operator with
        | none => rfl
        | some op =>
          have symbol := ArithmeticOperator.ofSymbol?_eq_some.mp found
          exact absurd (ArithmeticOperator.exists_symbol.mp ⟨op, symbol⟩) known
      rw [unknown]
      rfl
  | call callee arguments _ argumentClaim =>
    rw [validate, offences]
    by_cases callable : callee.IsCallable arguments.length
    · rw [if_pos callable, callFault?_eq_none.mpr (exists_function.mpr callable)]
      exact validateAll_eq_answer argumentClaim
    · rw [if_neg callable, callFault?_of_not_isCallable callable]
      rfl
  | _ => rfl

end Node
end RankFormula
