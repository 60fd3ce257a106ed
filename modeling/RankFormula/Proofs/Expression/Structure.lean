import RankFormula.Expression.Lowering

/-!
# The structure of expressions

What every proof about expressions goes by: an induction in which a call may use the
claim about each of its arguments, the functions on argument lists as functions on
their members, and the vocabulary by its names. The definitions of the library
recurse through lists of their own; none of the later proofs looks at that again. Names that
are collected one after another are known by their members only.
-/

namespace RankFormula

/-- Where each step adds its member and nothing else, all members are added and nothing else. -/
theorem mem_foldl_of_adds {α : Type} {add : List α → α → List α}
    (adds : ∀ {kept : List α} {member other : α},
      other ∈ add kept member ↔ other ∈ kept ∨ other = member)
    {members kept : List α} {other : α} :
    other ∈ members.foldl add kept ↔ other ∈ kept ∨ other ∈ members := by
  induction members generalizing kept with
  | nil => simp
  | cons first members ih => rw [List.foldl_cons, ih, adds, List.mem_cons, or_assoc]

namespace Node

/-- Induction over expressions: the claim for a call may use the claim for its callee
and for each of its arguments. -/
@[elab_as_elim, induction_eliminator]
theorem inductArguments {motive : Node → Prop} (absent : motive .absent)
    (literal : ∀ value, motive (.literal value)) (identifier : ∀ name, motive (.identifier name))
    (malformedName : ∀ name, motive (.malformedName name))
    (binary : ∀ operator left right, motive left → motive right →
      motive (.binary operator left right))
    (call : ∀ callee arguments, motive callee → (∀ argument ∈ arguments, motive argument) →
      motive (.call callee arguments))
    (unary : ∀ operator argument, motive argument → motive (.unary operator argument))
    (member : ∀ object property, motive object → motive property →
      motive (.member object property))
    (unsupported : ∀ kind text, motive (.unsupported kind text)) : ∀ node, motive node
  | .absent => absent
  | .literal value => literal value
  | .identifier name => identifier name
  | .malformedName name => malformedName name
  | .binary operator left right =>
    binary operator left right
      (inductArguments absent literal identifier malformedName binary call unary member
        unsupported left)
      (inductArguments absent literal identifier malformedName binary call unary member
        unsupported right)
  | .call callee arguments =>
    call callee arguments
      (inductArguments absent literal identifier malformedName binary call unary member
        unsupported callee)
      (fun argument _ => inductArguments absent literal identifier malformedName binary call
        unary member unsupported argument)
  | .unary operator argument =>
    unary operator argument
      (inductArguments absent literal identifier malformedName binary call unary member
        unsupported argument)
  | .member object property =>
    member object property
      (inductArguments absent literal identifier malformedName binary call unary member
        unsupported object)
      (inductArguments absent literal identifier malformedName binary call unary member
        unsupported property)
  | .unsupported kind text => unsupported kind text

/-- Expressions are lowered one by one. -/
theorem lowerAll_eq_map (nodes : List Node) : lowerAll nodes = nodes.map lower := by
  induction nodes with
  | nil => rfl
  | cons node nodes ih => rw [lowerAll, ih, List.map_cons]

/-- Expressions are valid together exactly if each of them is. -/
theorem validateAll_eq_ok_true (whitelist : Whitelist) (nodes : List Node) :
    validateAll whitelist nodes = .ok true ↔
      ∀ node ∈ nodes, node.validate whitelist = .ok true := by
  induction nodes with
  | nil => simp [validateAll]
  | cons node nodes ih =>
    rw [validateAll, List.forall_mem_cons, ← ih]
    split
    · next valid => simp [valid]
    · next invalid => exact iff_of_false invalid (fun both => invalid both.1)

/-- The fault of expressions is that of one of them. -/
theorem exists_of_validateAll_error {whitelist : Whitelist} {nodes : List Node}
    {fault : ExpressionFault} (failed : validateAll whitelist nodes = .error fault) :
    ∃ node ∈ nodes, node.validate whitelist = .error fault := by
  induction nodes with
  | nil => cases failed
  | cons node nodes ih =>
    rw [validateAll] at failed
    split at failed
    · obtain ⟨found, member, invalid⟩ := ih failed
      exact ⟨found, List.mem_cons_of_mem _ member, invalid⟩
    · exact ⟨node, List.mem_cons_self, failed⟩

end Node

/-- The operator found by a symbol has that symbol. -/
theorem ArithmeticOperator.ofSymbol?_eq_some {symbol : String} {op : ArithmeticOperator} :
    ofSymbol? symbol = some op ↔ op.symbol = symbol := by
  constructor
  · intro found
    simpa using List.find?_some found
  · rintro rfl
    cases op <;> decide

/-- The function found by a name has that name. -/
theorem FormulaFunction.ofName?_eq_some {name : String} {f : FormulaFunction} :
    ofName? name = some f ↔ f.name = name := by
  constructor
  · intro found
    simpa using List.find?_some found
  · rintro rfl
    cases f <;> decide

/-- A function is found by its name. -/
@[simp] theorem FormulaFunction.ofName?_name (f : FormulaFunction) : ofName? f.name = some f :=
  ofName?_eq_some.mpr rfl

namespace Node

/-- A call is in the vocabulary exactly if its callee is the name of a function with
that many arguments. -/
theorem callFault?_eq_none {callee : Node} {arguments : Nat} :
    callFault? callee arguments = none ↔
      ∃ f : FormulaFunction, callee = .identifier f.name ∧ f.arity = arguments := by
  constructor
  · intro noFault
    cases callee with
    | identifier name =>
      cases found : FormulaFunction.ofName? name with
      | none => simp [callFault?, found] at noFault
      | some f =>
        have arity : f.arity = arguments := by simpa [callFault?, found] using noFault
        exact ⟨f, by rw [FormulaFunction.ofName?_eq_some.mp found], arity⟩
    | _ => simp [callFault?] at noFault
  · rintro ⟨f, rfl, rfl⟩
    simp [callFault?]

/-- A valid operation has an operator of the vocabulary and valid operands. -/
theorem validate_binary_eq_ok_true {whitelist : Whitelist} {operator : String}
    {left right : Node} :
    (binary operator left right).validate whitelist = .ok true ↔
      (∃ op : ArithmeticOperator, op.symbol = operator) ∧
        left.validate whitelist = .ok true ∧ right.validate whitelist = .ok true := by
  rw [validate]
  cases found : ArithmeticOperator.ofSymbol? operator with
  | none =>
    have unknown : ¬∃ op : ArithmeticOperator, op.symbol = operator := by
      rintro ⟨op, symbol⟩
      rw [ArithmeticOperator.ofSymbol?_eq_some.mpr symbol] at found
      contradiction
    simp [unknown]
  | some op =>
    have known : ∃ op : ArithmeticOperator, op.symbol = operator :=
      ⟨op, ArithmeticOperator.ofSymbol?_eq_some.mp found⟩
    simp only [known, true_and]
    split
    · next valid => simp [valid]
    · next invalid => exact iff_of_false invalid (fun both => invalid both.1)

/-- A valid call is one of a function with its number of valid arguments. -/
theorem validate_call_eq_ok_true {whitelist : Whitelist} {callee : Node}
    {arguments : List Node} :
    (call callee arguments).validate whitelist = .ok true ↔
      (∃ f : FormulaFunction, callee = .identifier f.name ∧ f.arity = arguments.length) ∧
        ∀ argument ∈ arguments, argument.validate whitelist = .ok true := by
  rw [validate, ← callFault?_eq_none, ← validateAll_eq_ok_true]
  cases callFault? callee arguments.length <;> simp

/-- The lowering of an operation of the vocabulary. -/
theorem lower_binary_symbol (op : ArithmeticOperator) (left right : Node) :
    (binary op.symbol left right).lower = .operation op left.lower right.lower := by
  rw [lower, ArithmeticOperator.ofSymbol?_eq_some.mpr rfl]

end Node
end RankFormula
