import RankFormula.Proofs.Expression.Derivation
import RankFormula.Proofs.Expression.Occurrence
import RankFormula.Proofs.Expression.Offences

/-!
# Placeholders in operator trees

Lowering answers a tree and a diagnosis side by side. `Node.places` says what the leaves of the
tree should be, read from left to right: values of their own, and gaps where a part of the
expression has no counterpart. `Node.inductLowering` is the induction that all proofs here go by:
it stops where `Node.LacksLowering` says that lowering has to stop.
-/

namespace RankFormula

namespace Value

/-- A value that is neither a text nor made of other values. -/
def IsScalar : Value → Prop
  | .null | .bool _ | .number _ | .date _ | .objectId _ => True
  | _ => False

mutual

/-- The leaves of a value in reading order. -/
def leaves : Value → List Value
  | .list items => leavesOfItems items
  | .object fields => leavesOfFields fields
  | .document fields => leavesOfFields fields
  | value => [value]

/-- The leaves of values in order. -/
def leavesOfItems : List Value → List Value
  | [] => []
  | item :: items => leaves item ++ leavesOfItems items

/-- The leaves of the values of named fields in order. -/
def leavesOfFields : List (String × Value) → List Value
  | [] => []
  | (_, value) :: fields => leaves value ++ leavesOfFields fields

end

/-- A scalar is its own leaf. -/
theorem IsScalar.leaves_eq {value : Value} (scalar : value.IsScalar) : value.leaves = [value] := by
  cases value <;> simp_all [IsScalar, leaves]

/-- A scalar is not the placeholder. -/
theorem IsScalar.ne_placeholder {value : Value} (scalar : value.IsScalar) :
    value ≠ placeholder := by
  rintro rfl
  exact scalar

/-- The leaves of operands are those of each of them in order. -/
theorem leaves_list (operands : List Value) : (list operands).leaves = operands.flatMap leaves := by
  have inOrder : leavesOfItems operands = operands.flatMap leaves := by
    induction operands with
    | nil => rfl
    | cons operand operands ih => rw [leavesOfItems, ih, List.flatMap_cons]
  rw [leaves, inOrder]

/-- The leaves of an operation on one operand are those of the operand. -/
theorem leaves_operand (name : String) (operand : Value) :
    (object [(name, operand)]).leaves = operand.leaves := by
  simp [leaves, leavesOfFields]

/-- The leaves of the tree of a decay are those of its value, minus one, and those of its rate and
its time. -/
theorem leaves_decay (valueTree rateTree elapsedTree : Value) :
    (object [(ArithmeticOperator.multiply.treeName, .list [valueTree,
      .object [(expTreeName, .object [(ArithmeticOperator.multiply.treeName,
        .list [minusOneTree, rateTree, elapsedTree])])]])]).leaves =
      valueTree.leaves ++ minusOneTree :: (rateTree.leaves ++ elapsedTree.leaves) := by
  have sign : minusOneTree.leaves = [minusOneTree] := rfl
  simp only [leaves_list, List.flatMap_cons, List.flatMap_nil, leaves_operand, sign,
    List.append_nil, List.singleton_append]

end Value

/-- The trees that lowering makes: those of formulas, with other scalars beside the numbers, with
any name referred to and with placeholders. Every operation has all its operands. -/
inductive CompleteTree : Value → Prop where
  /-- A scalar. -/
  | scalar {value : Value} (plain : value.IsScalar) : CompleteTree value
  /-- A reference to a field. -/
  | reference (name : String) : CompleteTree (.string ("$" ++ name))
  /-- A reference to a name with stray bytes. -/
  | malformedReference (name : RawText) : CompleteTree (.malformed ⟨.char '$' :: name.units⟩)
  /-- A placeholder. -/
  | gap : CompleteTree placeholder
  /-- An operation on two operands. -/
  | operation {name : String} {left right : Value}
    (known : name ∈ ["$add", "$subtract", "$multiply", "$divide"]) (first : CompleteTree left)
    (second : CompleteTree right) : CompleteTree (.object [(name, .list [left, right])])
  /-- An exponential of one operand. -/
  | exponential {operand : Value} (only : CompleteTree operand) :
    CompleteTree (.object [("$exp", operand)])
  /-- An exponential of a product of three operands, the first of which is minus one. -/
  | decay {rate elapsed : Value} (second : CompleteTree rate) (third : CompleteTree elapsed) :
    CompleteTree (.object [("$exp", .object [("$multiply", .list [minusOneTree, rate, elapsed])])])

/-- What has to stand at a leaf of an operator tree. -/
inductive Place where
  /-- A value of its own. -/
  | kept (leaf : Value)
  /-- What stands for a part without counterpart. -/
  | gap (part : Node)

namespace Place

/-- The leaf at a place. -/
def leaf : Place → Value
  | kept leaf => leaf
  | gap _ => placeholder

/-- The part that is missing at a place. -/
def gap? : Place → Option Node
  | kept _ => none
  | gap part => some part

end Place

namespace Node

/-- Lowering has to stop at an expression and leave a gap. -/
inductive LacksLowering : Node → Prop where
  /-- There is nothing to lower. -/
  | absent : LacksLowering .absent
  /-- The operator is not one of the four of arithmetic. -/
  | operator {operator : String} (left right : Node) (unknown : operator ∉ operatorSymbols) :
    LacksLowering (.binary operator left right)
  /-- The function has no counterpart, or one that uses more arguments than there are. -/
  | function {name : String} {arguments : List Node}
    (tooFewForExp : name = "exp" → arguments.length < 1)
    (tooFewForDecay : name = "exp_decay" → arguments.length < 3) :
    LacksLowering (.call (.identifier name) arguments)
  /-- No function has a name with stray bytes. -/
  | malformedFunction (name : RawText) (arguments : List Node) :
    LacksLowering (.call (.malformedName name) arguments)
  /-- The callee is no name. -/
  | callee {callee : Node} (arguments : List Node) (unnamed : ∀ name, callee ≠ .identifier name)
    (notMalformed : ∀ name, callee ≠ .malformedName name) : LacksLowering (.call callee arguments)
  /-- No operation takes one operand. -/
  | unary (operator : String) (argument : Node) : LacksLowering (.unary operator argument)
  /-- No operation takes a value apart. -/
  | member (object property : Node) : LacksLowering (.member object property)
  /-- The surface language has more constructs than formulas. -/
  | unsupported (kind text : String) : LacksLowering (.unsupported kind text)

/-- Lowering visits a part of an expression: it goes into both operands of an operation of
arithmetic, into the first argument of `exp` and into the first three of `exp_decay`. -/
inductive VisitedIn (part : Node) : Node → Prop where
  /-- The part is the expression itself. -/
  | here : VisitedIn part part
  /-- It is visited in the left operand. -/
  | left {operator : String} {left : Node} (right : Node) (known : operator ∈ operatorSymbols)
    (inside : VisitedIn part left) : VisitedIn part (.binary operator left right)
  /-- It is visited in the right operand. -/
  | right {operator : String} (left : Node) {right : Node} (known : operator ∈ operatorSymbols)
    (inside : VisitedIn part right) : VisitedIn part (.binary operator left right)
  /-- It is visited in the operand of an exponential. -/
  | exponential {operand : Node} (others : List Node) (inside : VisitedIn part operand) :
    VisitedIn part (.call (.identifier "exp") (operand :: others))
  /-- It is visited in one of the first three arguments of a decay. -/
  | decay {value rate elapsed argument : Node} (others : List Node)
    (used : argument ∈ [value, rate, elapsed]) (inside : VisitedIn part argument) :
    VisitedIn part (.call (.identifier "exp_decay") (value :: rate :: elapsed :: others))

mutual

/-- What has to stand at the leaves of the operator tree, in reading order. -/
def places : Node → List Place
  | .literal value => [.kept value]
  | .identifier name => [.kept (.string ("$" ++ name))]
  | .malformedName name => [.kept (.malformed ⟨.char '$' :: name.units⟩)]
  | .binary operator left right =>
    if operator ∈ operatorSymbols then places left ++ places right
    else [.gap (.binary operator left right)]
  | .call (.identifier name) arguments =>
    match name, placesOfEach arguments with
    | "exp", operand :: _ => operand
    | "exp_decay", value :: rate :: elapsed :: _ => value ++ .kept minusOneTree :: (rate ++ elapsed)
    | _, _ => [.gap (.call (.identifier name) arguments)]
  | node => [.gap node]

/-- What has to stand at the leaves of each tree. -/
def placesOfEach : List Node → List (List Place)
  | [] => []
  | node :: nodes => places node :: placesOfEach nodes

end

/-- The parts without counterpart, in reading order. -/
def gaps (node : Node) : List Node := node.places.filterMap Place.gap?

/-- How a diagnosis names a part without counterpart. -/
def reason : Node → Unlowered
  | .binary operator _ _ => .operator operator
  | .call (.identifier name) _ => .function name
  | .call (.malformedName name) _ => .function name.toString
  | .call callee _ => .callee callee.calleeName
  | node => .node node.describe

/-- Induction along lowering: an expression stands for itself, has a counterpart made of those of
the parts that are visited, or is a gap. -/
theorem inductLowering {motive : Node → Prop} (literal : ∀ value, motive (.literal value))
    (identifier : ∀ name, motive (.identifier name))
    (malformedName : ∀ name, motive (.malformedName name))
    (operation : ∀ (op : ArithmeticOperator) left right, motive left → motive right →
      motive (.binary op.symbol left right))
    (exponential : ∀ operand others, motive operand →
      motive (.call (.identifier "exp") (operand :: others)))
    (decay : ∀ value rate elapsed others, motive value → motive rate → motive elapsed →
      motive (.call (.identifier "exp_decay") (value :: rate :: elapsed :: others)))
    (gap : ∀ node, node.LacksLowering → motive node) (node : Node) : motive node := by
  induction node with
  | absent => exact gap _ .absent
  | literal value => exact literal value
  | identifier name => exact identifier name
  | malformedName name => exact malformedName name
  | binary operator left right leftClaim rightClaim =>
    by_cases known : operator ∈ operatorSymbols
    · obtain ⟨op, rfl⟩ := ArithmeticOperator.exists_symbol.mpr known
      exact operation op left right leftClaim rightClaim
    · exact gap _ (.operator left right known)
  | call callee arguments _ argumentClaim =>
    cases callee with
    | identifier name =>
      by_cases exponent : name = "exp" ∧ 1 ≤ arguments.length
      · obtain ⟨rfl, enough⟩ := exponent
        obtain ⟨operand, others, rfl⟩ := List.exists_cons_of_length_pos enough
        exact exponential operand others (argumentClaim operand (by simp))
      · by_cases decline : name = "exp_decay" ∧ 3 ≤ arguments.length
        · obtain ⟨rfl, enough⟩ := decline
          rcases arguments with _ | ⟨value, _ | ⟨rate, _ | ⟨elapsed, others⟩⟩⟩
          · simp at enough
          · simp at enough
          · simp at enough
          · exact decay value rate elapsed others (argumentClaim value (by simp))
              (argumentClaim rate (by simp)) (argumentClaim elapsed (by simp))
        · have tooFewForExp : name = "exp" → arguments.length < 1 :=
            fun named => Nat.lt_of_not_le fun enough => exponent ⟨named, enough⟩
          have tooFewForDecay : name = "exp_decay" → arguments.length < 3 :=
            fun named => Nat.lt_of_not_le fun enough => decline ⟨named, enough⟩
          exact gap _ (.function tooFewForExp tooFewForDecay)
    | malformedName name => exact gap _ (.malformedFunction name arguments)
    | _ => exact gap _ (.callee arguments (by simp) (by simp))
  | unary operator argument => exact gap _ (.unary operator argument)
  | member object property => exact gap _ (.member object property)
  | unsupported kind text => exact gap _ (.unsupported kind text)

section Equations

/-- Places are found expression by expression. -/
theorem placesOfEach_eq_map (nodes : List Node) : placesOfEach nodes = nodes.map places := by
  induction nodes with
  | nil => rfl
  | cons node nodes ih => rw [placesOfEach, ih, List.map_cons]

/-- The lowering of an exponential. -/
theorem lower_exponential (operand : Node) (others : List Node) :
    (call (.identifier "exp") (operand :: others)).lower = .exponential operand.lower := by
  have found : FormulaFunction.ofName? "exp" = some .exp := by decide
  simp only [lower, lowerAll, Lowered.call, found]

/-- The lowering of a decay. -/
theorem lower_decay (value rate elapsed : Node) (others : List Node) :
    (call (.identifier "exp_decay") (value :: rate :: elapsed :: others)).lower =
      .decay value.lower rate.lower elapsed.lower := by
  have found : FormulaFunction.ofName? "exp_decay" = some .expDecay := by decide
  simp only [lower, lowerAll, Lowered.call, found]

/-- The places of an operation. -/
theorem places_operation (op : ArithmeticOperator) (left right : Node) :
    (binary op.symbol left right).places = left.places ++ right.places := by
  rw [places, if_pos (ArithmeticOperator.exists_symbol.mp ⟨op, rfl⟩)]

/-- The places of an exponential. -/
theorem places_exponential (operand : Node) (others : List Node) :
    (call (.identifier "exp") (operand :: others)).places = operand.places := by
  simp only [places, placesOfEach]

/-- The places of a decay. -/
theorem places_decay (value rate elapsed : Node) (others : List Node) :
    (call (.identifier "exp_decay") (value :: rate :: elapsed :: others)).places =
      value.places ++ .kept minusOneTree :: (rate.places ++ elapsed.places) := by
  simp only [places, placesOfEach]

end Equations

namespace LacksLowering

variable {node : Node}

/-- The only place of a gap is its own. -/
theorem places_eq (lacks : node.LacksLowering) : node.places = [.gap node] := by
  cases lacks with
  | operator left right unknown => rw [places, if_neg unknown]
  | @function name arguments tooFewForExp tooFewForDecay =>
    have length : (placesOfEach arguments).length = arguments.length := by
      rw [placesOfEach_eq_map, List.length_map]
    rw [places]
    · intro operand others named used
      have few := tooFewForExp named
      rw [← length, used, List.length_cons] at few
      omega
    · intro value rate elapsed others named used
      have few := tooFewForDecay named
      rw [← length, used, List.length_cons, List.length_cons, List.length_cons] at few
      omega
  | @callee callee arguments unnamed notMalformed =>
    cases callee with
    | identifier name => exact absurd rfl (unnamed name)
    | _ => rfl
  | _ => rfl

/-- A gap is lowered to the placeholder, with the reason that belongs to it. -/
theorem lower_eq (lacks : node.LacksLowering) : node.lower = .without node.reason := by
  cases lacks with
  | @operator operator left right unknown =>
    have notFound : ArithmeticOperator.ofSymbol? operator = none := by
      rw [Option.eq_none_iff_forall_ne_some]
      intro op found
      have named := ArithmeticOperator.ofSymbol?_eq_some.mp found
      exact unknown (ArithmeticOperator.exists_symbol.mp ⟨op, named⟩)
    rw [lower, notFound, reason]
  | @function name arguments tooFewForExp tooFewForDecay =>
    rw [lower, lowerAll_eq_map, reason, Lowered.call]
    · intro operand others found used
      have named := FormulaFunction.ofName?_eq_some.mp found
      have few := tooFewForExp named.symm
      rw [← List.length_map (f := lower), used, List.length_cons] at few
      omega
    · intro value rate elapsed others found used
      have named := FormulaFunction.ofName?_eq_some.mp found
      have few := tooFewForDecay named.symm
      rw [← List.length_map (f := lower), used, List.length_cons, List.length_cons,
        List.length_cons] at few
      omega
  | @callee callee arguments unnamed notMalformed =>
    cases callee with
    | identifier name => exact absurd rfl (unnamed name)
    | malformedName name => exact absurd rfl (notMalformed name)
    | _ => rfl
  | _ => rfl

/-- Of a gap nothing but itself is visited. -/
theorem eq_of_visitedIn {part : Node} (lacks : node.LacksLowering) (visited : part.VisitedIn node) :
    part = node := by
  cases visited with
  | here => rfl
  | left _ known _ =>
    cases lacks with
    | operator _ _ unknown => exact absurd known unknown
  | right _ known _ =>
    cases lacks with
    | operator _ _ unknown => exact absurd known unknown
  | exponential others _ =>
    cases lacks with
    | function tooFewForExp _ =>
      have few := tooFewForExp rfl
      rw [List.length_cons] at few
      omega
    | callee _ unnamed _ => exact absurd rfl (unnamed "exp")
  | decay others _ _ =>
    cases lacks with
    | function _ tooFewForDecay =>
      have few := tooFewForDecay rfl
      rw [List.length_cons, List.length_cons, List.length_cons] at few
      omega
    | callee _ unnamed _ => exact absurd rfl (unnamed "exp_decay")

/-- A gap is its only gap. -/
theorem gaps_eq (lacks : node.LacksLowering) : node.gaps = [node] := by
  rw [gaps, lacks.places_eq]
  rfl

end LacksLowering

section Gaps

/-- The gaps of an operation are those of its operands in order. -/
theorem gaps_operation (op : ArithmeticOperator) (left right : Node) :
    (binary op.symbol left right).gaps = left.gaps ++ right.gaps := by
  rw [gaps, places_operation, List.filterMap_append]
  rfl

/-- The gaps of an exponential are those of its operand. -/
theorem gaps_exponential (operand : Node) (others : List Node) :
    (call (.identifier "exp") (operand :: others)).gaps = operand.gaps := by
  rw [gaps, places_exponential]
  rfl

/-- The gaps of a decay are those of its three operands in order. -/
theorem gaps_decay (value rate elapsed : Node) (others : List Node) :
    (call (.identifier "exp_decay") (value :: rate :: elapsed :: others)).gaps =
      value.gaps ++ (rate.gaps ++ elapsed.gaps) := by
  rw [gaps, places_decay, List.filterMap_append, List.filterMap_cons_none rfl,
    List.filterMap_append]
  rfl

variable {part node : Node}

/-- A gap is visited and lacks a counterpart. -/
theorem visited_of_mem_gaps (found : part ∈ node.gaps) :
    part.VisitedIn node ∧ part.LacksLowering := by
  induction node using inductLowering with
  | literal value => simp [gaps, places, Place.gap?] at found
  | identifier name => simp [gaps, places, Place.gap?] at found
  | malformedName name => simp [gaps, places, Place.gap?] at found
  | operation op left right leftClaim rightClaim =>
    have known : op.symbol ∈ operatorSymbols := ArithmeticOperator.exists_symbol.mp ⟨op, rfl⟩
    rw [gaps_operation, List.mem_append] at found
    rcases found with inLeft | inRight
    · exact ⟨.left right known (leftClaim inLeft).1, (leftClaim inLeft).2⟩
    · exact ⟨.right left known (rightClaim inRight).1, (rightClaim inRight).2⟩
  | exponential operand others operandClaim =>
    rw [gaps_exponential] at found
    exact ⟨.exponential others (operandClaim found).1, (operandClaim found).2⟩
  | decay value rate elapsed others valueClaim rateClaim elapsedClaim =>
    rw [gaps_decay, List.mem_append, List.mem_append] at found
    rcases found with inValue | inRate | inElapsed
    · exact ⟨.decay others (by simp) (valueClaim inValue).1, (valueClaim inValue).2⟩
    · exact ⟨.decay others (by simp) (rateClaim inRate).1, (rateClaim inRate).2⟩
    · exact ⟨.decay others (by simp) (elapsedClaim inElapsed).1, (elapsedClaim inElapsed).2⟩
  | gap node lacks =>
    rw [lacks.gaps_eq, List.mem_singleton] at found
    subst found
    exact ⟨.here, lacks⟩

/-- What is visited and lacks a counterpart is a gap. -/
theorem VisitedIn.mem_gaps (visited : part.VisitedIn node) (lacks : part.LacksLowering) :
    part ∈ node.gaps := by
  induction visited with
  | here => simp [lacks.gaps_eq]
  | left right known _ claim =>
    obtain ⟨op, rfl⟩ := ArithmeticOperator.exists_symbol.mpr known
    rw [gaps_operation]
    exact List.mem_append_left _ claim
  | right left known _ claim =>
    obtain ⟨op, rfl⟩ := ArithmeticOperator.exists_symbol.mpr known
    rw [gaps_operation]
    exact List.mem_append_right _ claim
  | exponential others _ claim =>
    rw [gaps_exponential]
    exact claim
  | decay others used _ claim =>
    rw [gaps_decay, List.mem_append, List.mem_append]
    simp only [List.mem_cons, List.not_mem_nil, or_false] at used
    obtain rfl | rfl | rfl := used
    · exact .inl claim
    · exact .inr (.inl claim)
    · exact .inr (.inr claim)

/-- The diagnosis is the reason of the first gap, if there is one. -/
theorem lower_missing_eq (node : Node) :
    node.lower.missing = node.gaps.head?.map reason := by
  induction node using inductLowering with
  | literal value => rfl
  | identifier name => rfl
  | malformedName name => rfl
  | operation op left right leftClaim rightClaim =>
    rw [lower_binary_symbol, gaps_operation, List.head?_append, Option.map_or, ← leftClaim,
      ← rightClaim]
    simp [Lowered.operation]
  | exponential operand others operandClaim =>
    rw [lower_exponential, gaps_exponential, ← operandClaim]
    rfl
  | decay value rate elapsed others valueClaim rateClaim elapsedClaim =>
    rw [lower_decay, gaps_decay, List.head?_append, List.head?_append, Option.map_or,
      Option.map_or, ← valueClaim, ← rateClaim, ← elapsedClaim]
    simp [Lowered.decay]
  | gap node lacks =>
    rw [lacks.lower_eq, lacks.gaps_eq]
    rfl

end Gaps

/-- All literals in an expression, at any depth, are scalars. -/
def HasScalarLiterals (node : Node) : Prop :=
  ∀ value, (literal value).OccursIn node → value.IsScalar

section Trees

variable {node : Node}

/-- The literals of a part are literals of the whole. -/
theorem HasScalarLiterals.of_occursIn {part : Node} (plain : node.HasScalarLiterals)
    (occurs : part.OccursIn node) : part.HasScalarLiterals :=
  fun value inside => plain value (inside.trans occurs)

/-- The tree of an expression is complete, gaps or not. -/
theorem completeTree_lower (plain : node.HasScalarLiterals) : CompleteTree node.lower.tree := by
  induction node using inductLowering with
  | literal value => exact .scalar (plain value .here)
  | identifier name => exact .reference name
  | malformedName name => exact .malformedReference name
  | operation op left right leftClaim rightClaim =>
    have known : op.treeName ∈ ["$add", "$subtract", "$multiply", "$divide"] := by
      cases op <;> decide
    have first := leftClaim (plain.of_occursIn (.left _ _ .here))
    have second := rightClaim (plain.of_occursIn (.right _ _ .here))
    rw [lower_binary_symbol]
    exact .operation known first second
  | exponential operand others operandClaim =>
    have only := operandClaim (plain.of_occursIn (.argument _ (by simp) .here))
    rw [lower_exponential]
    exact .exponential only
  | decay value rate elapsed others valueClaim rateClaim elapsedClaim =>
    have first := valueClaim (plain.of_occursIn (.argument _ (by simp) .here))
    have second := rateClaim (plain.of_occursIn (.argument _ (by simp) .here))
    have third := elapsedClaim (plain.of_occursIn (.argument _ (by simp) .here))
    rw [lower_decay]
    exact .operation (by decide) first (.decay second third)
  | gap node lacks =>
    rw [lacks.lower_eq]
    exact .gap

/-- The leaves of the tree are what has to stand there. -/
theorem leaves_lower (plain : node.HasScalarLiterals) :
    node.lower.tree.leaves = node.places.map Place.leaf := by
  induction node using inductLowering with
  | literal value => exact (plain value .here).leaves_eq
  | identifier name => rfl
  | malformedName name => rfl
  | operation op left right leftClaim rightClaim =>
    have first := leftClaim (plain.of_occursIn (.left _ _ .here))
    have second := rightClaim (plain.of_occursIn (.right _ _ .here))
    rw [lower_binary_symbol, places_operation, List.map_append, ← first, ← second]
    simp [Lowered.operation, Value.leaves_operand, Value.leaves_list]
  | exponential operand others operandClaim =>
    have only := operandClaim (plain.of_occursIn (.argument _ (by simp) .here))
    rw [lower_exponential, places_exponential, ← only]
    exact Value.leaves_operand _ _
  | decay value rate elapsed others valueClaim rateClaim elapsedClaim =>
    have first := valueClaim (plain.of_occursIn (.argument _ (by simp) .here))
    have second := rateClaim (plain.of_occursIn (.argument _ (by simp) .here))
    have third := elapsedClaim (plain.of_occursIn (.argument _ (by simp) .here))
    rw [lower_decay, places_decay, List.map_append, List.map_cons, List.map_append, ← first,
      ← second, ← third]
    exact Value.leaves_decay _ _ _
  | gap node lacks =>
    rw [lacks.lower_eq, lacks.places_eq]
    rfl

/-- What is kept is no placeholder. -/
theorem kept_ne_placeholder (plain : node.HasScalarLiterals) {leaf : Value}
    (found : .kept leaf ∈ node.places) : leaf ≠ placeholder := by
  induction node using inductLowering with
  | literal value =>
    obtain rfl : leaf = value := by simpa [places] using found
    exact (plain leaf .here).ne_placeholder
  | identifier name =>
    obtain rfl : leaf = .string ("$" ++ name) := by simpa [places] using found
    intro same
    have characters := congrArg String.toList (Value.string.inj same)
    simp at characters
  | malformedName name =>
    obtain rfl : leaf = .malformed ⟨.char '$' :: name.units⟩ := by simpa [places] using found
    simp [placeholder]
  | operation op left right leftClaim rightClaim =>
    rw [places_operation, List.mem_append] at found
    rcases found with inLeft | inRight
    · exact leftClaim (plain.of_occursIn (.left _ _ .here)) inLeft
    · exact rightClaim (plain.of_occursIn (.right _ _ .here)) inRight
  | exponential operand others operandClaim =>
    rw [places_exponential] at found
    exact operandClaim (plain.of_occursIn (.argument _ (by simp) .here)) found
  | decay value rate elapsed others valueClaim rateClaim elapsedClaim =>
    rw [places_decay, List.mem_append, List.mem_cons, List.mem_append] at found
    rcases found with inValue | sign | inRate | inElapsed
    · exact valueClaim (plain.of_occursIn (.argument _ (by simp) .here)) inValue
    · obtain rfl : leaf = minusOneTree := by simpa using sign
      simp [minusOneTree, placeholder]
    · exact rateClaim (plain.of_occursIn (.argument _ (by simp) .here)) inRate
    · exact elapsedClaim (plain.of_occursIn (.argument _ (by simp) .here)) inElapsed
  | gap node lacks => simp [lacks.places_eq] at found

end Trees

/-- Placeholders and diagnosis tell the same gaps. Whatever the expression, valid or not, as long as
its literals are scalars, the tree is complete; its leaves in reading order are what `places` asks
for, and those leaves are placeholders that stand for gaps. The gaps are the parts without
counterpart among those that lowering visits, and inside a gap it visits nothing. The diagnosis is
empty exactly if no leaf is a placeholder, and otherwise it is the reason of the leftmost gap. -/
theorem placeholders_mark_gaps {node : Node} (plain : node.HasScalarLiterals) :
    CompleteTree node.lower.tree ∧
      node.lower.tree.leaves = node.places.map Place.leaf ∧
      (∀ index : Nat, node.lower.tree.leaves[index]? = some placeholder ↔
        ∃ part, node.places[index]? = some (.gap part)) ∧
      (∀ part, part ∈ node.gaps ↔ part.VisitedIn node ∧ part.LacksLowering) ∧
      (∀ gap ∈ node.gaps, ∀ part : Node, part.VisitedIn gap → part = gap) ∧
      (node.lower.missing = none ↔ placeholder ∉ node.lower.tree.leaves) ∧
      node.lower.missing = node.gaps.head?.map reason := by
  have leaves := leaves_lower plain
  have standsForGap (index : Nat) : node.lower.tree.leaves[index]? = some placeholder ↔
      ∃ part, node.places[index]? = some (.gap part) := by
    rw [leaves, List.getElem?_map, Option.map_eq_some_iff]
    constructor
    · rintro ⟨place, found, shown⟩
      cases place with
      | kept leaf => exact absurd shown (kept_ne_placeholder plain (List.mem_of_getElem? found))
      | gap part => exact ⟨part, found⟩
    · rintro ⟨part, found⟩
      exact ⟨.gap part, found, rfl⟩
  refine ⟨completeTree_lower plain, leaves, standsForGap, fun part => ⟨visited_of_mem_gaps,
    fun ⟨visited, lacks⟩ => visited.mem_gaps lacks⟩, ?_, ?_, lower_missing_eq node⟩
  · intro gap found part visited
    exact (visited_of_mem_gaps found).2.eq_of_visitedIn visited
  · have complete : node.lower.missing = none ↔ node.gaps = [] := by
      rw [lower_missing_eq, Option.map_eq_none_iff, List.head?_eq_none_iff]
    rw [complete, gaps, List.filterMap_eq_nil_iff, leaves]
    constructor
    · intro noGap shown
      obtain ⟨place, member, standsFor⟩ := List.mem_map.mp shown
      cases place with
      | kept leaf => exact kept_ne_placeholder plain member standsFor
      | gap part => simpa [Place.gap?] using noGap _ member
    · intro noPlaceholder place member
      cases place with
      | kept leaf => rfl
      | gap part => exact absurd (List.mem_map.mpr ⟨_, member, rfl⟩) noPlaceholder

/-- In `exp_decay(sigmoid(likes), age, -likes) + likes % 2` there are three gaps; the second
argument of the decay and the sign that it brings along are kept. -/
theorem placeholders_mark_gaps_decay :
    let likes : Node := .identifier "likes"
    let sigmoid : Node := .call (.identifier "sigmoid") [likes]
    let minus : Node := .unary "-" likes
    let rest : Node := .binary "%" likes (.literal (.int 2))
    let node : Node := .binary "+"
      (.call (.identifier "exp_decay") [sigmoid, .identifier "age", minus]) rest
    node.HasScalarLiterals ∧ node.gaps = [sigmoid, minus, rest] ∧
      CompleteTree node.lower.tree ∧
      node.lower.tree.leaves =
        [placeholder, minusOneTree, .string "$age", placeholder, placeholder] ∧
      placeholder ∈ node.lower.tree.leaves ∧
      node.lower.missing = some (.function "sigmoid") := by
  intro likes sigmoid minus rest node
  have plain : node.HasScalarLiterals := by
    intro value occurs
    have isTwo : value = .int 2 := by
      simpa [node, rest, minus, sigmoid, likes] using occurs
    rw [isTwo]
    trivial
  have gaps : node.gaps = [sigmoid, minus, rest] := by rfl
  obtain ⟨complete, leaves, -, -, -, silent, diagnosis⟩ := placeholders_mark_gaps plain
  rw [gaps] at diagnosis
  refine ⟨plain, gaps, complete, leaves, ?_, diagnosis⟩
  by_contra noPlaceholder
  rw [silent.mpr noPlaceholder] at diagnosis
  cases diagnosis

end Node
end RankFormula
