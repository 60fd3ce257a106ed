import Mathlib.Logic.Basic
import RankFormula.Proofs.Expression.Occurrence
import RankFormula.Proofs.Expression.Offences
import RankFormula.Surface.Conversion

/-!
# What conversion lets through

The language has many more constructs than formulas, and conversion rewrites some of them: calls
of its own functions become calls, chains disappear, and texts behind a point become names.
`Term.validate_toNode_iff` says that none of this makes a formula of anything else than arithmetic:
`Term.IsArithmetic` are the terms, chains aside, whose expressions are valid. The induction goes
by the constructs that have an expression of their own (`Term.inductConverted`); all others are
one case.
-/

namespace RankFormula

/-- What conversion may put into an expression: some node, and of all numbers only floating ones
of 64 bits. -/
structure Node.IsConverted (part : Node) : Prop where
  /-- There is a node. -/
  present : part ≠ .absent
  /-- A number is a floating one of 64 bits. -/
  double : ∀ n : Number, part = .literal (.number n) → ∃ x, n = .double x

/-- A name is converted, with stray bytes or without. -/
theorem Node.isConverted_named (name : RawText) : (named name).IsConverted := by
  unfold named
  split <;> exact ⟨nofun, nofun⟩

/-- What occurs in a name is the name. -/
theorem Node.occursIn_named {part : Node} {name : RawText} :
    part.OccursIn (named name) ↔ part = named name := by
  unfold named
  split
  · exact occursIn_identifier
  · exact occursIn_malformedName

namespace Surface

mutual

/-- A term without the chains around it and around its parts. -/
def Term.withoutChains : Term → Term
  | .nil => .nil
  | .integer n => .integer n
  | .float x => .float x
  | .text s => .text s
  | .bool b => .bool b
  | .name s => .name s
  | .unary operator operand => .unary operator operand.withoutChains
  | .binary operator left right => .binary operator left.withoutChains right.withoutChains
  | .call callee arguments => .call callee.withoutChains (allWithoutChains arguments)
  | .builtin name arguments => .builtin name (allWithoutChains arguments)
  | .member object property whenPresent =>
    .member object.withoutChains property.withoutChains whenPresent
  | .chain inner => inner.withoutChains
  | .slice object first last =>
    .slice object.withoutChains (boundWithoutChains first) (boundWithoutChains last)
  | .closure body => .closure body.withoutChains
  | .pointer name => .pointer name
  | .conditional condition yes no =>
    .conditional condition.withoutChains yes.withoutChains no.withoutChains
  | .binding name value body => .binding name value.withoutChains body.withoutChains
  | .array items => .array (allWithoutChains items)
  | .record entries => .record (allWithoutChains entries)
  | .pair key value => .pair key.withoutChains value.withoutChains
  | .constant printed => .constant printed

/-- Terms without chains. -/
def allWithoutChains : List Term → List Term
  | [] => []
  | term :: terms => term.withoutChains :: allWithoutChains terms

/-- The bound of a section without chains. -/
def boundWithoutChains : Option Term → Option Term
  | none => none
  | some term => some term.withoutChains

end

/-- Chains are taken away from terms one by one. -/
theorem allWithoutChains_eq_map (terms : List Term) :
    allWithoutChains terms = terms.map Term.withoutChains := by
  induction terms with
  | nil => rfl
  | cons term terms ih => rw [allWithoutChains, ih, List.map_cons]

/-- The terms of arithmetic: numbers, variables of the whitelist, the four operators, and calls of
the functions with their numbers of arguments. -/
inductive Term.IsArithmetic (whitelist : Whitelist) : Term → Prop where
  /-- A whole number. -/
  | integer (n : Int) : IsArithmetic whitelist (.integer n)
  /-- A number with a point or an exponent. -/
  | float (x : Floating) : IsArithmetic whitelist (.float x)
  /-- A variable of the whitelist. -/
  | name {name : String} (listed : whitelist.contains name = true) :
    IsArithmetic whitelist (.name name)
  /-- One of the four operators between two terms. -/
  | binary {operator : String} {left right : Term} (known : operator ∈ operatorSymbols)
    (first : IsArithmetic whitelist left) (second : IsArithmetic whitelist right) :
    IsArithmetic whitelist (.binary operator left right)
  /-- A call of a name. -/
  | call {name : String} {arguments : List Term}
    (callable : (name, arguments.length) ∈ callableNames)
    (each : ∀ argument ∈ arguments, IsArithmetic whitelist argument) :
    IsArithmetic whitelist (.call (.name name) arguments)
  /-- A call of a function of the language. -/
  | builtin {name : String} {arguments : List Term}
    (callable : (name, arguments.length) ∈ callableNames)
    (each : ∀ argument ∈ arguments, IsArithmetic whitelist argument) :
    IsArithmetic whitelist (.builtin name arguments)

/-- Induction over terms by their expressions: the claim for a construct may use the claim for
each part that has an expression, and constructs without an expression of their own are one
case. -/
@[elab_as_elim]
theorem Term.inductConverted {motive : Term → Prop} (integer : ∀ n, motive (.integer n))
    (float : ∀ x, motive (.float x)) (text : ∀ s, motive (.text s)) (bool : ∀ b, motive (.bool b))
    (name : ∀ s, motive (.name s))
    (unary : ∀ operator operand, motive operand → motive (.unary operator operand))
    (binary : ∀ operator left right, motive left → motive right →
      motive (.binary operator left right))
    (call : ∀ callee arguments, motive callee → (∀ argument ∈ arguments, motive argument) →
      motive (.call callee arguments))
    (builtin : ∀ name arguments, (∀ argument ∈ arguments, motive argument) →
      motive (.builtin name arguments))
    (member : ∀ object property whenPresent, motive object → motive property →
      motive (.member object property whenPresent))
    (chain : ∀ inner, motive inner → motive (.chain inner))
    (unsupported : ∀ term : Term, term.kindLabel ≠ "" → motive term) : ∀ term, motive term
  | .integer n => integer n
  | .float x => float x
  | .text s => text s
  | .bool b => bool b
  | .name s => name s
  | .unary operator operand =>
    unary operator operand
      (inductConverted integer float text bool name unary binary call builtin member chain
        unsupported operand)
  | .binary operator left right =>
    binary operator left right
      (inductConverted integer float text bool name unary binary call builtin member chain
        unsupported left)
      (inductConverted integer float text bool name unary binary call builtin member chain
        unsupported right)
  | .call callee arguments =>
    call callee arguments
      (inductConverted integer float text bool name unary binary call builtin member chain
        unsupported callee)
      (fun argument _ => inductConverted integer float text bool name unary binary call builtin
        member chain unsupported argument)
  | .builtin function arguments =>
    builtin function arguments
      (fun argument _ => inductConverted integer float text bool name unary binary call builtin
        member chain unsupported argument)
  | .member object property whenPresent =>
    member object property whenPresent
      (inductConverted integer float text bool name unary binary call builtin member chain
        unsupported object)
      (inductConverted integer float text bool name unary binary call builtin member chain
        unsupported property)
  | .chain inner =>
    chain inner
      (inductConverted integer float text bool name unary binary call builtin member chain
        unsupported inner)
  | .nil => unsupported _ (by decide)
  | .slice _ _ _ => unsupported _ (by simp [Term.kindLabel])
  | .closure _ => unsupported _ (by simp [Term.kindLabel])
  | .pointer _ => unsupported _ (by simp [Term.kindLabel])
  | .conditional _ _ _ => unsupported _ (by simp [Term.kindLabel])
  | .binding _ _ _ => unsupported _ (by simp [Term.kindLabel])
  | .array _ => unsupported _ (by simp [Term.kindLabel])
  | .record _ => unsupported _ (by simp [Term.kindLabel])
  | .pair _ _ => unsupported _ (by simp [Term.kindLabel])
  | .constant _ => unsupported _ (by simp [Term.kindLabel])

/-- The expressions of terms are made one by one. -/
theorem Term.nodesOf_eq_map (terms : List Term) : nodesOf terms = terms.map toNode := by
  induction terms with
  | nil => rfl
  | cons term terms ih => rw [nodesOf, ih, List.map_cons]

/-- A construct without an expression of its own becomes one that no formula holds. -/
theorem Term.toNode_of_kindLabel {term : Term} (labelled : term.kindLabel ≠ "") :
    term.toNode = .unsupported term.kindLabel term.print := by
  cases term <;> first | rfl | exact absurd rfl labelled

/-- A construct without an expression of its own is no arithmetic. -/
theorem Term.not_isArithmetic_of_kindLabel {term : Term} (labelled : term.kindLabel ≠ "")
    {whitelist : Whitelist} : ¬term.withoutChains.IsArithmetic whitelist := by
  intro arithmetic
  cases term <;> first | exact absurd rfl labelled | cases arithmetic

section Calls

variable {whitelist : Whitelist} {name : String} {arguments : List Term}

/-- A call of a name is valid exactly if it may be called with that many arguments, each of which
is valid. -/
theorem validate_call_name : (Node.call (.identifier name) (nodesOf arguments)).validate whitelist =
    .ok true ↔ (name, arguments.length) ∈ callableNames ∧
      ∀ argument ∈ arguments, argument.toNode.validate whitelist = .ok true := by
  rw [Node.validate_call_eq_ok_true, Node.exists_function, Term.nodesOf_eq_map, List.length_map,
    List.forall_mem_map]
  rfl

/-- A call that is valid argument by argument is arithmetic argument by argument. -/
theorem callable_iff_of_forall
    (each : ∀ argument ∈ arguments, argument.toNode.validate whitelist = .ok true ↔
      argument.withoutChains.IsArithmetic whitelist) :
    (Node.call (.identifier name) (nodesOf arguments)).validate whitelist = .ok true ↔
      (name, (allWithoutChains arguments).length) ∈ callableNames ∧
        ∀ argument ∈ allWithoutChains arguments, argument.IsArithmetic whitelist := by
  rw [validate_call_name, allWithoutChains_eq_map, List.length_map, List.forall_mem_map]
  exact and_congr_right fun _ => forall₂_congr each

end Calls

/-- A term becomes a name exactly if it is that variable, chains aside. -/
theorem Term.toNode_eq_identifier {term : Term} {name : String} :
    term.toNode = .identifier name ↔ term.withoutChains = .name name := by
  induction term using Term.inductConverted with
  | name s => simp [toNode, withoutChains]
  | chain inner claim => exact claim
  | member object property whenPresent _ _ =>
    apply iff_of_false
    · cases property <;> simp [toNode]
    · simp [withoutChains]
  | unsupported term labelled =>
    apply iff_of_false
    · simp [toNode_of_kindLabel labelled]
    · cases term <;> first | exact absurd rfl labelled | simp [withoutChains]
  | _ => simp [toNode, withoutChains]

/-- A term has a valid expression exactly if it is arithmetic, chains aside. -/
theorem Term.validate_toNode_iff (term : Term) (whitelist : Whitelist) :
    term.toNode.validate whitelist = .ok true ↔ term.withoutChains.IsArithmetic whitelist := by
  induction term using Term.inductConverted with
  | integer n => exact iff_of_true rfl (.integer n)
  | float x => exact iff_of_true rfl (.float x)
  | text s =>
    apply iff_of_false
    · rw [toNode, Value.ofRaw]
      split <;> simp [Node.validate, Value.isNumber]
    · rintro ⟨⟩
  | bool b =>
    apply iff_of_false
    · simp [toNode, Node.validate, Value.isNumber]
    · rintro ⟨⟩
  | name s =>
    rw [toNode, withoutChains, Node.validate]
    constructor
    · intro valid
      apply IsArithmetic.name
      simpa using valid
    · rintro ⟨⟩
      next listed => rw [if_pos listed]
  | unary operator operand _ =>
    apply iff_of_false
    · simp [toNode, Node.validate]
    · rintro ⟨⟩
  | binary operator left right leftClaim rightClaim =>
    rw [toNode, withoutChains, Node.validate_binary_eq_ok_true, ArithmeticOperator.exists_symbol,
      leftClaim, rightClaim]
    constructor
    · rintro ⟨known, first, second⟩
      exact .binary known first second
    · rintro ⟨⟩
      exact ⟨by assumption, by assumption, by assumption⟩
  | call callee arguments _ argumentClaim =>
    rw [toNode, withoutChains]
    cases converted : callee.toNode with
    | identifier name =>
      rw [toNode_eq_identifier.mp converted, callable_iff_of_forall argumentClaim]
      constructor
      · rintro ⟨callable, each⟩
        exact .call callable each
      · rintro ⟨⟩
        exact ⟨by assumption, by assumption⟩
    | _ =>
      apply iff_of_false
      · rw [Node.validate_call_eq_ok_true, Node.exists_function]
        exact fun valid => valid.1.elim
      · generalize plain : callee.withoutChains = bare
        intro arithmetic
        cases arithmetic
        rw [toNode_eq_identifier.mpr plain] at converted
        cases converted
  | builtin function arguments argumentClaim =>
    rw [toNode, withoutChains, callable_iff_of_forall argumentClaim]
    constructor
    · rintro ⟨callable, each⟩
      exact .builtin callable each
    · rintro ⟨⟩
      exact ⟨by assumption, by assumption⟩
  | member object property whenPresent _ _ =>
    apply iff_of_false
    · cases property <;> simp [toNode, Node.validate]
    · rintro ⟨⟩
  | chain inner claim => exact claim
  | unsupported term labelled =>
    apply iff_of_false
    · rw [toNode_of_kindLabel labelled]
      simp [Node.validate]
    · exact not_isArithmetic_of_kindLabel labelled

/-- The property of an access becomes its expression, or a name if it is a text. -/
theorem Term.toNode_member (object property : Term) (whenPresent : Bool) :
    ∃ node : Node, (member object property whenPresent).toNode = .member object.toNode node ∧
      (node = property.toNode ∨ ∃ name, node = .named name) := by
  cases property with
  | text s => exact ⟨.named s, rfl, .inr ⟨s, rfl⟩⟩
  | _ => exact ⟨_, rfl, .inl rfl⟩

/-- Everything that occurs in a call is converted if its callee and its arguments are. -/
theorem isConverted_of_occursIn_call {callee part : Node} {arguments : List Term}
    (inCallee : ∀ part : Node, part.OccursIn callee → part.IsConverted)
    (inArguments : ∀ argument ∈ arguments,
      ∀ part : Node, part.OccursIn argument.toNode → part.IsConverted)
    (occurs : part.OccursIn (.call callee (nodesOf arguments))) : part.IsConverted := by
  rw [Term.nodesOf_eq_map] at occurs
  obtain rfl | inside | ⟨node, member, inside⟩ := Node.occursIn_call.mp occurs
  · exact ⟨nofun, nofun⟩
  · exact inCallee part inside
  · obtain ⟨argument, given, rfl⟩ := List.mem_map.mp member
    exact inArguments argument given part inside

/-- Everything that occurs in the expression of a term is converted. -/
theorem Term.isConverted_of_occursIn (term : Term) :
    ∀ part : Node, part.OccursIn term.toNode → part.IsConverted := by
  induction term using Term.inductConverted with
  | integer n =>
    intro part occurs
    rw [Node.occursIn_literal.mp occurs]
    refine ⟨nofun, fun m same => ⟨.ofInt .double n, ?_⟩⟩
    cases same
    rfl
  | float x =>
    intro part occurs
    rw [Node.occursIn_literal.mp occurs]
    refine ⟨nofun, fun m same => ⟨x, ?_⟩⟩
    cases same
    rfl
  | text s =>
    intro part occurs
    rw [Node.occursIn_literal.mp occurs]
    refine ⟨nofun, fun m same => ?_⟩
    have value : Value.ofRaw s = .number m := Node.literal.inj same
    unfold Value.ofRaw at value
    split at value <;> cases value
  | bool b =>
    intro part occurs
    rw [Node.occursIn_literal.mp occurs]
    exact ⟨nofun, nofun⟩
  | name s =>
    intro part occurs
    rw [Node.occursIn_identifier.mp occurs]
    exact ⟨nofun, nofun⟩
  | unary operator operand claim =>
    intro part occurs
    rw [toNode] at occurs
    obtain rfl | inside := Node.occursIn_unary.mp occurs
    · exact ⟨nofun, nofun⟩
    · exact claim part inside
  | binary operator left right leftClaim rightClaim =>
    intro part occurs
    rw [toNode] at occurs
    obtain rfl | inLeft | inRight := Node.occursIn_binary.mp occurs
    · exact ⟨nofun, nofun⟩
    · exact leftClaim part inLeft
    · exact rightClaim part inRight
  | call callee arguments calleeClaim argumentClaim =>
    intro part occurs
    exact isConverted_of_occursIn_call calleeClaim argumentClaim occurs
  | builtin function arguments argumentClaim =>
    intro part occurs
    refine isConverted_of_occursIn_call (fun part occurs => ?_) argumentClaim occurs
    rw [Node.occursIn_identifier.mp occurs]
    exact ⟨nofun, nofun⟩
  | member object property whenPresent objectClaim propertyClaim =>
    intro part occurs
    obtain ⟨node, converted, form⟩ := toNode_member object property whenPresent
    rw [converted] at occurs
    obtain rfl | inObject | inProperty := Node.occursIn_member.mp occurs
    · exact ⟨nofun, nofun⟩
    · exact objectClaim part inObject
    · obtain rfl | ⟨name, rfl⟩ := form
      · exact propertyClaim part inProperty
      · rw [Node.occursIn_named.mp inProperty]
        exact Node.isConverted_named name
  | chain inner claim => exact claim
  | unsupported term labelled =>
    intro part occurs
    rw [toNode_of_kindLabel labelled] at occurs
    rw [Node.occursIn_unsupported.mp occurs]
    exact ⟨nofun, nofun⟩

/-- Nothing but arithmetic gets through conversion and validation. The expression of a term is
valid under a whitelist exactly if the term, taken without its chains, consists of numbers,
variables of the whitelist, the four operators, and calls of the functions, by name or as functions
of the language, with their numbers of arguments. Whatever the term is, a node stands everywhere
in its expression, and every number there is a floating one of 64 bits. -/
theorem Term.conversion_admits_arithmetic (term : Term) (whitelist : Whitelist) :
    (term.toNode.validate whitelist = .ok true ↔ term.withoutChains.IsArithmetic whitelist) ∧
    ∀ part : Node, part.OccursIn term.toNode →
      part ≠ .absent ∧ ∀ n : Number, part = .literal (.number n) → ∃ x, n = .double x := by
  refine ⟨term.validate_toNode_iff whitelist, fun part occurs => ?_⟩
  have converted := term.isConverted_of_occursIn part occurs
  exact ⟨converted.present, converted.double⟩

end Surface
end RankFormula
