import RankFormula.Expression.Report
import RankFormula.Proofs.Expression.Derivation

/-!
# Why compilation fails

Validation and lowering walk an expression by different rules: validation looks at every
argument of a call and wants the exact number of them, lowering looks only at those it uses.
What is left for lowering to fail on after validation is the logistic function, and only where
lowering looks. `Node.LiveCall` says where that is without mention of either walk, and
`Node.lower_missing_of_valid` joins the two by induction over the expression.
-/

namespace RankFormula

namespace Lowered

/-- An exponential lacks what its first argument lacks. -/
theorem missing_exponential (operand : Lowered) (others : List Lowered) :
    (call FormulaFunction.exp.name (operand :: others)).missing = operand.missing := by
  simp [call, exponential]

/-- A decay lacks what the first incomplete one of its three arguments lacks. -/
theorem missing_decay (value rate elapsed : Lowered) (others : List Lowered) :
    (call FormulaFunction.expDecay.name (value :: rate :: elapsed :: others)).missing =
      (value.missing <|> rate.missing <|> elapsed.missing) := by
  simp [call, decay]

end Lowered

/-- What a lowering lacks is the logistic function if a condition holds, and else nothing. -/
def LacksSigmoid (missing : Option Unlowered) (live : Prop) : Prop :=
  live ∧ missing = some (.function "sigmoid") ∨ ¬live ∧ missing = none

namespace LacksSigmoid

variable {first second : Option Unlowered} {here there : Prop}

/-- Of two lowerings in a row the first incomplete one counts. -/
theorem orElse (before : LacksSigmoid first here) (after : LacksSigmoid second there) :
    LacksSigmoid (first <|> second) (here ∨ there) := by
  obtain ⟨live, rfl⟩ | ⟨dead, rfl⟩ := before
  · exact .inl ⟨.inl live, rfl⟩
  · obtain ⟨live, rfl⟩ | ⟨alsoDead, rfl⟩ := after
    · exact .inl ⟨.inr live, rfl⟩
    · exact .inr ⟨not_or.mpr ⟨dead, alsoDead⟩, rfl⟩

/-- The condition may be put in other words. -/
theorem congr (lacks : LacksSigmoid first here) (same : there ↔ here) :
    LacksSigmoid first there := by
  rw [LacksSigmoid, same]
  exact lacks

end LacksSigmoid

namespace Node

/-- A call of a name occurs in an expression, and not inside the second argument of a call of
`exp`. -/
inductive LiveCall (name : String) : Node → Prop where
  /-- The expression is such a call. -/
  | here (arguments : List Node) : LiveCall name (.call (.identifier name) arguments)
  /-- It occurs in the callee of a call. -/
  | callee {callee : Node} (arguments : List Node) (inside : LiveCall name callee) :
    LiveCall name (.call callee arguments)
  /-- It occurs in an argument, which is not the second one of `exp`. -/
  | argument {callee : Node} {arguments : List Node} {position : Nat} {argument : Node}
    (placed : arguments[position]? = some argument)
    (used : callee = .identifier "exp" → position ≠ 1) (inside : LiveCall name argument) :
    LiveCall name (.call callee arguments)
  /-- It occurs in the left operand of an operation. -/
  | left (operator : String) {left : Node} (right : Node) (inside : LiveCall name left) :
    LiveCall name (.binary operator left right)
  /-- It occurs in the right operand of an operation. -/
  | right (operator : String) (left : Node) {right : Node} (inside : LiveCall name right) :
    LiveCall name (.binary operator left right)
  /-- It occurs in the only operand of an operation. -/
  | operand (operator : String) {argument : Node} (inside : LiveCall name argument) :
    LiveCall name (.unary operator argument)
  /-- It occurs in the object of an access. -/
  | object {object : Node} (property : Node) (inside : LiveCall name object) :
    LiveCall name (.member object property)
  /-- It occurs in the property of an access. -/
  | property (object : Node) {property : Node} (inside : LiveCall name property) :
    LiveCall name (.member object property)

section LiveCalls

variable {name : String}

/-- A literal is no call. -/
theorem not_liveCall_literal (value : Value) : ¬LiveCall name (.literal value) := by
  intro live
  cases live

/-- A name is no call. -/
theorem not_liveCall_identifier (other : String) : ¬LiveCall name (.identifier other) := by
  intro live
  cases live

/-- What is live in an operation is live in an operand. -/
theorem liveCall_binary {operator : String} {left right : Node} :
    LiveCall name (.binary operator left right) ↔ LiveCall name left ∨ LiveCall name right := by
  constructor
  · intro live
    cases live with
    | left _ _ inside => exact .inl inside
    | right _ _ inside => exact .inr inside
  · rintro (inside | inside)
    · exact .left operator right inside
    · exact .right operator left inside

/-- What is live in a call of another name is live in an argument that is used. -/
theorem liveCall_call {other : String} (apart : other ≠ name) {arguments : List Node} :
    LiveCall name (.call (.identifier other) arguments) ↔
      ∃ position argument, arguments[position]? = some argument ∧
        (other = "exp" → position ≠ 1) ∧ LiveCall name argument := by
  constructor
  · intro live
    cases live with
    | here => exact absurd rfl apart
    | callee _ inside => exact absurd inside (not_liveCall_identifier other)
    | argument placed used inside =>
      exact ⟨_, _, placed, fun exponential => used (congrArg identifier exponential), inside⟩
  · rintro ⟨position, argument, placed, used, inside⟩
    exact .argument placed (fun same => used (identifier.inj same)) inside

/-- Of an exponential only the first argument is used. -/
theorem liveCall_exponential (apart : FormulaFunction.exp.name ≠ name) {operand ignored : Node} :
    LiveCall name (.call (.identifier FormulaFunction.exp.name) [operand, ignored]) ↔
      LiveCall name operand := by
  rw [liveCall_call apart]
  constructor
  · rintro ⟨position, argument, placed, used, inside⟩
    obtain rfl : position = 0 := by
      have bound := (List.getElem?_eq_some_iff.mp placed).1
      have second := used rfl
      simp only [List.length_cons, List.length_nil] at bound
      omega
    obtain rfl : operand = argument := by simpa using placed
    exact inside
  · intro inside
    exact ⟨0, operand, rfl, fun _ => by decide, inside⟩

/-- Of a decay all three arguments are used. -/
theorem liveCall_decay (apart : FormulaFunction.expDecay.name ≠ name)
    {value rate elapsed : Node} :
    LiveCall name (.call (.identifier FormulaFunction.expDecay.name) [value, rate, elapsed]) ↔
      LiveCall name value ∨ LiveCall name rate ∨ LiveCall name elapsed := by
  have unlike : FormulaFunction.expDecay.name ≠ "exp" := by decide
  rw [liveCall_call apart]
  constructor
  · rintro ⟨position, argument, placed, -, inside⟩
    have member : argument ∈ [value, rate, elapsed] := List.mem_of_getElem? placed
    simp only [List.mem_cons, List.not_mem_nil, or_false] at member
    obtain rfl | rfl | rfl := member
    · exact .inl inside
    · exact .inr (.inl inside)
    · exact .inr (.inr inside)
  · rintro (inside | inside | inside)
    · exact ⟨0, value, rfl, fun same => absurd same unlike, inside⟩
    · exact ⟨1, rate, rfl, fun same => absurd same unlike, inside⟩
    · exact ⟨2, elapsed, rfl, fun same => absurd same unlike, inside⟩

end LiveCalls

variable {whitelist : Whitelist} {node : Node}

/-- After validation lowering lacks at most the logistic function, and lacks it exactly if a
call of it is live. -/
theorem lower_missing_of_valid (valid : node.validate whitelist = .ok true) :
    LacksSigmoid node.lower.missing (node.LiveCall "sigmoid") := by
  induction node with
  | literal value => exact .inr ⟨not_liveCall_literal value, rfl⟩
  | identifier name => exact .inr ⟨not_liveCall_identifier name, rfl⟩
  | binary operator left right leftClaim rightClaim =>
    obtain ⟨⟨op, rfl⟩, leftValid, rightValid⟩ := validate_binary_eq_ok_true.mp valid
    rw [lower_binary_symbol]
    exact ((leftClaim leftValid).orElse (rightClaim rightValid)).congr liveCall_binary
  | call callee arguments _ argumentClaim =>
    obtain ⟨⟨f, rfl, arity⟩, argumentsValid⟩ := validate_call_eq_ok_true.mp valid
    have lacks (argument : Node) (member : argument ∈ arguments) :
        LacksSigmoid argument.lower.missing (argument.LiveCall "sigmoid") :=
      argumentClaim argument member (argumentsValid argument member)
    rw [lower, lowerAll_eq_map]
    cases f with
    | exp =>
      -- The second argument is valid as well, but whatever it lacks is not looked at.
      obtain ⟨operand, ignored, rfl⟩ := List.length_eq_two.mp arity.symm
      rw [List.map_cons, Lowered.missing_exponential]
      exact (lacks operand (by simp)).congr (liveCall_exponential (by decide))
    | expDecay =>
      obtain ⟨value, rate, elapsed, rfl⟩ := List.length_eq_three.mp arity.symm
      rw [List.map_cons, List.map_cons, List.map_cons, Lowered.missing_decay]
      have last := (lacks rate (by simp)).orElse (lacks elapsed (by simp))
      exact ((lacks value (by simp)).orElse last).congr (liveCall_decay (by decide))
    | sigmoid =>
      rw [Lowered.call_sigmoid]
      exact .inl ⟨.here arguments, rfl⟩
  | _ => simp [validate] at valid

/-- A valid expression compiles to its lowering, or fails with what the lowering lacks. -/
theorem compile_of_lowered (valid : node.validate whitelist = .ok true) :
    node.compile whitelist =
      match node.lower.missing with
      | none => .ok node.lower.tree
      | some part => .error ⟨.notCompilable part, some node.lower.tree⟩ := by
  rw [compile, fault?, valid]
  obtain ⟨tree, missing⟩ := node.lower
  cases missing <;> rfl

/-- Compilation fails exactly for what validation finds, and after it for live calls of the
logistic function alone. Whatever validation refuses has no tree: a fault is handed on, and a
literal that is no number is reported as such. What is valid compiles exactly if no call of
`sigmoid` is live in it, and otherwise the failure names that function, in these words, and is
known as one of compilation. -/
theorem compile_fails_exactly (whitelist : Whitelist) (node : Node) :
    (∀ fault, node.validate whitelist = .error fault →
      node.compile whitelist = .error ⟨fault, none⟩) ∧
    (node.validate whitelist = .ok false →
      node.compile whitelist = .error ⟨.invalidLiteral, none⟩) ∧
    (node.validate whitelist = .ok true →
      ((∃ tree, node.compile whitelist = .ok tree) ↔ ¬node.LiveCall "sigmoid") ∧
      (node.LiveCall "sigmoid" → ∃ fault tree,
        node.compile whitelist = .error ⟨fault, some tree⟩ ∧
        fault = .notCompilable (.function "sigmoid") ∧
        fault.message = "no operator tree lowering: function sigmoid" ∧
        fault.report.bears .notCompilable = true)) := by
  refine ⟨fun fault => compile_of_fault, compile_of_invalid, fun valid => ?_⟩
  have compiled := compile_of_lowered valid
  obtain ⟨live, lacking⟩ | ⟨dead, complete⟩ := lower_missing_of_valid valid
  · rw [lacking] at compiled
    refine ⟨iff_of_false ?_ (not_not_intro live), fun _ => ?_⟩
    · rintro ⟨tree, succeeded⟩
      rw [compiled] at succeeded
      cases succeeded
    · exact ⟨_, _, compiled, rfl, by decide, by decide⟩
  · rw [complete] at compiled
    exact ⟨iff_of_true ⟨_, compiled⟩ dead, fun live => absurd live dead⟩

/-- In `exp(likes, sigmoid(…))` the logistic function is not looked at; in
`exp(sigmoid(…) + views, likes)` it is, once `views` may be read. -/
theorem compile_fails_exactly_exp :
    let likes : Node := .identifier "likes"
    let sigmoid : Node := .call (.identifier "sigmoid") [likes, likes, likes]
    let hidden : Node := .call (.identifier "exp") [likes, sigmoid]
    let shown : Node :=
      .call (.identifier "exp") [.binary "+" sigmoid (.identifier "views"), likes]
    (hidden.validate ⟨["likes"]⟩ = .ok true ∧ ∃ tree, hidden.compile ⟨["likes"]⟩ = .ok tree) ∧
    (shown.validate ⟨["likes"]⟩ = .error (.invalidVariable "views") ∧
      shown.compile ⟨["likes"]⟩ = .error ⟨.invalidVariable "views", none⟩) ∧
    (shown.validate ⟨["likes", "views"]⟩ = .ok true ∧ ∃ tree,
      shown.compile ⟨["likes", "views"]⟩ =
        .error ⟨.notCompilable (.function "sigmoid"), some tree⟩) := by
  intro likes sigmoid hidden shown
  have unlike : FormulaFunction.exp.name ≠ "sigmoid" := by decide
  have dead : ¬hidden.LiveCall "sigmoid" := fun live =>
    not_liveCall_identifier "likes" ((liveCall_exponential unlike).mp live)
  have live : shown.LiveCall "sigmoid" :=
    (liveCall_exponential unlike).mpr (.left "+" (.identifier "views") (.here _))
  have valid : hidden.validate ⟨["likes"]⟩ = .ok true := by rfl
  have unlisted : shown.validate ⟨["likes"]⟩ = .error (.invalidVariable "views") := by rfl
  have listed : shown.validate ⟨["likes", "views"]⟩ = .ok true := by rfl
  refine ⟨⟨valid, ?_⟩, ⟨unlisted, ?_⟩, listed, ?_⟩
  · exact ((compile_fails_exactly _ hidden).2.2 valid).1.mpr dead
  · exact (compile_fails_exactly _ shown).1 _ unlisted
  · obtain ⟨_, tree, failed, rfl, _⟩ := ((compile_fails_exactly _ shown).2.2 listed).2 live
    exact ⟨tree, failed⟩

end Node
end RankFormula
