import RankFormula.Proofs.Expression.Ignored
import RankFormula.Proofs.Expression.Meaning
import RankFormula.Proofs.Expression.Occurrence
import RankFormula.Proofs.Formula.Conditions
import RankFormula.Proofs.Formula.Tree

/-!
# The fields that a tree refers to

`Value.references` walks a tree and `Node.variableNames` walks an expression; the tree has operands
that the expression has not, and lacks others. `Node.Lowers.references_eq` shows by induction on the
derivation that the walks meet the same names in the same order once the expression is rid of
what exponentials ignore. So a formula declares every field that its tree refers to, and its
filter speaks about all of them.
-/

namespace RankFormula

namespace Value

mutual

/-- The fields that a value refers to, in the order of its parts. -/
def references : Value → List String
  | .string text => (fieldOf? text).toList
  | .list items => referencesOfItems items
  | .object fields => referencesOfFields fields
  | .document fields => referencesOfFields fields
  | _ => []

/-- The fields that values refer to in order. -/
def referencesOfItems : List Value → List String
  | [] => []
  | item :: items => references item ++ referencesOfItems items

/-- The fields that the values of named fields refer to in order. -/
def referencesOfFields : List (String × Value) → List String
  | [] => []
  | (_, value) :: fields => references value ++ referencesOfFields fields

end

/-- An operation refers to what its two operands refer to. -/
theorem references_pair (name : String) (left right : Value) :
    (object [(name, .list [left, right])]).references = left.references ++ right.references := by
  simp [references, referencesOfFields, referencesOfItems]

/-- An operation on one operand refers to what that refers to. -/
theorem references_operand (name : String) (operand : Value) :
    (object [(name, operand)]).references = operand.references := by
  simp [references, referencesOfFields]

/-- The tree of a decay refers to what its value, its rate and its time refer to; the number in
front of the rate is no reference. -/
theorem references_decay (valueTree rateTree elapsedTree : Value) :
    (object [(ArithmeticOperator.multiply.treeName, .list [valueTree,
      .object [(expTreeName, .object [(ArithmeticOperator.multiply.treeName,
        .list [minusOneTree, rateTree, elapsedTree])])]])]).references =
      valueTree.references ++ (rateTree.references ++ elapsedTree.references) := by
  rw [references_pair, references_operand]
  simp [references, referencesOfFields, referencesOfItems, minusOneTree]

end Value

namespace Node

/-- No call of `exp` has a variable in its second argument. -/
def IgnoresNoVariable (node : Node) : Prop :=
  ∀ arguments ignored, (call (.identifier "exp") arguments).OccursIn node →
    arguments[1]? = some ignored → ignored.variableNames = []

/-- What holds of every call of `exp` holds of those inside a part. -/
theorem IgnoresNoVariable.of_occursIn {part node : Node} (ignoresNone : node.IgnoresNoVariable)
    (occurs : part.OccursIn node) : part.IgnoresNoVariable :=
  fun arguments ignored inside => ignoresNone arguments ignored (inside.trans occurs)

namespace Lowers

variable {whitelist : Whitelist} {node : Node} {tree : Value}

/-- A tree refers to the variables of its expression without what exponentials ignore, in the
same order. -/
theorem references_eq (derived : Lowers whitelist node tree) :
    tree.references = node.withoutIgnored.variableNames := by
  unfold withoutIgnored
  induction derived with
  | number n => rfl
  | field name => simp [Value.references, editExponentials, variableNames]
  | operation op _ _ leftClaim rightClaim =>
    rw [Value.references_pair, editExponentials, variableNames, leftClaim, rightClaim]
  | exponential _ _ operandClaim =>
    rw [Value.references_operand, operandClaim, editExponentials_exponential, variableNames]
    simp [editAllExponentials, variableNamesOfAll]
  | decay _ _ _ valueClaim rateClaim elapsedClaim =>
    rw [Value.references_decay, valueClaim, rateClaim, elapsedClaim, editExponentials_decay,
      variableNames]
    simp [editAllExponentials, variableNamesOfAll]

/-- A tree refers to variables of its expression only, and keeps their order. -/
theorem references_sublist (derived : Lowers whitelist node tree) :
    tree.references.Sublist node.variableNames := by
  induction derived with
  | number n => exact List.Sublist.refl _
  | field name => simp [Value.references, variableNames]
  | operation op _ _ leftClaim rightClaim =>
    rw [Value.references_pair, variableNames]
    exact leftClaim.append rightClaim
  | exponential _ _ operandClaim =>
    rw [Value.references_operand, variableNames, variableNamesOfAll]
    exact operandClaim.trans (List.sublist_append_left _ _)
  | @decay value rate elapsed _ _ _ _ _ _ valueClaim rateClaim elapsedClaim =>
    have declared : (call (.identifier FormulaFunction.expDecay.name)
        [value, rate, elapsed]).variableNames =
        value.variableNames ++ (rate.variableNames ++ elapsed.variableNames) := by
      simp [variableNames, variableNamesOfAll]
    rw [Value.references_decay, declared]
    exact valueClaim.append (rateClaim.append elapsedClaim)

/-- Where exponentials ignore no variable the tree refers to all variables of its expression. -/
theorem references_eq_variableNames (derived : Lowers whitelist node tree)
    (ignoresNone : node.IgnoresNoVariable) : tree.references = node.variableNames := by
  induction derived with
  | number n => rfl
  | field name => simp [Value.references, variableNames]
  | operation op _ _ leftClaim rightClaim =>
    have left := leftClaim (ignoresNone.of_occursIn (.left op.symbol _ .here))
    have right := rightClaim (ignoresNone.of_occursIn (.right op.symbol _ .here))
    rw [Value.references_pair, variableNames, left, right]
  | @exponential operand ignored _ _ _ operandClaim =>
    have first := operandClaim (ignoresNone.of_occursIn (.argument _ (by simp) .here))
    have second : ignored.variableNames = [] := ignoresNone [operand, ignored] ignored .here rfl
    rw [Value.references_operand, first, variableNames]
    simp [variableNamesOfAll, second]
  | decay _ _ _ valueClaim rateClaim elapsedClaim =>
    have value := valueClaim (ignoresNone.of_occursIn (.argument _ (by simp) .here))
    have rate := rateClaim (ignoresNone.of_occursIn (.argument _ (by simp) .here))
    have elapsed := elapsedClaim (ignoresNone.of_occursIn (.argument _ (by simp) .here))
    rw [Value.references_decay, value, rate, elapsed, variableNames]
    simp [variableNamesOfAll]

end Lowers
end Node

namespace Formula

/-- A formula reads what it declares. Its tree refers to the variables of the expression without
the second arguments of `exp`, in their order; these are among the declared variables in the same
order, and all of them if no such argument has a variable. Under every filter the documents to
score are asked for each field that the tree refers to. -/
theorem tree_references {whitelist : Whitelist} {source : RawText} {node : Node}
    {formula : Formula} (made : ofNode whitelist source node = .ok formula) :
    formula.tree.references = node.withoutIgnored.variableNames ∧
      formula.tree.references.Sublist formula.variableNames ∧
      (node.IgnoresNoVariable → formula.tree.references = formula.variableNames) ∧
      ∀ filter : Filter, ∀ name ∈ formula.tree.references,
        name ∈ (formula.matchFilter filter).map Prod.fst := by
  obtain ⟨-, derived, declared⟩ := ofNode_eq_ok.mp made
  have kept : formula.tree.references.Sublist formula.variableNames := by
    rw [declared]
    exact derived.references_sublist
  refine ⟨derived.references_eq, kept, fun ignoresNone => ?_, fun filter name referred => ?_⟩
  · rw [declared]
    exact derived.references_eq_variableNames ignoresNone
  · have field : name ∈ formula.fields := mem_fields.mpr (kept.subset referred)
    exact mem_keys_requireFields.mpr (.inr field)

/-- The tree of `exp_decay(likes, 2, age) - exp(likes, views)` refers to no views, although they are
declared; that of `exp(likes, 2)` refers to all that is declared. -/
theorem tree_references_likes :
    let likes : Node := .identifier "likes"
    let two : Node := .literal (.int 2)
    let node : Node := .binary "-"
      (.call (.identifier "exp_decay") [likes, two, .identifier "age"])
      (.call (.identifier "exp") [likes, .identifier "views"])
    let full : Node := .call (.identifier "exp") [likes, two]
    let tree : Value := .object [("$subtract", .list [
      .object [("$multiply", .list [.string "$likes", .object [("$exp",
        .object [("$multiply", .list [minusOneTree, .int 2, .string "$age"])])]])],
      .object [("$exp", .string "$likes")]])]
    let formula : Formula := ⟨"", tree, ["likes", "age", "likes", "views"]⟩
    let whole : Formula := ⟨"", .object [("$exp", .string "$likes")], ["likes"]⟩
    (ofNode ⟨["age", "likes", "views"]⟩ "" node = .ok formula ∧
      formula.tree.references = node.withoutIgnored.variableNames ∧
      formula.tree.references.Sublist formula.variableNames ∧
      ∀ filter : Filter, ∀ name ∈ formula.tree.references,
        name ∈ (formula.matchFilter filter).map Prod.fst) ∧
    ofNode ⟨["likes"]⟩ "" full = .ok whole ∧ full.IgnoresNoVariable ∧
      whole.tree.references = whole.variableNames := by
  intro likes two node full tree formula whole
  have made : ofNode ⟨["age", "likes", "views"]⟩ "" node = .ok formula := by rfl
  have wholeMade : ofNode ⟨["likes"]⟩ "" full = .ok whole := by rfl
  have ignoresNone : (Node.call (.identifier "exp")
      [.identifier "likes", .literal (.int 2)]).IgnoresNoVariable := by
    intro arguments ignored occurs second
    cases occurs with
    | here =>
      obtain rfl : .literal (.int 2) = ignored := by simpa using second
      rfl
    | callee _ inside => cases inside
    | argument _ member inside =>
      simp only [List.mem_cons, List.not_mem_nil, or_false] at member
      obtain rfl | rfl := member <;> cases inside
  obtain ⟨referred, kept, -, asked⟩ := tree_references made
  have allReferred := (tree_references wholeMade).2.2.1 ignoresNone
  exact ⟨⟨made, referred, kept, asked⟩, wholeMade, ignoresNone, allReferred⟩

end Formula
end RankFormula
