import Mathlib.Order.Bounds.Basic
import RankFormula.Expression.Variables
import RankFormula.Proofs.Expression.Derivation

/-!
# What an expression requires of a whitelist

Validation walks an expression with a whitelist, and `Node.variableNames` lists what the
expression reads without one. `Node.validate_eq_verdict` joins the two walks: once some whitelist
accepts an expression, the answer under every whitelist is the verdict of that whitelist on the
listed variables, taken from left to right. What follows is about whitelists alone, which are
ordered by what they list.
-/

namespace RankFormula

namespace Whitelist

/-- A whitelist is below another one if the other one lists all its variables. -/
instance : Preorder Whitelist where
  le inner outer := ∀ name, inner.contains name = true → outer.contains name = true
  le_refl _ _ listed := listed
  le_trans _ _ _ first second name listed := second name (first name listed)

/-- What a whitelist answers to variables in order: all that counts is the first one that it does
not list. -/
def verdict (whitelist : Whitelist) (names : List String) : Except ExpressionFault Bool :=
  match names.find? fun name => !whitelist.contains name with
  | none => .ok true
  | some name => .error (.invalidVariable name)

/-- The verdict on two lists in a row is that on the first, unless all of it is listed. -/
theorem verdict_append (whitelist : Whitelist) (first second : List String) :
    whitelist.verdict (first ++ second) =
      match whitelist.verdict first with
      | .ok true => whitelist.verdict second
      | offence => offence := by
  unfold verdict
  rw [List.find?_append]
  cases first.find? fun name => !whitelist.contains name <;> rfl

/-- No variable is left over exactly if each of them is listed. -/
theorem find?_unlisted_eq_none {whitelist : Whitelist} {names : List String} :
    (names.find? fun name => !whitelist.contains name) = none ↔
      ∀ name ∈ names, whitelist.contains name = true := by
  simp [List.find?_eq_none]

/-- The verdict is favourable exactly if each variable is listed. -/
theorem verdict_eq_ok_true {whitelist : Whitelist} {names : List String} :
    whitelist.verdict names = .ok true ↔ ∀ name ∈ names, whitelist.contains name = true := by
  rw [← find?_unlisted_eq_none]
  unfold verdict
  cases names.find? fun name => !whitelist.contains name <;> simp

/-- Inserting a name adds it and nothing else. -/
theorem mem_insertName {name other : String} {names : List String} :
    other ∈ insertName name names ↔ other ∈ names ∨ other = name := by
  induction names with
  | nil => simp [insertName]
  | cons head rest ih =>
    unfold insertName
    split
    · rw [List.mem_cons, ih, List.mem_cons, or_assoc]
    · split
      · next _ same =>
        have listed : other = name → other ∈ head :: rest := fun equal =>
          List.mem_cons.mpr (.inl (equal.trans same.symm))
        exact (or_iff_left_of_imp listed).symm
      · rw [List.mem_cons]
        exact or_comm

/-- The set of given names lists exactly these. -/
theorem contains_ofNames {name : String} {names : List String} :
    (ofNames names).contains name = true ↔ name ∈ names := by
  rw [contains, List.contains_iff_mem, ofNames, mem_foldl_of_adds mem_insertName]
  exact or_iff_right List.not_mem_nil

end Whitelist

namespace Node

variable {accepting whitelist : Whitelist} {node : Node}

/-- Expressions are validated one by one, so the verdict on the variables of all of them decides. -/
theorem validateAll_eq_verdict {nodes : List Node}
    (each : ∀ node ∈ nodes, node.validate whitelist = whitelist.verdict node.variableNames) :
    validateAll whitelist nodes = whitelist.verdict (variableNamesOfAll nodes) := by
  induction nodes with
  | nil => rfl
  | cons node nodes ih =>
    obtain ⟨here, rest⟩ := List.forall_mem_cons.mp each
    rewrite [validateAll, variableNamesOfAll, Whitelist.verdict_append, here, ih rest]
    rfl

/-- An expression that some whitelist accepts is judged by every whitelist on its variables
alone. -/
theorem validate_eq_verdict (accepted : node.validate accepting = .ok true)
    (whitelist : Whitelist) :
    node.validate whitelist = whitelist.verdict node.variableNames := by
  induction node with
  | literal value => exact accepted
  | identifier name =>
    have verdict : whitelist.verdict [name] =
        if whitelist.contains name then .ok true else .error (.invalidVariable name) := by
      cases listed : whitelist.contains name <;> simp [Whitelist.verdict, listed]
    rw [validate, variableNames, verdict]
  | binary operator left right leftClaim rightClaim =>
    obtain ⟨⟨op, rfl⟩, leftAccepted, rightAccepted⟩ := validate_binary_eq_ok_true.mp accepted
    rewrite [validate, variableNames, ArithmeticOperator.ofSymbol?_eq_some.mpr rfl,
      Whitelist.verdict_append, leftClaim leftAccepted, rightClaim rightAccepted]
    rfl
  | call callee arguments _ argumentClaim =>
    obtain ⟨known, argumentsAccepted⟩ := validate_call_eq_ok_true.mp accepted
    have judged : validateAll whitelist arguments =
        whitelist.verdict (variableNamesOfAll arguments) :=
      validateAll_eq_verdict fun argument member =>
        argumentClaim argument member (argumentsAccepted argument member)
    rw [validate, variableNames, callFault?_eq_none.mpr known]
    exact judged
  | _ => simp [validate] at accepted

/-- An expression that some whitelist accepts is accepted exactly by those that list its
variables. -/
theorem validate_eq_ok_true_iff_listed (accepted : node.validate accepting = .ok true) :
    node.validate whitelist = .ok true ↔
      ∀ name ∈ node.variableNames, whitelist.contains name = true := by
  rw [validate_eq_verdict accepted, Whitelist.verdict_eq_ok_true]

/-- A whitelist that lists more accepts more. -/
theorem monotone_accepts (node : Node) :
    Monotone fun whitelist : Whitelist => node.validate whitelist = .ok true := by
  intro inner outer below accepted
  have listed := (validate_eq_ok_true_iff_listed accepted).mp accepted
  have stillListed : ∀ name ∈ node.variableNames, outer.contains name = true :=
    fun name member => below name (listed name member)
  exact (validate_eq_ok_true_iff_listed accepted).mpr stillListed

/-- Of the whitelists that accept an expression, the one of its variables is least. -/
theorem isLeast_ofNames_variableNames (accepted : node.validate accepting = .ok true) :
    IsLeast {whitelist | node.validate whitelist = .ok true} (.ofNames node.variableNames) := by
  constructor
  · have listed : ∀ name ∈ node.variableNames,
        (Whitelist.ofNames node.variableNames).contains name = true :=
      fun name member => Whitelist.contains_ofNames.mpr member
    exact (validate_eq_ok_true_iff_listed accepted).mpr listed
  · intro whitelist whitelistAccepts name required
    have listed := (validate_eq_ok_true_iff_listed accepted).mp whitelistAccepts
    exact listed name (Whitelist.contains_ofNames.mp required)

/-- The tree of an expression does not depend on the whitelist that it is compiled under. -/
theorem compile_eq_of_compile {first second : Whitelist} {tree other : Value}
    (compiled : node.compile first = .ok tree) (again : node.compile second = .ok other) :
    tree = other := by
  have complete := (compile_eq_ok_iff_complete.mp compiled).2
  have completeAgain := (compile_eq_ok_iff_complete.mp again).2
  rw [complete] at completeAgain
  exact congrArg Lowered.tree completeAgain

/-- All that a whitelist decides about an expression is whether its variables are listed. Once
some whitelist accepts the expression, another one accepts it exactly if it lists every variable,
and otherwise the fault names the first variable that it does not list. So acceptance is monotone,
the variables themselves are the least whitelist, and the tree is the same under all of them. -/
theorem variables_decide_acceptance (node : Node) :
    (∀ accepting whitelist : Whitelist, node.validate accepting = .ok true →
      (node.validate whitelist = .ok true ↔
        ∀ name ∈ node.variableNames, whitelist.contains name = true) ∧
      ((¬∀ name ∈ node.variableNames, whitelist.contains name = true) →
        ∃ name, node.variableNames.find? (fun name => !whitelist.contains name) = some name ∧
          node.validate whitelist = .error (.invalidVariable name))) ∧
    (Monotone fun whitelist : Whitelist => node.validate whitelist = .ok true) ∧
    ((∃ whitelist, node.validate whitelist = .ok true) →
      IsLeast {whitelist | node.validate whitelist = .ok true} (.ofNames node.variableNames)) ∧
    ∀ (first second : Whitelist) (tree other : Value), node.compile first = .ok tree →
      node.compile second = .ok other → tree = other := by
  refine ⟨fun accepting whitelist accepted => ⟨?_, fun missing => ?_⟩, monotone_accepts node,
    fun ⟨_, accepted⟩ => isLeast_ofNames_variableNames accepted,
    fun _ _ _ _ => compile_eq_of_compile⟩
  · exact validate_eq_ok_true_iff_listed accepted
  · cases found : node.variableNames.find? fun name => !whitelist.contains name with
    | none => exact absurd (Whitelist.find?_unlisted_eq_none.mp found) missing
    | some name =>
      refine ⟨name, rfl, ?_⟩
      rw [validate_eq_verdict accepted, Whitelist.verdict, found]

/-- In `exp(likes, views) + age` both missing variables are counted, the one that the tree drops as
well; the one on the left is named. -/
theorem variables_decide_acceptance_exp :
    let node : Node := .binary "+"
      (.call (.identifier "exp") [.identifier "likes", .identifier "views"]) (.identifier "age")
    let few : Whitelist := ⟨["likes"]⟩
    let all : Whitelist := ⟨["age", "likes", "views"]⟩
    let more : Whitelist := ⟨["age", "likes", "replies", "views"]⟩
    let tree : Value := .object [("$add", .list [.object [("$exp", .string "$likes")],
      .string "$age"])]
    node.validate all = .ok true ∧
      (∃ name, node.variableNames.find? (fun name => !few.contains name) = some name ∧
        node.validate few = .error (.invalidVariable name)) ∧
      node.validate more = .ok true ∧
      IsLeast {whitelist | node.validate whitelist = .ok true}
        (.ofNames ["likes", "views", "age"]) ∧
      node.compile all = .ok tree ∧ ∃ other, node.compile more = .ok other ∧ tree = other := by
  intro node few all more tree
  have accepted : node.validate all = .ok true := by rfl
  have compiled : node.compile all = .ok tree := by rfl
  have below : all ≤ more := by
    intro name listed
    have member : name ∈ ["age", "likes", "views"] := List.contains_iff_mem.mp listed
    apply List.contains_iff_mem.mpr
    simp only [more, List.mem_cons, List.not_mem_nil, or_false] at member ⊢
    tauto
  obtain ⟨judged, monotone, least, same⟩ := variables_decide_acceptance node
  refine ⟨accepted, ?_, monotone below accepted, least ⟨all, accepted⟩, compiled, ?_⟩
  · exact (judged all few accepted).2 (by decide)
  · have again : node.compile more = .ok tree := by rfl
    exact ⟨tree, again, same all more tree tree compiled again⟩

end Node
end RankFormula
