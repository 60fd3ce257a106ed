import Mathlib.Data.List.Sort
import RankFormula.Proofs.Api.Verdicts
import RankFormula.Proofs.Expression.Offences
import RankFormula.Proofs.Expression.Requirement
import RankFormula.Proofs.Text.ByteOrder

/-!
# The listed grammar is the accepted one

The service lists what formulas are made of, and a caller who builds an expression from that list
alone has built a valid one: `Grammar.Builds` says what can be built, by rules that know neither
the vocabulary nor validation, and `Node.validate_iff_builds` joins the two by induction over the
expression. The variables are listed in increasing order of their bytes, which leaves one list
for each set of configured names.
-/

namespace RankFormula

namespace Whitelist

/-- Inserting a name keeps names in increasing order. -/
theorem increasing_insertName {name : String} {names : List String}
    (increasing : names.Pairwise (· < ·)) : (insertName name names).Pairwise (· < ·) := by
  induction names with
  | nil => exact List.pairwise_singleton _ _
  | cons other rest ih =>
    obtain ⟨below, later⟩ := List.pairwise_cons.mp increasing
    unfold insertName
    by_cases smaller : other < name
    · rw [if_pos smaller]
      apply List.pairwise_cons.mpr
      refine ⟨fun member inserted => ?_, ih later⟩
      obtain listed | rfl := mem_insertName.mp inserted
      · exact below member listed
      · exact smaller
    rw [if_neg smaller]
    by_cases same : other = name
    · rw [if_pos same]
      exact increasing
    · rw [if_neg same]
      have first : name < other := Std.lt_of_le_of_ne (Std.not_lt.mp smaller) (Ne.symm same)
      apply List.pairwise_cons.mpr
      refine ⟨fun member listed => ?_, increasing⟩
      obtain rfl | inRest := List.mem_cons.mp listed
      · exact first
      · exact String.lt_trans first (below member inRest)

/-- The set of given names lists them in increasing order. -/
theorem increasing_ofNames (names : List String) : (ofNames names).names.Pairwise (· < ·) := by
  have kept (more : List String) : ∀ {before : List String}, before.Pairwise (· < ·) →
      (more.foldl (fun kept name => insertName name kept) before).Pairwise (· < ·) := by
    induction more with
    | nil => exact fun increasing => increasing
    | cons name more ih => exact fun increasing => ih (increasing_insertName increasing)
  exact kept names .nil

/-- Names that are the same but for order and repetitions make the same set. -/
theorem ofNames_eq_ofNames {names others : List String}
    (same : ∀ name, name ∈ others ↔ name ∈ names) : ofNames others = ofNames names := by
  have listed (name : String) : name ∈ (ofNames others).names ↔ name ∈ (ofNames names).names := by
    have first : name ∈ (ofNames others).names ↔ name ∈ others :=
      List.contains_iff_mem.symm.trans contains_ofNames
    have second : name ∈ (ofNames names).names ↔ name ∈ names :=
      List.contains_iff_mem.symm.trans contains_ofNames
    rw [first, second, same]
  exact congrArg Whitelist.mk
    ((increasing_ofNames others).eq_of_mem_iff (increasing_ofNames names) listed)

end Whitelist

/-- What expressions are listed as made of. -/
structure Grammar where
  /-- The variables. -/
  variableNames : List String
  /-- The functions, each with its number of arguments. -/
  functions : List (String × Nat)
  /-- The operators that stand between two operands. -/
  operators : List String

/-- An expression can be built from numbers and from what a grammar lists. -/
inductive Grammar.Builds (grammar : Grammar) : Node → Prop where
  /-- A number. -/
  | number (n : Number) : Builds grammar (.literal (.number n))
  /-- A listed variable. -/
  | variable {name : String} (listed : name ∈ grammar.variableNames) :
    Builds grammar (.identifier name)
  /-- A listed operator between two expressions. -/
  | operation {operator : String} {left right : Node} (listed : operator ∈ grammar.operators)
    (first : Builds grammar left) (second : Builds grammar right) :
    Builds grammar (.binary operator left right)
  /-- A call of a listed function with its number of expressions. -/
  | call {name : String} {arguments : List Node}
    (listed : (name, arguments.length) ∈ grammar.functions)
    (each : ∀ argument ∈ arguments, Builds grammar argument) :
    Builds grammar (.call (.identifier name) arguments)

/-- The grammar of the vocabulary with some variables. -/
def Grammar.ofVariables (names : List String) : Grammar where
  variableNames := names
  functions := Api.listedFunctions.map fun f => (f.name, f.arity)
  operators := Api.listedOperators.map ArithmeticOperator.symbol

namespace Node

variable {whitelist : Whitelist}

/-- A call of a listed function is one that may be called. -/
theorem isCallable_identifier {name : String} {arguments : Nat} {names : List String} :
    (identifier name).IsCallable arguments ↔
      (name, arguments) ∈ (Grammar.ofVariables names).functions := Iff.rfl

/-- An expression is valid exactly if it can be built from the vocabulary and the variables of
the whitelist. -/
theorem validate_iff_builds (node : Node) :
    node.validate whitelist = .ok true ↔ (Grammar.ofVariables whitelist.names).Builds node := by
  induction node with
  | literal value =>
    constructor
    · intro valid
      cases value with
      | number n => exact .number n
      | _ => simp [validate, Value.isNumber] at valid
    · rintro ⟨n⟩
      rfl
  | identifier name =>
    have valid : (identifier name).validate whitelist = .ok true ↔ name ∈ whitelist.names := by
      rw [validate, Whitelist.contains, ← List.contains_iff_mem]
      cases whitelist.names.contains name <;> simp
    rw [valid]
    constructor
    · intro listed
      exact .variable listed
    · rintro ⟨⟩
      assumption
  | binary operator left right leftClaim rightClaim =>
    rw [validate_binary_eq_ok_true, ArithmeticOperator.exists_symbol, leftClaim, rightClaim]
    constructor
    · rintro ⟨known, first, second⟩
      exact .operation known first second
    · rintro ⟨⟩
      exact ⟨by assumption, by assumption, by assumption⟩
  | call callee arguments _ argumentClaim =>
    rw [validate_call_eq_ok_true, exists_function]
    constructor
    · rintro ⟨callable, valid⟩
      cases callee with
      | identifier name =>
        have each : ∀ argument ∈ arguments, (Grammar.ofVariables whitelist.names).Builds argument :=
          fun argument member => (argumentClaim argument member).mp (valid argument member)
        exact .call (isCallable_identifier.mp callable) each
      | _ => exact callable.elim
    · rintro (_ | _ | _ | ⟨listed, each⟩)
      refine ⟨isCallable_identifier.mpr listed, fun argument member => ?_⟩
      exact (argumentClaim argument member).mpr (each argument member)
  | _ =>
    apply iff_of_false
    · simp [validate]
    · rintro ⟨⟩

end Node

/-- A response lists a grammar. -/
structure Response.Lists (response : Response) (grammar : Grammar) : Prop where
  /-- It is a success. -/
  status : response.status = 200
  /-- It names the variables. -/
  variableNames : response.member? "variables" = some (namesJson grammar.variableNames)
  /-- It names the functions with their numbers of arguments. -/
  functions : response.member? "functions" = some (.array (grammar.functions.map fun f =>
    .object [("name", .string f.1), ("arity", .int f.2)]))
  /-- It names the operators. -/
  operators : response.member? "operators" = some (namesJson grammar.operators)

namespace Api

/-- The service with some configured variables. -/
def withVariables (api : Api) (names : List String) : Api :=
  { api with whitelist := .ofNames names }

/-- What the service lists is the vocabulary with its variables. -/
theorem grammar_lists (api : Api) : api.grammar.Lists (.ofVariables api.whitelist.names) where
  status := rfl
  variableNames := rfl
  functions := rfl
  operators := rfl

/-- What the service lists for some configured variables is what it accepts. The variables are
listed in strictly increasing order of their bytes; they are the same for all lists of the same
names, and exactly those that formulas may read. An expression is valid exactly if it can be
built from numbers, the listed variables, the listed operators and calls of the listed functions
with the listed numbers of arguments. -/
theorem listed_grammar_accepted (api : Api) (names : List String) :
    ∃ listed : Grammar, (api.withVariables names).grammar.Lists listed ∧
      (listed.variableNames.Pairwise fun a b => utf8Bytes a.toList < utf8Bytes b.toList) ∧
      (∀ others : List String, (∀ name, name ∈ others ↔ name ∈ names) →
        (api.withVariables others).grammar.Lists listed) ∧
      (∀ name, name ∈ listed.variableNames ↔
        (api.withVariables names).whitelist.contains name = true) ∧
      (∀ name, name ∈ listed.variableNames ↔ name ∈ names) ∧
      ∀ node : Node, node.validate (api.withVariables names).whitelist = .ok true ↔
        listed.Builds node := by
  have increasing := Whitelist.increasing_ofNames names
  have contained (name : String) : name ∈ (Whitelist.ofNames names).names ↔
      (Whitelist.ofNames names).contains name = true := List.contains_iff_mem.symm
  refine ⟨_, grammar_lists _, ?_, fun others same => ?_, contained, fun name => ?_, ?_⟩
  · exact increasing.imp utf8Bytes_toList_lt
  · have equal : api.withVariables others = api.withVariables names :=
      congrArg (fun whitelist => { api with whitelist := whitelist })
        (Whitelist.ofNames_eq_ofNames same)
    rw [equal]
    exact grammar_lists _
  · exact (contained name).trans Whitelist.contains_ofNames
  · exact Node.validate_iff_builds

/-- The names `likes`, `age`, `likes` and `age`, `likes` are listed alike, and `exp(age, 2) / likes`
can be built from the list, since it is valid. -/
theorem listed_grammar_accepted_likes :
    let api : Api := ⟨⟨"", [], []⟩, .standard, [], ""⟩
    let node : Node := .binary "/"
      (.call (.identifier "exp") [.identifier "age", .literal (.int 2)]) (.identifier "likes")
    ∃ listed : Grammar, (api.withVariables ["likes", "age", "likes"]).grammar.Lists listed ∧
      (∀ name, name ∈ ["age", "likes"] ↔ name ∈ ["likes", "age", "likes"]) ∧
      (api.withVariables ["age", "likes"]).grammar.Lists listed ∧
      node.validate (.ofNames ["likes", "age", "likes"]) = .ok true ∧ listed.Builds node := by
  intro api node
  obtain ⟨listed, lists, -, alike, -, -, accepted⟩ :=
    listed_grammar_accepted api ["likes", "age", "likes"]
  have same : ∀ name, name ∈ ["age", "likes"] ↔ name ∈ ["likes", "age", "likes"] := by
    intro name
    simp only [List.mem_cons, List.not_mem_nil, or_false]
    tauto
  have valid : node.validate (.ofNames ["likes", "age", "likes"]) = .ok true := by rfl
  exact ⟨listed, lists, same, alike _ same, valid, (accepted node).mp valid⟩

end Api
end RankFormula
