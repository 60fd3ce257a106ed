import Mathlib.Data.List.Basic
import Mathlib.Data.List.Induction
import RankFormula.Formula.Basic
import RankFormula.Proofs.Expression.Structure

/-!
# The fields of a formula

A formula keeps its variables in the order of its text, repetitions included, and reads
each field once. The fold that drops the repetitions is looked at only here. It keeps the first
occurrence of each name, as does the walk over a list by which an expression names its variables
once: both come to `List.eraseDups` (`Formula.fields_eq_eraseDups`,
`firstOccurrences_eq_eraseDups`), and what follows for the fields of a formula is put
together in `Formula.fields_keep_first_occurrences`.
-/

namespace RankFormula
namespace Formula

/-- Adding a field keeps the fields free of repetitions. -/
theorem addRead_nodup {fields : List String} (distinct : fields.Nodup) (name : String) :
    (addRead fields name).Nodup := by
  unfold addRead
  split
  · exact distinct
  · next absent =>
    have outside : name ∉ fields := by simpa using absent
    rw [List.nodup_append]
    refine ⟨distinct, by simp, ?_⟩
    intro field member other single equal
    rw [List.mem_singleton.mp single] at equal
    exact outside (equal ▸ member)

/-- Adding a field adds it and nothing else. -/
theorem mem_addRead {fields : List String} {name other : String} :
    other ∈ addRead fields name ↔ other ∈ fields ∨ other = name := by
  unfold addRead
  split
  · next present =>
    have inside : name ∈ fields := by simpa using present
    constructor
    · exact .inl
    · rintro (member | rfl)
      · exact member
      · exact inside
  · rw [List.mem_append, List.mem_singleton]

/-- The fields are the variables of the formula. -/
theorem mem_fields {formula : Formula} {name : String} :
    name ∈ formula.fields ↔ name ∈ formula.variableNames := by
  rw [fields, mem_foldl_of_adds mem_addRead]
  exact or_iff_right List.not_mem_nil

/-- No field is read twice, however often the text names it. -/
theorem fields_nodup (formula : Formula) : formula.fields.Nodup := by
  have run : ∀ (names seen : List String), seen.Nodup → (names.foldl addRead seen).Nodup := by
    intro names
    induction names with
    | nil => exact fun seen distinct => distinct
    | cons name names ih =>
      intro seen distinct
      exact ih _ (addRead_nodup distinct name)
  exact run formula.variableNames [] List.nodup_nil

end Formula

/-- One more name at the end is kept unless it occurs before. -/
theorem eraseDups_concat (names : List String) (name : String) :
    (names ++ [name]).eraseDups =
      if name ∈ names then names.eraseDups else names.eraseDups ++ [name] := by
  rw [List.eraseDups_append]
  by_cases met : name ∈ names
  · simp [List.removeAll, met]
  · simp [List.removeAll, met, List.eraseDups_cons]

/-- Names that do not repeat stay as they are. -/
theorem eraseDups_eq_self {names : List String} (distinct : names.Nodup) :
    names.eraseDups = names := by
  induction names with
  | nil => rfl
  | cons name names ih =>
    obtain ⟨absent, distinct⟩ := List.nodup_cons.mp distinct
    have untouched : (names.filter fun other => !other == name) = names := by
      rw [List.filter_eq_self]
      intro other member
      simpa using ne_of_mem_of_not_mem member absent
    rw [List.eraseDups_cons, untouched, ih distinct]

/-- Leaving out names does not change the order of first occurrences of the others. -/
theorem eraseDups_filter (keeps : String → Bool) (names : List String) :
    (names.filter keeps).eraseDups = names.eraseDups.filter keeps := by
  induction names using List.reverseRecOn with
  | nil => rfl
  | append_singleton names name ih =>
    rw [eraseDups_concat, List.filter_append]
    by_cases kept : keeps name
    · have single : [name].filter keeps = [name] := by simp [kept]
      have same : name ∈ names.filter keeps ↔ name ∈ names := by simp [kept]
      rw [single, eraseDups_concat, ih]
      simp only [same]
      split
      · rfl
      · rw [List.filter_append, single]
    · have nothing : [name].filter keeps = [] := by simp [kept]
      rw [nothing, List.append_nil, ih]
      split
      · rfl
      · rw [List.filter_append, nothing, List.append_nil]

/-- Names met so far and one more are left out alike at once and one after the other. -/
theorem filter_removeAll (names seen : List String) (name : String) :
    ((names.removeAll seen).filter fun other => !other == name) =
      names.removeAll (name :: seen) := by
  rw [List.removeAll, List.removeAll, List.filter_filter]
  apply List.filter_congr
  intro other _
  rw [Bool.eq_iff_iff]
  simp

/-- The walk over a list keeps the first occurrences of the names that were not seen before. -/
theorem firstOccurrencesAfter_eq_eraseDups (seen names : List String) :
    firstOccurrencesAfter seen names = (names.removeAll seen).eraseDups := by
  induction names generalizing seen with
  | nil => simp [firstOccurrencesAfter]
  | cons name names ih =>
    rw [firstOccurrencesAfter, List.cons_removeAll, ih, ih]
    by_cases met : name ∈ seen
    · simp [met]
    · have unseen : seen.contains name = false := by simpa using met
      rw [unseen, if_neg Bool.false_ne_true, if_pos rfl, List.eraseDups_cons, filter_removeAll]

/-- The names of a list without their later repetitions are its names without duplicates. -/
theorem firstOccurrences_eq_eraseDups (names : List String) :
    firstOccurrences names = names.eraseDups := by
  rw [firstOccurrences, firstOccurrencesAfter_eq_eraseDups, List.removeAll_nil]

/-- The walk over a list keeps the order in which names occur for the first time. -/
theorem idxOf_firstOccurrencesAfter_lt_iff {seen : List String} (names : List String)
    {first second : String} (newFirst : first ∉ seen) (newSecond : second ∉ seen) :
    (firstOccurrencesAfter seen names).idxOf first <
        (firstOccurrencesAfter seen names).idxOf second ↔
      names.idxOf first < names.idxOf second := by
  induction names generalizing seen with
  | nil => simp [firstOccurrencesAfter]
  | cons name names ih =>
    rw [firstOccurrencesAfter]
    by_cases met : name ∈ seen
    · have otherFirst : name ≠ first := ne_of_mem_of_not_mem met newFirst
      have otherSecond : name ≠ second := ne_of_mem_of_not_mem met newSecond
      rw [if_pos (by simpa using met), ih newFirst newSecond,
        List.idxOf_cons_ne names otherFirst, List.idxOf_cons_ne names otherSecond,
        Nat.succ_lt_succ_iff]
    · rw [if_neg (by simpa using met)]
      by_cases isSecond : name = second
      · simp [isSecond]
      · by_cases isFirst : name = first
        · subst isFirst
          simp [List.idxOf_cons_ne _ isSecond]
        · have others := @ih (name :: seen) (by simp [Ne.symm isFirst, newFirst])
            (by simp [Ne.symm isSecond, newSecond])
          rw [List.idxOf_cons_ne _ isFirst, List.idxOf_cons_ne _ isSecond,
            List.idxOf_cons_ne _ isFirst, List.idxOf_cons_ne _ isSecond,
            Nat.succ_lt_succ_iff, Nat.succ_lt_succ_iff, others]

namespace Formula

/-- The fields are the variables of the formula without their later repetitions. -/
theorem fields_eq_eraseDups (formula : Formula) :
    formula.fields = formula.variableNames.eraseDups := by
  rw [fields]
  -- The fold adds at the end, so the list is taken apart from there.
  induction formula.variableNames using List.reverseRecOn with
  | nil => rfl
  | append_singleton names name ih =>
    have same : names.eraseDups.contains name = true ↔ name ∈ names := by simp
    rw [List.foldl_append, List.foldl_cons, List.foldl_nil, ih, addRead, eraseDups_concat]
    simp only [same]

/-- The fields of a formula are its variables without repetitions, in the order of their first
occurrences: for a formula made from an expression they are the variables that the expression
names, each once, and for any list of variables each name stands once, any two names stand in the
order in which they first occur, reading the fields of the fields changes nothing, and more
variables at the end add those of their fields that were no variables before. -/
theorem fields_keep_first_occurrences (formula : Formula) :
    (∀ whitelist source node, ofNode whitelist source node = .ok formula →
      formula.fields = node.uniqueVariables) ∧
    formula.fields.Nodup ∧
    (∀ name, name ∈ formula.fields ↔ name ∈ formula.variableNames) ∧
    (∀ first second, formula.fields.idxOf first < formula.fields.idxOf second ↔
      formula.variableNames.idxOf first < formula.variableNames.idxOf second) ∧
    ({ formula with variableNames := formula.fields } : Formula).fields = formula.fields ∧
    ∀ more, ({ formula with variableNames := formula.variableNames ++ more } : Formula).fields =
      formula.fields ++
        ({ formula with variableNames := more } : Formula).fields.filter
          (· ∉ formula.variableNames) := by
  refine ⟨?agree, fields_nodup formula, fun name => mem_fields, ?order, ?again, ?more⟩
  case agree =>
    intro whitelist source node made
    rw [ofNode] at made
    split at made
    · cases made
      rw [fields_eq_eraseDups, Node.uniqueVariables, firstOccurrences_eq_eraseDups]
    · cases made
  case order =>
    intro first second
    rw [fields_eq_eraseDups, ← firstOccurrences_eq_eraseDups]
    exact idxOf_firstOccurrencesAfter_lt_iff _ List.not_mem_nil List.not_mem_nil
  case again =>
    rw [fields_eq_eraseDups]
    exact eraseDups_eq_self (fields_nodup formula)
  case more =>
    intro more
    rw [fields_eq_eraseDups, fields_eq_eraseDups, fields_eq_eraseDups, List.eraseDups_append,
      List.removeAll, eraseDups_filter]
    congr 1
    apply List.filter_congr
    intro name _
    simp

/-- A formula that names `likes` on both sides of `age` reads `likes` and `age`. -/
theorem fields_keep_first_occurrences_likes :
    let node : Node := .binary "+"
      (.binary "*" (.identifier "likes") (.identifier "age")) (.identifier "likes")
    let formula : Formula :=
      ⟨"", .object [("$add", .list
        [.object [("$multiply", .list [.string "$likes", .string "$age"])], .string "$likes"])],
        ["likes", "age", "likes"]⟩
    ofNode ⟨["age", "likes"]⟩ "" node = .ok formula ∧
      formula.fields = node.uniqueVariables ∧ formula.fields = ["likes", "age"] := by
  intro node formula
  have made : ofNode ⟨["age", "likes"]⟩ "" node = .ok formula := by rfl
  exact ⟨made, (fields_keep_first_occurrences formula).1 _ _ _ made, rfl⟩

end Formula
end RankFormula
