import RankFormula.Store.Memory

/-!
# What a store in memory keeps

Each call of the store is described by the formulas that every instance has after it, so
that later proofs speak of formulas and not of the list in which the store keeps its
instances. The formulas of an instance are in increasing order of keys (`KeysIncreasing`),
which every call keeps; under it a key names at most one formula, and a save replaces
exactly the formula under its key.
-/

namespace RankFormula

section Fields

variable {α : Type} {name other : String} {value : α}

/-- A field that was just set has its new value. -/
@[simp] theorem getField?_setField_self (fields : List (String × α)) :
    getField? name (setField name value fields) = some value := by
  induction fields with
  | nil => simp [setField, getField?]
  | cons field fields ih =>
    obtain ⟨first, old⟩ := field
    unfold setField
    split
    · next same => simp [getField?, same]
    · next differs =>
      have skipped : (first == name) = false := by simpa using differs
      simpa [getField?, skipped] using ih

/-- Setting a field leaves the others as they are. -/
theorem getField?_setField_of_ne (apart : other ≠ name) (fields : List (String × α)) :
    getField? other (setField name value fields) = getField? other fields := by
  induction fields with
  | nil => simp [setField, getField?, apart.symm]
  | cons field fields ih =>
    obtain ⟨first, old⟩ := field
    unfold setField
    split
    · next same =>
      have skipped : (first == other) = false := by simpa [same] using apart.symm
      simp [getField?, skipped]
    · by_cases found : first = other
      · simp [getField?, found]
      · have skipped : (first == other) = false := by simpa using found
        simpa [getField?, skipped] using ih

end Fields

/-- Formulas in increasing order of keys. -/
def KeysIncreasing (formulas : List StoredFormula) : Prop :=
  formulas.Pairwise fun a b => a.key < b.key

/-- In increasing order a key names at most one formula. -/
theorem KeysIncreasing.eq_of_key_eq {formulas : List StoredFormula}
    (increasing : KeysIncreasing formulas) {f g : StoredFormula} (fMember : f ∈ formulas)
    (gMember : g ∈ formulas) (same : f.key = g.key) : f = g := by
  induction formulas with
  | nil => cases fMember
  | cons first formulas ih =>
    obtain ⟨below, rest⟩ := List.pairwise_cons.mp increasing
    rcases List.mem_cons.mp fMember with rfl | fRest
    · rcases List.mem_cons.mp gMember with rfl | gRest
      · rfl
      · exact absurd same (String.ne_of_lt (below g gRest))
    · rcases List.mem_cons.mp gMember with rfl | gRest
      · exact absurd same.symm (String.ne_of_lt (below f fRest))
      · exact ih rest fRest gRest

/-- What an insertion leaves was there or is the inserted formula. -/
theorem eq_or_mem_of_mem_insertFormula {formula f : StoredFormula}
    {formulas : List StoredFormula} (member : f ∈ insertFormula formula formulas) :
    f = formula ∨ f ∈ formulas := by
  induction formulas with
  | nil => exact .inl (List.mem_singleton.mp member)
  | cons other formulas ih =>
    unfold insertFormula at member
    split at member
    · rcases List.mem_cons.mp member with rfl | inRest
      · exact .inr List.mem_cons_self
      · exact (ih inRest).imp id (List.mem_cons_of_mem _)
    · split at member
      · exact (List.mem_cons.mp member).imp id (List.mem_cons_of_mem _)
      · exact List.mem_cons.mp member

/-- An insertion keeps the order of keys. -/
theorem KeysIncreasing.insertFormula {formulas : List StoredFormula}
    (increasing : KeysIncreasing formulas) (formula : StoredFormula) :
    KeysIncreasing (insertFormula formula formulas) := by
  induction formulas with
  | nil => exact List.pairwise_singleton _ _
  | cons other formulas ih =>
    obtain ⟨below, rest⟩ := List.pairwise_cons.mp increasing
    unfold RankFormula.insertFormula
    split
    · next less =>
      refine List.pairwise_cons.mpr ⟨fun f member => ?_, ih rest⟩
      rcases eq_or_mem_of_mem_insertFormula member with rfl | inRest
      · exact less
      · exact below f inRest
    · next notLess =>
      split
      · next same =>
        refine List.pairwise_cons.mpr ⟨fun f member => ?_, rest⟩
        rw [← same]
        exact below f member
      · next differs =>
        have greater : formula.key < other.key := by
          apply String.not_le.mp
          intro reverse
          exact differs (String.le_antisymm reverse (String.not_lt.mp notLess))
        refine List.pairwise_cons.mpr ⟨fun f member => ?_, increasing⟩
        rcases List.mem_cons.mp member with rfl | inRest
        · exact greater
        · exact String.lt_trans greater (below f inRest)

/-- An inserted formula is there. -/
theorem mem_insertFormula_self (formula : StoredFormula) (formulas : List StoredFormula) :
    formula ∈ insertFormula formula formulas := by
  induction formulas with
  | nil => exact List.mem_singleton.mpr rfl
  | cons other formulas ih =>
    unfold insertFormula
    split
    · exact List.mem_cons_of_mem _ ih
    · split <;> exact List.mem_cons_self

/-- An insertion replaces the formula under its key: what it leaves is the inserted formula,
or was there under another key. -/
theorem KeysIncreasing.of_mem_insertFormula {formulas : List StoredFormula}
    (increasing : KeysIncreasing formulas) {formula f : StoredFormula}
    (member : f ∈ RankFormula.insertFormula formula formulas) :
    f = formula ∨ f ∈ formulas ∧ f.key ≠ formula.key := by
  by_cases same : f.key = formula.key
  · exact .inl ((increasing.insertFormula formula).eq_of_key_eq member
      (mem_insertFormula_self formula formulas) same)
  · rcases eq_or_mem_of_mem_insertFormula member with rfl | inside
    · exact absurd rfl same
    · exact .inr ⟨inside, same⟩

namespace MemoryStore

variable {store : MemoryStore} {instanceID other : String}

/-- The formulas that an instance was given are its formulas. -/
@[simp] theorem formulasOf_withFormulas_self (formulas : List StoredFormula) :
    (store.withFormulas instanceID formulas).formulasOf instanceID = formulas := by
  simp [formulasOf, withFormulas]

/-- Giving formulas to an instance leaves the others as they are. -/
theorem formulasOf_withFormulas_of_ne (apart : other ≠ instanceID)
    (formulas : List StoredFormula) :
    (store.withFormulas instanceID formulas).formulasOf other = store.formulasOf other := by
  simp [formulasOf, withFormulas, getField?_setField_of_ne apart]

/-- A formula as it is after a check was recorded under a key. -/
def marked (store : MemoryStore) (key : String) (check : CheckResult) (f : StoredFormula) :
    StoredFormula :=
  if f.key = key then
    { f with
      valid := check.valid, lastError := check.lastError,
      checkedAt := .utc (store.saveTime store.saves) }
  else f

section Marked

variable {key : String} {check : CheckResult} {f : StoredFormula}

/-- Recording a check keeps the key. -/
@[simp] theorem marked_key : (store.marked key check f).key = f.key := by
  unfold marked
  split <;> rfl

/-- Recording a check keeps the expression. -/
@[simp] theorem marked_expression : (store.marked key check f).expression = f.expression := by
  unfold marked
  split <;> rfl

/-- Recording a check sets what it found. -/
theorem marked_valid (same : f.key = key) : (store.marked key check f).valid = check.valid := by
  simp [marked, same]

/-- Recording a check under another key changes nothing. -/
theorem marked_of_ne (apart : f.key ≠ key) : store.marked key check f = f := by
  simp [marked, apart]

end Marked

/-- A save keeps the key of a formula. -/
@[simp] theorem stamped_key (formula : StoredFormula) :
    (store.stamped instanceID formula).key = formula.key := by
  unfold stamped
  dsimp only
  split <;> rfl

/-- A save keeps the expression of a formula. -/
@[simp] theorem stamped_expression (formula : StoredFormula) :
    (store.stamped instanceID formula).expression = formula.expression := by
  unfold stamped
  dsimp only
  split <;> rfl

/-- A save keeps whether a formula is valid. -/
@[simp] theorem stamped_valid (formula : StoredFormula) :
    (store.stamped instanceID formula).valid = formula.valid := by
  unfold stamped
  dsimp only
  split <;> rfl

/-- Where no formula is found under a key, none has it. -/
theorem key_ne_of_formula?_eq_none {key : RawText} (absent : store.formula? instanceID key = none)
    {f : StoredFormula} (member : f ∈ store.formulasOf instanceID) :
    RawText.ofString f.key ≠ key := by
  simpa using List.find?_eq_none.mp absent f member

/-- Asking for all formulas answers them and changes nothing. -/
theorem answer_formulas :
    store.answer (.formulas instanceID false) = (.ok (store.formulasOf instanceID), store) := by
  have all : (store.formulasOf instanceID).filter (fun f => !false || f.valid) =
      store.formulasOf instanceID := List.filter_eq_self.mpr fun _ _ => rfl
  rw [answer, all]

/-- A save inserts the formula with the time of the save. -/
theorem formulasOf_save (formula : StoredFormula) :
    (store.answer (.save instanceID formula)).2.formulasOf instanceID =
      insertFormula (store.stamped instanceID formula) (store.formulasOf instanceID) := by
  exact formulasOf_withFormulas_self _

/-- A delete leaves the formulas under other keys. -/
theorem formulasOf_delete (key : RawText) :
    (store.answer (.delete instanceID key)).2.formulasOf instanceID =
      (store.formulasOf instanceID).filter fun f => RawText.ofString f.key != key := by
  simp only [answer]
  split
  · exact formulasOf_withFormulas_self _
  · next absent =>
    symm
    rw [List.filter_eq_self]
    intro f member
    simpa using key_ne_of_formula?_eq_none absent member

/-- A mark records what was found with the formula under the key. -/
theorem formulasOf_mark (key : String) (check : CheckResult) :
    (store.answer (.mark instanceID key check)).2.formulasOf instanceID =
      (store.formulasOf instanceID).map (store.marked key check) := by
  simp only [answer]
  split
  · exact formulasOf_withFormulas_self _
  · next absent =>
    have unchanged : ∀ f ∈ store.formulasOf instanceID, store.marked key check f = f := by
      intro f member
      refine marked_of_ne fun same => key_ne_of_formula?_eq_none absent member ?_
      rw [same]
    exact ((List.map_congr_left unchanged).trans (List.map_id _)).symm

/-- After a mark a formula is the marked one, or was there under another key. -/
theorem of_mem_formulasOf_mark {key : String} {check : CheckResult} {f : StoredFormula}
    (member : f ∈ (store.answer (.mark instanceID key check)).2.formulasOf instanceID) :
    (∃ g ∈ store.formulasOf instanceID, g.key = key ∧ f = store.marked key check g) ∨
      f ∈ store.formulasOf instanceID ∧ f.key ≠ key := by
  rw [formulasOf_mark] at member
  obtain ⟨g, inside, rfl⟩ := List.mem_map.mp member
  by_cases same : g.key = key
  · exact .inl ⟨g, inside, same, rfl⟩
  · rw [marked_of_ne same]
    exact .inr ⟨inside, same⟩

/-- A call for one instance leaves the formulas of the others as they are. -/
theorem formulasOf_answer_of_ne (call : StoreCall) (apart : other ≠ call.instanceID) :
    (store.answer call).2.formulasOf other = store.formulasOf other := by
  cases call with
  | formulas i onlyValid => rfl
  | formulaByKey i key =>
    simp only [answer]
    split <;> rfl
  | save i formula => exact formulasOf_withFormulas_of_ne apart _
  | delete i key =>
    simp only [answer]
    split
    · exact formulasOf_withFormulas_of_ne apart _
    · rfl
  | mark i key check =>
    simp only [answer]
    split
    · exact formulasOf_withFormulas_of_ne apart _
    · rfl
  | page i filter page limit => rfl
  | ranked i pipeline => rfl

/-- Every call keeps the order of keys. -/
theorem keysIncreasing_answer (increasing : KeysIncreasing (store.formulasOf instanceID))
    (call : StoreCall) : KeysIncreasing ((store.answer call).2.formulasOf instanceID) := by
  by_cases concerned : instanceID = call.instanceID
  · subst concerned
    cases call with
    | formulas i onlyValid => exact increasing
    | formulaByKey i key =>
      simp only [answer]
      split <;> exact increasing
    | save i formula =>
      rw [StoreCall.instanceID, formulasOf_save]
      exact increasing.insertFormula _
    | delete i key =>
      rw [StoreCall.instanceID, formulasOf_delete]
      exact List.Pairwise.filter _ increasing
    | mark i key check =>
      rw [StoreCall.instanceID, formulasOf_mark]
      refine List.pairwise_map.mpr (List.Pairwise.imp (fun {a b} less => ?_) increasing)
      rw [marked_key, marked_key]
      exact less
    | page i filter page limit => exact increasing
    | ranked i pipeline => exact increasing
  · rw [formulasOf_answer_of_ne call concerned]
    exact increasing

end MemoryStore
end RankFormula
