import RankFormula.Proofs.Store.Memory

/-!
# Stores as tables

What requests rely on in a store is a table of formulas by instance and key. A
`FormulaStore` is any store with such a table: reading leaves the table as it is and finds
what stands in it, a save or a delete that succeeds changes the one entry it names, and one
that fails changes nothing. The store in memory is one (`MemoryStore.formulaStore`).
-/

namespace RankFormula

namespace StoreCall

/-- A call that only asks. -/
def IsRead : StoreCall → Prop
  | .save _ _ => False
  | .delete _ _ => False
  | .mark _ _ _ => False
  | _ => True

/-- A call that only asks, of one instance. -/
def ReadsFrom (instanceID : String) (call : StoreCall) : Prop :=
  call.IsRead ∧ call.instanceID = instanceID

end StoreCall

/-- A call of the store with its answer. -/
abbrev AnsweredCall : Type := (call : StoreCall) × Except StoreFault call.Answer

/-- The formulas of all instances, by key. -/
abbrev FormulaTable := String → RawText → Option StoredFormula

namespace FormulaTable

/-- The table without formulas. -/
def empty : FormulaTable := fun _ _ => none

/-- The table with a formula of an instance put under its key. -/
def put (table : FormulaTable) (instanceID : String) (formula : StoredFormula) : FormulaTable :=
  fun i key =>
    if i = instanceID ∧ key = .ofString formula.key then some formula else table i key

/-- The table without the formula of an instance under a key. -/
def remove (table : FormulaTable) (instanceID : String) (key : RawText) : FormulaTable :=
  fun i k => if i = instanceID ∧ k = key then none else table i k

variable {table : FormulaTable} {instanceID i : String}

/-- Putting a formula leaves the other instances as they are. -/
theorem put_of_ne (apart : i ≠ instanceID) (formula : StoredFormula) :
    table.put instanceID formula i = table i := by
  funext key
  exact if_neg fun both => apart both.1

/-- Removing a formula leaves the other instances as they are. -/
theorem remove_of_ne (apart : i ≠ instanceID) (key : RawText) :
    table.remove instanceID key i = table i := by
  funext k
  exact if_neg fun both => apart both.1

/-- What stands in a table after a formula was put there is the formula or stood there. -/
theorem of_put_eq_some {formula found : StoredFormula} {key : RawText}
    (present : table.put instanceID formula i key = some found) :
    key = .ofString formula.key ∧ found = formula ∨ table i key = some found := by
  unfold put at present
  split at present
  · next both => exact .inl ⟨both.2, (Option.some.inj present).symm⟩
  · exact .inr present

/-- What stands in a table after a formula was removed stood there. -/
theorem of_remove_eq_some {found : StoredFormula} {key k : RawText}
    (present : table.remove instanceID key i k = some found) : table i k = some found := by
  unfold remove at present
  split at present
  · cases present
  · exact present

end FormulaTable

/-- A formula as it was recorded agrees with the one given, up to what a save adds. -/
structure StoredFormula.Records (recorded given : StoredFormula) : Prop where
  /-- The key. -/
  key : recorded.key = given.key
  /-- The expression. -/
  expression : recorded.expression = given.expression
  /-- The variables. -/
  variableNames : recorded.variableNames = given.variableNames
  /-- Whether it is valid. -/
  valid : recorded.valid = given.valid

/-- A store with a table of formulas. -/
structure FormulaStore (σ : Type) where
  /-- Answers a call. -/
  answer : σ → (call : StoreCall) → Except StoreFault call.Answer × σ
  /-- The table in a state. -/
  table : σ → FormulaTable
  /-- Asking leaves the table as it is. -/
  table_of_isRead (state : σ) {call : StoreCall} (read : call.IsRead) :
    table (answer state call).2 = table state
  /-- What is found under a key stands there. -/
  table_of_found {state : σ} {instanceID : String} {key : RawText} {formula : StoredFormula}
    (found : (answer state (.formulaByKey instanceID key)).1 = .ok formula) :
    table state instanceID key = some formula
  /-- Where no formula is found under a key, none stands there. -/
  table_of_not_found {state : σ} {instanceID : String} {key : RawText}
    (absent : (answer state (.formulaByKey instanceID key)).1 = .error .formulaNotFound) :
    table state instanceID key = none
  /-- A save that succeeds puts what it records under the key. -/
  table_of_saved {state : σ} {instanceID : String} {formula recorded : StoredFormula}
    (saved : (answer state (.save instanceID formula)).1 = .ok recorded) :
    recorded.Records formula ∧
      table (answer state (.save instanceID formula)).2 =
        (table state).put instanceID recorded
  /-- A save that fails changes nothing. -/
  table_of_not_saved {state : σ} {instanceID : String} {formula : StoredFormula}
    {fault : StoreFault} (failed : (answer state (.save instanceID formula)).1 = .error fault) :
    table (answer state (.save instanceID formula)).2 = table state
  /-- A delete that succeeds removes what stands under the key. -/
  table_of_deleted {state : σ} {instanceID : String} {key : RawText}
    (deleted : (answer state (.delete instanceID key)).1 = .ok ()) :
    table (answer state (.delete instanceID key)).2 = (table state).remove instanceID key
  /-- A delete that fails changes nothing. -/
  table_of_not_deleted {state : σ} {instanceID : String} {key : RawText} {fault : StoreFault}
    (failed : (answer state (.delete instanceID key)).1 = .error fault) :
    table (answer state (.delete instanceID key)).2 = table state

/-- After an insertion the inserted formula is found under its key, and under other keys what
was found before. -/
theorem find?_insertFormula (formula : StoredFormula) (formulas : List StoredFormula)
    (key : RawText) :
    (insertFormula formula formulas).find? (fun f => .ofString f.key == key) =
      if key = .ofString formula.key then some formula
      else formulas.find? (fun f => .ofString f.key == key) := by
  by_cases same : key = .ofString formula.key
  · subst same
    rw [if_pos rfl]
    induction formulas with
    | nil => simp [insertFormula]
    | cons other formulas ih =>
      unfold insertFormula
      split
      · next less =>
        have apart : other.key ≠ formula.key := String.ne_of_lt less
        simpa [apart] using ih
      · split <;> simp
  · rw [if_neg same]
    have apart : RawText.ofString formula.key ≠ key := Ne.symm same
    induction formulas with
    | nil => simp [insertFormula, apart]
    | cons other formulas ih =>
      unfold insertFormula
      split
      · rw [List.find?_cons, List.find?_cons, ih]
      · split
        · next replaced => simp [replaced, apart]
        · simp [apart]

namespace MemoryStore

variable {store : MemoryStore} {instanceID : String}

/-- What a save records agrees with what was given. -/
theorem stamped_records (store : MemoryStore) (instanceID : String) (formula : StoredFormula) :
    (store.stamped instanceID formula).Records formula := by
  refine ⟨stamped_key formula, stamped_expression formula, ?_, stamped_valid formula⟩
  unfold stamped
  dsimp only
  split <;> rfl

/-- A call for one instance leaves what is found in the others. -/
theorem formula?_answer_of_ne (call : StoreCall) {i : String} (apart : i ≠ call.instanceID)
    (key : RawText) : (store.answer call).2.formula? i key = store.formula? i key := by
  unfold formula?
  rw [formulasOf_answer_of_ne call apart]

/-- A save puts the formula under its key. -/
theorem formula?_save (formula : StoredFormula) :
    (store.answer (.save instanceID formula)).2.formula? =
      FormulaTable.put store.formula? instanceID (store.stamped instanceID formula) := by
  funext i key
  unfold FormulaTable.put
  by_cases concerned : i = instanceID
  · subst concerned
    rw [formula?, formulasOf_save, find?_insertFormula]
    simp only [true_and]
    rfl
  · rw [formula?_answer_of_ne _ concerned, if_neg fun both => concerned both.1]

/-- A delete removes the formula under the key. -/
theorem formula?_delete (key : RawText) :
    (store.answer (.delete instanceID key)).2.formula? =
      FormulaTable.remove store.formula? instanceID key := by
  funext i k
  unfold FormulaTable.remove
  by_cases concerned : i = instanceID
  · subst concerned
    rw [formula?, formulasOf_delete, List.find?_filter]
    simp only [true_and]
    split
    · next same =>
      rw [same, List.find?_eq_none]
      simp
    · next apart =>
      unfold formula?
      congr 1
      funext f
      by_cases named : RawText.ofString f.key = k
      · simp [named, apart]
      · simp [named]
  · rw [formula?_answer_of_ne _ concerned, if_neg fun both => concerned both.1]

/-- The store in memory has the table of what is found in it. -/
def formulaStore : FormulaStore MemoryStore where
  answer := answer
  table := formula?
  table_of_isRead store call read := by
    cases call with
    | formulaByKey instanceID key =>
      simp only [answer]
      split <;> rfl
    | save instanceID formula => exact read.elim
    | delete instanceID key => exact read.elim
    | mark instanceID key check => exact read.elim
    | _ => rfl
  table_of_found {store instanceID key formula} found := by
    simp only [answer] at found
    split at found
    · next present => rw [present, Except.ok.inj found]
    · cases found
  table_of_not_found {store instanceID key} absent := by
    simp only [answer] at absent
    split at absent
    · cases absent
    · next missing => exact missing
  table_of_saved {store instanceID formula recorded} saved := by
    obtain rfl : store.stamped instanceID formula = recorded := Except.ok.inj saved
    exact ⟨store.stamped_records instanceID formula, formula?_save formula⟩
  table_of_not_saved failed := by cases failed
  table_of_deleted _ := formula?_delete _
  table_of_not_deleted {store instanceID key fault} failed := by
    simp only [answer] at failed ⊢
    split at failed
    · cases failed
    · rfl

@[simp] theorem formulaStore_answer : formulaStore.answer = answer := rfl

@[simp] theorem formulaStore_table : formulaStore.table = formula? := rfl

end MemoryStore
end RankFormula
