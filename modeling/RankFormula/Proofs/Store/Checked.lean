import Mathlib.Data.List.Nodup
import RankFormula.Proofs.Store.Memory

/-!
# Stores that record checks

What an audit relies on in a store is the formulas of each instance and a clock. A
`CheckedStore` is any store that lists these formulas and records a check with the formula
under its key and with the time of the call, and to which nobody else writes. The store in
memory is one (`MemoryStore.checkedStore`). A state of such a store `Remembers` a check by the
date of its formula.
-/

namespace RankFormula

namespace StoredFormula

variable {f : StoredFormula} {key : String} {check : CheckResult} {time : ZonedTime}

/-- The formula as it is after a check was recorded under a key at a time. -/
def recorded (f : StoredFormula) (key : String) (check : CheckResult) (time : ZonedTime) :
    StoredFormula :=
  if f.key = key then
    { f with valid := check.valid, lastError := check.lastError, checkedAt := time }
  else f

/-- A recorded check keeps the key. -/
@[simp] theorem recorded_key : (f.recorded key check time).key = f.key := by
  unfold recorded
  split <;> rfl

/-- A check under the key of a formula is recorded with it. -/
theorem recorded_of_eq (same : f.key = key) :
    f.recorded key check time =
      { f with valid := check.valid, lastError := check.lastError, checkedAt := time } :=
  if_pos same

/-- A check under the key of a formula dates it. -/
theorem recorded_checkedAt (same : f.key = key) :
    (f.recorded key check time).checkedAt = time := by
  rw [recorded_of_eq same]

/-- A check under another key changes nothing. -/
theorem recorded_of_ne (apart : f.key ≠ key) : f.recorded key check time = f :=
  if_neg apart

/-- The formula but for the time of its last check. -/
def timeless (f : StoredFormula) : StoredFormula := { f with checkedAt := .zero }

/-- What is stored of the last check is what a check of the text finds now. -/
def Agrees (f : StoredFormula) (whitelist : Whitelist) : Prop :=
  checkStored whitelist f.expression = ⟨f.valid, f.lastError⟩

/-- A formula agrees with its check once that is recorded. -/
theorem recorded_agrees (whitelist : Whitelist) (same : f.key = key) :
    (f.recorded key (checkStored whitelist f.expression) time).Agrees whitelist := by
  rw [recorded_of_eq same]
  rfl

/-- Recording the check of a formula that agrees with it changes only the time. -/
theorem Agrees.timeless_recorded {whitelist : Whitelist} (agrees : f.Agrees whitelist) :
    (f.recorded f.key (checkStored whitelist f.expression) time).timeless = f.timeless := by
  rw [recorded_of_eq rfl, agrees]
  rfl

end StoredFormula

/-- A check that a mark records: of which formula, and when. -/
structure RecordedCheck where
  /-- The instance of the formula. -/
  instanceID : String
  /-- The key of the formula. -/
  key : String
  /-- The time of the mark. -/
  time : Instant
  deriving DecidableEq, Repr

/-- Two checks of one formula. -/
def RecordedCheck.SameFormula (a b : RecordedCheck) : Prop :=
  a.instanceID = b.instanceID ∧ a.key = b.key

/-- A store that records checks with the time of the call, and that nobody else writes to. -/
structure CheckedStore (σ : Type) where
  /-- Answers a call. -/
  answer : σ → (call : StoreCall) → Except StoreFault call.Answer × σ
  /-- The formulas of an instance. -/
  formulasOf : σ → String → List StoredFormula
  /-- The time of a call that is made in a state. -/
  time : σ → ZonedTime
  /-- A listing answers the formulas of the instance. -/
  answer_formulas (state : σ) (instanceID : String) :
    (answer state (.formulas instanceID false)).1 = .ok (formulasOf state instanceID)
  /-- A listing leaves the formulas as they are. -/
  formulasOf_listed (state : σ) (instanceID : String) :
    formulasOf (answer state (.formulas instanceID false)).2 = formulasOf state
  /-- A mark is recorded with the formula under its key, at the time of the call. -/
  formulasOf_marked (state : σ) (instanceID key : String) (check : CheckResult) (other : String) :
    formulasOf (answer state (.mark instanceID key check)).2 other =
      if other = instanceID then
        (formulasOf state other).map (·.recorded key check (time state))
      else formulasOf state other

namespace CheckedStore

variable {σ : Type} {store : CheckedStore σ} {state : σ} {instanceID other key : String}
  {check : CheckResult} {f : StoredFormula}

/-- The check that a call records if it is made in a state. -/
def recordedCheck? (store : CheckedStore σ) : σ × StoreCall → Option RecordedCheck
  | (state, .mark instanceID key _) => some ⟨instanceID, key, (store.time state).instant⟩
  | _ => none

/-- The formula of a check is dated no earlier than the check. -/
structure Remembers (store : CheckedStore σ) (state : σ) (check : RecordedCheck) : Prop where
  /-- The check has a time. -/
  dated : 0 < check.time.nanoseconds
  /-- The formula was not checked last before that time. -/
  since : ∀ f ∈ store.formulasOf state check.instanceID, f.key = check.key →
    check.time.nanoseconds ≤ f.checkedAt.instant.nanoseconds

/-- Only the formulas of a state count for what it remembers. -/
theorem Remembers.congr {recorded : RecordedCheck} (remembers : store.Remembers state recorded)
    {later : σ} (same : store.formulasOf later = store.formulasOf state) :
    store.Remembers later recorded := by
  refine ⟨remembers.dated, fun f inside => remembers.since f ?_⟩
  rw [← same]
  exact inside

/-- A formula after a mark was marked, or it was there and is none of those to mark. -/
theorem of_mem_marked
    (member : f ∈ store.formulasOf (store.answer state (.mark instanceID key check)).2 other) :
    (other = instanceID ∧ ∃ g ∈ store.formulasOf state other,
      g.key = key ∧ f = g.recorded key check (store.time state)) ∨
    f ∈ store.formulasOf state other ∧ ¬(other = instanceID ∧ f.key = key) := by
  rw [store.formulasOf_marked] at member
  by_cases concerned : other = instanceID
  · rw [if_pos concerned] at member
    obtain ⟨g, inside, rfl⟩ := List.mem_map.mp member
    by_cases same : g.key = key
    · exact .inl ⟨concerned, g, inside, same, rfl⟩
    · rw [StoredFormula.recorded_of_ne same]
      exact .inr ⟨inside, fun both => same both.2⟩
  · rw [if_neg concerned] at member
    exact .inr ⟨member, fun both => concerned both.1⟩

/-- A formula under another key is there after a mark. -/
theorem mem_marked_of_ne (apart : f.key ≠ key) (member : f ∈ store.formulasOf state other) :
    f ∈ store.formulasOf (store.answer state (.mark instanceID key check)).2 other := by
  rw [store.formulasOf_marked]
  split
  · exact List.mem_map.mpr ⟨f, member, StoredFormula.recorded_of_ne apart⟩
  · exact member

/-- In every instance a key names at most one formula. -/
def KeysUnique (store : CheckedStore σ) (state : σ) : Prop :=
  ∀ instanceID, ((store.formulasOf state instanceID).map StoredFormula.key).Nodup

/-- Formulas of an instance under one key are the same. -/
theorem KeysUnique.eq_of_key_eq (unique : store.KeysUnique state) {g : StoredFormula}
    (here : f ∈ store.formulasOf state instanceID) (there : g ∈ store.formulasOf state instanceID)
    (same : f.key = g.key) : f = g :=
  List.inj_on_of_nodup_map (unique instanceID) here there same

/-- Only the formulas of a state count for its keys. -/
theorem KeysUnique.congr (unique : store.KeysUnique state) {later : σ}
    (same : store.formulasOf later = store.formulasOf state) : store.KeysUnique later := by
  intro instanceID
  rw [same]
  exact unique instanceID

/-- A mark keeps the keys. -/
theorem KeysUnique.marked (unique : store.KeysUnique state) :
    store.KeysUnique (store.answer state (.mark instanceID key check)).2 := by
  intro other
  have names : (store.formulasOf (store.answer state (.mark instanceID key check)).2 other).map
      StoredFormula.key = (store.formulasOf state other).map StoredFormula.key := by
    rw [store.formulasOf_marked]
    split
    · rw [List.map_map]
      exact List.map_congr_left fun f _ => StoredFormula.recorded_key
    · rfl
  rw [names]
  exact unique other

end CheckedStore

namespace MemoryStore

/-- The store in memory records checks with the time of its last save. -/
def checkedStore : CheckedStore MemoryStore where
  answer := answer
  formulasOf := formulasOf
  time store := .utc (store.saveTime store.saves)
  answer_formulas store instanceID := congrArg Prod.fst answer_formulas
  formulasOf_listed store instanceID := rfl
  formulasOf_marked store instanceID key check other := by
    split
    · next concerned =>
      subst concerned
      exact formulasOf_mark key check
    · next apart => exact formulasOf_answer_of_ne (.mark instanceID key check) apart

end MemoryStore
end RankFormula
