import RankFormula.Store.Call
import RankFormula.Text.Hex

/-!
# A store in memory

A store that keeps the formulas of every instance by key and answers every call at
once. Saving counts: the n-th save happens n seconds after a fixed instant, and a
formula saved for the first time takes that number as its identifier. Posts are
the same for all instances and are not filtered.
-/

namespace RankFormula

/-- Inserts a formula into formulas in increasing order of keys, in place of the
one under its key. -/
def insertFormula (formula : StoredFormula) : List StoredFormula → List StoredFormula
  | [] => [formula]
  | other :: rest =>
    if other.key < formula.key then other :: insertFormula formula rest
    else if other.key = formula.key then formula :: rest
    else formula :: other :: rest

/-- A store in memory. -/
structure MemoryStore where
  /-- The formulas of the instances, in increasing order of keys. -/
  formulas : List (String × List StoredFormula)
  /-- The posts that every ranking answers. -/
  posts : Option (List Value)
  /-- The number of posts that every count answers. -/
  totalCount : Int64
  /-- The number of saves so far. -/
  saves : Nat
  /-- The instant before the first save. -/
  opened : Instant

namespace MemoryStore

/-- The formulas of an instance. -/
def formulasOf (store : MemoryStore) (instanceID : String) : List StoredFormula :=
  (getField? instanceID store.formulas).getD []

/-- The formula of an instance under a key. -/
def formula? (store : MemoryStore) (instanceID : String) (key : RawText) :
    Option StoredFormula :=
  (store.formulasOf instanceID).find? fun f => .ofString f.key == key

/-- Replaces the formulas of an instance. -/
def withFormulas (store : MemoryStore) (instanceID : String) (formulas : List StoredFormula) :
    MemoryStore :=
  { store with formulas := setField instanceID formulas store.formulas }

/-- The instant of a save. -/
def saveTime (store : MemoryStore) (number : Nat) : Instant :=
  store.opened.addNanos (number * nanosPerSecond)

/-- The formula as a save records it. -/
def stamped (store : MemoryStore) (instanceID : String) (formula : StoredFormula) : StoredFormula :=
  let number := store.saves + 1
  let now := ZonedTime.utc (store.saveTime number)
  match store.formula? instanceID formula.key with
  | some old =>
    { formula with id := old.id, createdAt := old.createdAt, updatedAt := now, checkedAt := now }
  | none =>
    { formula with
      id := String.ofList (lowerHex 24 number)
      createdAt := now
      updatedAt := now
      checkedAt := now }

/-- Answers a call. -/
def answer (store : MemoryStore) : (call : StoreCall) → Except StoreFault call.Answer × MemoryStore
  | .formulas instanceID onlyValid =>
    (.ok ((store.formulasOf instanceID).filter fun f => !onlyValid || f.valid), store)
  | .formulaByKey instanceID key =>
    match store.formula? instanceID key with
    | some f => (.ok f, store)
    | none => (.error .formulaNotFound, store)
  | .save instanceID formula =>
    let saved := store.stamped instanceID formula
    (.ok saved,
      { store.withFormulas instanceID (insertFormula saved (store.formulasOf instanceID)) with
        saves := store.saves + 1 })
  | .delete instanceID key =>
    match store.formula? instanceID key with
    | some _ =>
      let kept := (store.formulasOf instanceID).filter fun f => .ofString f.key != key
      (.ok (), store.withFormulas instanceID kept)
    | none => (.error .formulaNotFound, store)
  | .mark instanceID key check =>
    match store.formula? instanceID key with
    | some _ =>
      (.ok (),
        store.withFormulas instanceID ((store.formulasOf instanceID).map fun f =>
          if f.key = key then
            { f with
              valid := check.valid, lastError := check.lastError,
              checkedAt := .utc (store.saveTime store.saves) }
          else f))
    | none => (.error .formulaNotFound, store)
  | .page _ _ page limit => (.ok (.clamp store.totalCount page limit), store)
  | .ranked _ _ => (.ok store.posts, store)

/-- Answers a call, or loses the connection on calls of a certain kind. -/
def answerUnless (lost : StoreCall → Bool) (store : MemoryStore) (call : StoreCall) :
    Except StoreFault call.Answer × MemoryStore :=
  if lost call then (.error (.refused "connection lost"), store) else store.answer call

end MemoryStore
end RankFormula
