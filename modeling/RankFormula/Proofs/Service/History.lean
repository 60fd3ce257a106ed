import RankFormula.Proofs.Service.Server
import RankFormula.Proofs.Store.Table

/-!
# Histories of the documents

Clients save, mark and delete formulas over any connections, in any order; every such call is one
command, which the server carries out as a whole. `Served` runs keep the calls with their replies,
the latest first. From that history alone it can be told when a formula was first saved since it
was last deleted (`firstSave?`), what was saved last (`latestSave?`), and what was found about it
last, by a save or by a mark that found it (`latestCheck?`).
-/

namespace RankFormula

/-- A call that was served: over which connection, when, and what it answered. -/
structure ServedCall where
  /-- The connection of the client. -/
  connection : Connection
  /-- The time at the client. -/
  now : Instant
  /-- The call. -/
  call : StoreCall
  /-- What it answered. -/
  reply : Except StoreFault call.Answer

/-- Any number of writing calls in any order, the latest first, and the server after them. There
were no documents in the beginning. -/
inductive Served : List ServedCall → Server → Prop where
  /-- No call was made. -/
  | start : Served [] fun _ => []
  /-- One more call is served. -/
  | call {history : List ServedCall} {server last : Server} (latest : ServedCall)
    (before : Served history server) (writes : ¬latest.call.IsRead)
    (plays : Plays (latest.connection.answer latest.now latest.call) server latest.reply last) :
    Served (latest :: history) last

section History

variable (collection : Collection) (key : String)

/-- The formula that a call saved under a key, and when. -/
def ServedCall.saved? : ServedCall → Option (StoredFormula × Instant)
  | ⟨connection, now, .save instanceID formula, _⟩ =>
    if connection.formulas instanceID = collection ∧ formula.key = key then some (formula, now)
    else none
  | _ => none

/-- What a call recorded about the validity of the formula under a key, and when. -/
def ServedCall.checked? : ServedCall → Option (CheckResult × Instant)
  | ⟨connection, now, .save instanceID formula, _⟩ =>
    if connection.formulas instanceID = collection ∧ formula.key = key then
      some (⟨formula.valid, formula.lastError⟩, now)
    else none
  | ⟨connection, now, .mark instanceID marked check, .ok _⟩ =>
    if connection.formulas instanceID = collection ∧ marked = key then some (check, now) else none
  | _ => none

/-- Whether a call deleted the formula under a key. -/
def ServedCall.deletes : ServedCall → Bool
  | ⟨connection, _, .delete instanceID deleted, .ok _⟩ =>
    connection.formulas instanceID = collection ∧ deleted = .ofString key
  | _ => false

/-- A call does not concern the formula under a key. -/
structure ServedCall.Spares (call : ServedCall) : Prop where
  /-- It does not save it. -/
  unsaved : call.saved? collection key = none
  /-- It does not mark it. -/
  unchecked : call.checked? collection key = none
  /-- It does not delete it. -/
  undeleted : call.deletes collection key = false

/-- The latest save on a key. -/
def latestSave? (history : List ServedCall) : Option (StoredFormula × Instant) :=
  history.findSome? (ServedCall.saved? collection key)

/-- The latest save on a key or mark of it. -/
def latestCheck? (history : List ServedCall) : Option (CheckResult × Instant) :=
  history.findSome? (ServedCall.checked? collection key)

/-- The first save on a key after it was last deleted, if it ever was. -/
def firstSave? (history : List ServedCall) : Option (StoredFormula × Instant) :=
  ((history.takeWhile fun call => !call.deletes collection key).filterMap
    (ServedCall.saved? collection key)).getLast?

end History

section Latest

variable {collection : Collection} {key : String} {call : ServedCall} {history : List ServedCall}

/-- A call on another collection does not concern the formula. -/
theorem ServedCall.spares_of_collection_ne
    (other : call.connection.formulas call.call.instanceID ≠ collection) :
    call.Spares collection key := by
  obtain ⟨connection, now, call, reply⟩ := call
  cases call with
  | save instanceID formula =>
    have apart : connection.formulas instanceID ≠ collection := other
    constructor <;> simp [saved?, checked?, deletes, apart]
  | mark instanceID marked check =>
    have apart : connection.formulas instanceID ≠ collection := other
    cases reply <;> constructor <;> simp [saved?, checked?, deletes, apart]
  | delete instanceID deleted =>
    have apart : connection.formulas instanceID ≠ collection := other
    cases reply <;> constructor <;> simp [saved?, checked?, deletes, apart]
  | _ => constructor <;> rfl

/-- A save under another key does not concern the formula. -/
theorem ServedCall.spares_save {connection : Connection} {now : Instant} {instanceID : String}
    {formula : StoredFormula} {reply : Except StoreFault StoredFormula}
    (other : formula.key ≠ key) :
    Spares collection key ⟨connection, now, .save instanceID formula, reply⟩ := by
  constructor <;> simp [saved?, checked?, deletes, other]

/-- A mark of another key does not concern the formula. -/
theorem ServedCall.spares_mark {connection : Connection} {now : Instant}
    {instanceID marked : String} {check : CheckResult} {reply : Except StoreFault Unit}
    (other : marked ≠ key) :
    Spares collection key ⟨connection, now, .mark instanceID marked check, reply⟩ := by
  cases reply <;> constructor <;> simp [saved?, checked?, deletes, other]

/-- A delete of another key does not concern the formula. -/
theorem ServedCall.spares_delete {connection : Connection} {now : Instant} {instanceID : String}
    {deleted : RawText} {reply : Except StoreFault Unit} (other : deleted ≠ .ofString key) :
    Spares collection key ⟨connection, now, .delete instanceID deleted, reply⟩ := by
  cases reply <;> constructor <;> simp [saved?, checked?, deletes, other]

/-- A call that fails to find a formula concerns none. -/
theorem ServedCall.spares_of_error {connection : Connection} {now : Instant} {call : StoreCall}
    {fault : StoreFault} (unsaving : ∀ instanceID formula, call ≠ .save instanceID formula) :
    Spares collection key ⟨connection, now, call, .error fault⟩ := by
  cases call with
  | save instanceID formula => exact absurd rfl (unsaving instanceID formula)
  | _ => constructor <;> rfl

/-- A save is the first one unless there is another since the last delete. -/
theorem firstSave?_cons_of_saved {save : StoredFormula × Instant}
    (undeleted : call.deletes collection key = false)
    (saved : call.saved? collection key = some save) :
    firstSave? collection key (call :: history) =
      some ((firstSave? collection key history).getD save) := by
  simp [firstSave?, undeleted, saved, List.getLast?_cons]

/-- A call that neither saves nor deletes leaves the first save. -/
theorem firstSave?_cons_of_unsaved (undeleted : call.deletes collection key = false)
    (unsaved : call.saved? collection key = none) :
    firstSave? collection key (call :: history) = firstSave? collection key history := by
  simp [firstSave?, undeleted, unsaved]

/-- The first save stays the first one until the formula is deleted. -/
theorem firstSave?_append {later : List ServedCall} {first : StoredFormula × Instant}
    (undeleted : ∀ call ∈ later, call.deletes collection key = false)
    (created : firstSave? collection key history = some first) :
    firstSave? collection key (later ++ history) = some first := by
  induction later with
  | nil => exact created
  | cons call later ih =>
    obtain ⟨kept, others⟩ := List.forall_mem_cons.mp undeleted
    rw [List.cons_append]
    cases saved : call.saved? collection key with
    | none => rw [firstSave?_cons_of_unsaved kept saved, ih others]
    | some save => rw [firstSave?_cons_of_saved kept saved, ih others, Option.getD_some]

/-- The first save was made when there was none, and no delete came after it. -/
theorem exists_of_firstSave?_eq_some {first : StoredFormula × Instant}
    (created : firstSave? collection key history = some first) :
    ∃ later inserting earlier, history = later ++ inserting :: earlier ∧
      inserting.saved? collection key = some first ∧
      firstSave? collection key earlier = none ∧
      ∀ call ∈ later, call.deletes collection key = false := by
  induction history with
  | nil => cases created
  | cons call history ih =>
    have undeleted : call.deletes collection key = false := by
      cases deleted : call.deletes collection key with
      | false => rfl
      | true => simp [firstSave?, deleted] at created
    have extend (before : firstSave? collection key history = some first) :
        ∃ later inserting earlier, call :: history = later ++ inserting :: earlier ∧
          inserting.saved? collection key = some first ∧
          firstSave? collection key earlier = none ∧
          ∀ call ∈ later, call.deletes collection key = false := by
      obtain ⟨later, inserting, earlier, rfl, saved, unsaved, kept⟩ := ih before
      exact ⟨call :: later, inserting, earlier, rfl, saved, unsaved,
        List.forall_mem_cons.mpr ⟨undeleted, kept⟩⟩
    cases saved : call.saved? collection key with
    | none =>
      rw [firstSave?_cons_of_unsaved undeleted saved] at created
      exact extend created
    | some save =>
      rw [firstSave?_cons_of_saved undeleted saved] at created
      cases before : firstSave? collection key history with
      | none =>
        rw [before, Option.getD_none] at created
        exact ⟨[], call, history, rfl, saved.trans created, before,
          fun _ member => absurd member List.not_mem_nil⟩
      | some earliest =>
        rw [before, Option.getD_some] at created
        exact extend (before.trans created)

end Latest

/-- What was served first was served. -/
theorem Served.of_append {later earlier : List ServedCall} {server : Server}
    (served : Served (later ++ earlier) server) : ∃ before, Served earlier before := by
  induction later generalizing server with
  | nil => exact ⟨server, served⟩
  | cons call later ih =>
    cases served with
    | call _ before writes plays => exact ih before

end RankFormula
