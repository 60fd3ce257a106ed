import RankFormula.Api.Formulas
import RankFormula.Audit.Job
import RankFormula.Proofs.Store.Memory

/-!
# An audit beside requests

While an audit goes through the formulas of an instance, requests save and delete formulas
in the same store. `AuditedStore.Step` takes one call of the store at a time, of the audit
or of a request that succeeds, and `AuditedStore.Runs` takes any number of them in any order
and keeps their history. `Step.inversion` says all that a step can do, so later proofs
open neither the endpoints nor the monad they are written in. `Overtaken` reads off a
history whether an audit rejected a formula on the strength of what was stored before its
last save.
-/

namespace RankFormula

/-- A text makes a formula under a whitelist. -/
def Compiles (whitelist : Whitelist) (expression : String) : Prop :=
  ∃ formula, Formula.ofText whitelist expression = .ok formula

/-- A check accepts exactly the texts that make a formula. -/
theorem checkStored_valid {whitelist : Whitelist} {expression : String} :
    (checkStored whitelist expression).valid = true ↔ Compiles whitelist expression := by
  unfold checkStored Compiles
  cases Formula.ofText whitelist expression with
  | ok formula => simp
  | error error => simp

/-- A dialogue that ends after one question leaves the party as its answer does. -/
theorem Dialogue.run_ask_done {Q : Type} {A : Q → Type} {α σ : Type}
    (answer : σ → (q : Q) → A q × σ) (state : σ) {q : Q} {next : A q → Dialogue Q A α}
    (ends : ∀ reply, ∃ result, next reply = .done result) :
    ((Dialogue.ask q next).run answer state).asked = [q] ∧
      ((Dialogue.ask q next).run answer state).state = (answer state q).2 := by
  obtain ⟨result, ended⟩ := ends (answer state q).1
  simp [run, ended]

namespace Api

/-- The requests that change the formulas of an instance. -/
inductive Edits (api : Api) : Session Response → Prop where
  /-- A save. -/
  | save (claims : Claims) (instanceID body : String) :
    Edits api (api.saveFormula claims instanceID body)
  /-- A delete. -/
  | delete (instanceID : String) (key : RawText) : Edits api (deleteFormula instanceID key)

/-- The calls such requests make: they save only what compiles, and as valid. -/
def Editing (api : Api) : StoreCall → Prop
  | .save _ formula => formula.valid = true ∧ Compiles api.whitelist formula.expression
  | .delete _ _ => True
  | _ => False

variable {api : Api} {store : MemoryStore} {call : StoreCall}

/-- A save of a text that compiles, under a proper key, stores it and succeeds. -/
theorem saveFormula_run (claims : Claims) (instanceID : String) (store : MemoryStore)
    {body : String} {request : SaveRequest} {formula : Formula}
    (readable : SaveRequest.read? body = some request)
    (proper : isKey request.key = true)
    (compiled : Formula.ofText api.whitelist request.expression = .ok formula) :
    (api.saveFormula claims instanceID body).run MemoryStore.answer store =
      let saved := request.toStored formula claims.subject
      ⟨[.save instanceID saved], .json 200 (store.stamped instanceID saved).toJson,
        (store.answer (.save instanceID saved)).2⟩ := by
  unfold saveFormula
  rw [readable]
  dsimp only
  rw [proper, compiled]
  rfl

/-- A save that calls the store calls it once, with what compiled. -/
theorem saveFormula_asked {claims : Claims} {instanceID body : String}
    (asked : ((api.saveFormula claims instanceID body).run MemoryStore.answer store).asked =
      [call]) :
    ((api.saveFormula claims instanceID body).run MemoryStore.answer store).state =
        (store.answer call).2 ∧
      api.Editing call := by
  unfold saveFormula at asked ⊢
  split at asked
  · cases asked
  · next request _ =>
    split at asked
    · cases asked
    · next proper =>
      rw [if_neg proper]
      split at asked
      · cases asked
      · next formula compiled =>
        obtain rfl : StoreCall.save instanceID (request.toStored formula claims.subject) = call :=
          (List.cons.inj asked).1
        exact ⟨rfl, rfl, formula, compiled⟩

/-- A delete calls the store once. -/
theorem deleteFormula_asked {instanceID : String} {key : RawText}
    (asked : ((deleteFormula instanceID key).run MemoryStore.answer store).asked = [call]) :
    ((deleteFormula instanceID key).run MemoryStore.answer store).state =
        (store.answer call).2 ∧
      api.Editing call := by
  obtain ⟨next, shape, ends⟩ : ∃ next,
      deleteFormula instanceID key = .ask (.delete instanceID key) next ∧
        ∀ reply, ∃ response, next reply = .done response := by
    refine ⟨_, rfl, fun reply => ?_⟩
    rcases reply with (_ | _) | _ <;> exact ⟨_, rfl⟩
  obtain ⟨question, state⟩ := Dialogue.run_ask_done MemoryStore.answer store ends
  rw [shape, question] at asked
  obtain rfl : StoreCall.delete instanceID key = call := (List.cons.inj asked).1
  rw [shape]
  exact ⟨state, trivial⟩

/-- A request that calls the store leaves it as the call does. -/
theorem Edits.asked {session : Session Response} (edits : api.Edits session)
    (asked : (session.run MemoryStore.answer store).asked = [call]) :
    (session.run MemoryStore.answer store).state = (store.answer call).2 ∧ api.Editing call := by
  cases edits with
  | save claims instanceID body => exact saveFormula_asked asked
  | delete instanceID key => exact deleteFormula_asked asked

end Api

/-- A call of the store, and who made it. -/
inductive StoreEvent where
  /-- A call of the audit. -/
  | audit (call : StoreCall)
  /-- The call of a request. -/
  | request (call : StoreCall)

/-- A store, and what an audit of it has still to do. -/
structure AuditedStore where
  /-- The store. -/
  store : MemoryStore
  /-- The rest of the audit. -/
  audit : Session AuditReport

namespace AuditedStore

/-- One call of the store: the next of the audit, or that of a request that succeeds. -/
inductive Step (api : Api) : AuditedStore → StoreEvent → AuditedStore → Prop where
  /-- The audit goes on. -/
  | audit (store : MemoryStore) (call : StoreCall)
    (next : Except StoreFault call.Answer → Session AuditReport) :
    Step api ⟨store, .ask call next⟩ (.audit call)
      ⟨(store.answer call).2, next (store.answer call).1⟩
  /-- A request is served. -/
  | request {store : MemoryStore} {audit : Session AuditReport} {session : Session Response}
    {call : StoreCall} (edits : api.Edits session)
    (asked : (session.run MemoryStore.answer store).asked = [call])
    (succeeded : (session.run MemoryStore.answer store).result.status = 200) :
    Step api ⟨store, audit⟩ (.request call)
      ⟨(session.run MemoryStore.answer store).state, audit⟩

/-- Any number of steps in any order, with their history, the latest first. -/
inductive Runs (api : Api) : AuditedStore → List StoreEvent → AuditedStore → Prop where
  /-- No step. -/
  | start (state : AuditedStore) : Runs api state [] state
  /-- One more step. -/
  | step {first state last : AuditedStore} {history : List StoreEvent} {event : StoreEvent}
    (before : Runs api first history state) (latest : Step api state event last) :
    Runs api first (event :: history) last

/-- An audit that asks goes on with the answer. -/
theorem Step.of_ask {api : Api} {store answered : MemoryStore} {audit rest : Session AuditReport}
    {call : StoreCall} {next : Except StoreFault call.Answer → Session AuditReport}
    {reply : Except StoreFault call.Answer} (asks : audit = .ask call next)
    (answers : store.answer call = (reply, answered)) (continues : next reply = rest) :
    Step api ⟨store, audit⟩ (.audit call) ⟨answered, rest⟩ := by
  subst asks continues
  have step : Step api ⟨store, .ask call next⟩ (.audit call) _ := .audit store call next
  rw [answers] at step
  exact step

/-- A step answers a call of the audit, or a call of a request that leaves the audit as
it is. -/
theorem Step.inversion {api : Api} {state after : AuditedStore} {event : StoreEvent}
    (step : Step api state event after) :
    (∃ call next, state.audit = .ask call next ∧ event = .audit call ∧
      after = ⟨(state.store.answer call).2, next (state.store.answer call).1⟩) ∨
    (∃ call, api.Editing call ∧ event = .request call ∧
      after = ⟨(state.store.answer call).2, state.audit⟩) := by
  cases step with
  | audit store call next => exact .inl ⟨call, next, rfl, rfl, rfl⟩
  | request edits asked succeeded =>
    obtain ⟨state, editing⟩ := edits.asked asked
    exact .inr ⟨_, editing, rfl, by rw [state]⟩

end AuditedStore

/-- The call that marks a formula with what the check of its text finds. -/
abbrev StoreCall.recheck (whitelist : Whitelist) (instanceID : String) (f : StoredFormula) :
    StoreCall :=
  .mark instanceID f.key (checkStored whitelist f.expression)

namespace AuditRules

variable {rules : AuditRules} {instanceID : String}

/-- The audit of an instance first asks for its formulas, and then audits them. -/
theorem auditInstance_eq_ask (rules : AuditRules) (instanceID : String)
    (report : AuditReport) :
    ∃ next, rules.auditInstance report instanceID = .ask (.formulas instanceID false) next ∧
      ∀ formulas, ∃ report, next (.ok formulas) =
        rules.auditFormulas instanceID report formulas :=
  ⟨_, rfl, fun _ => ⟨_, rfl⟩⟩

/-- An audit for which every check is due marks the first formula with what the check of
its text found, and goes on with the others whatever the store answers. -/
theorem auditFormulas_cons (due : rules.recheckAfter ≤ 0) (report : AuditReport)
    (formula : StoredFormula) (rest : List StoredFormula) :
    ∃ next, rules.auditFormulas instanceID report (formula :: rest) =
        .ask (.recheck rules.whitelist instanceID formula) next ∧
      ∀ reply, ∃ report, next reply = rules.auditFormulas instanceID report rest := by
  have checks : needsRecheck formula.checkedAt.instant rules.start rules.recheckAfter = true := by
    simp [needsRecheck, due]
  rw [auditFormulas, auditFormula, if_pos checks]
  refine ⟨_, rfl, fun reply => ?_⟩
  rcases reply with _ | _ <;> exact ⟨_, rfl⟩

/-- An audit of no formulas is over. -/
theorem auditFormulas_nil (report : AuditReport) :
    rules.auditFormulas instanceID report [] = .done report := rfl

end AuditRules

namespace StoreEvent

/-- A request saves a formula of an instance under a key. -/
def Saves (instanceID key : String) : StoreEvent → Prop
  | .request (.save concerned formula) => concerned = instanceID ∧ formula.key = key
  | _ => False

/-- An audit marks the formula of an instance under a key as invalid. -/
def Rejects (instanceID key : String) : StoreEvent → Prop
  | .audit (.mark concerned marked check) =>
    concerned = instanceID ∧ marked = key ∧ check.valid = false
  | _ => False

/-- The call by which an audit reads the formulas of an instance. -/
def read (instanceID : String) : StoreEvent := .audit (.formulas instanceID false)

end StoreEvent

/-- The formula under a key was saved after the audit had read the formulas. -/
def SavedSinceRead (instanceID key : String) : List StoreEvent → Prop
  | [] => False
  | event :: earlier =>
    event.Saves instanceID key ∧ .read instanceID ∈ earlier ∨
      SavedSinceRead instanceID key earlier

/-- The formula under a key was saved after the audit had read the formulas, then marked as
invalid, and not saved since: the mark is about a text that is no longer stored. -/
def Overtaken (instanceID key : String) : List StoreEvent → Prop
  | [] => False
  | event :: earlier =>
    event.Rejects instanceID key ∧ SavedSinceRead instanceID key earlier ∨
      ¬event.Saves instanceID key ∧ Overtaken instanceID key earlier

section History

variable {instanceID key : String} {event : StoreEvent} {history : List StoreEvent}

/-- A save since the read needs a read. -/
theorem SavedSinceRead.read_mem (saved : SavedSinceRead instanceID key history) :
    StoreEvent.read instanceID ∈ history := by
  induction history with
  | nil => cases saved
  | cons event earlier ih =>
    rcases saved with ⟨_, read⟩ | saved
    · exact List.mem_cons_of_mem _ read
    · exact List.mem_cons_of_mem _ (ih saved)

/-- Only what was saved since the read can be overtaken. -/
theorem Overtaken.savedSinceRead (overtaken : Overtaken instanceID key history) :
    SavedSinceRead instanceID key history := by
  induction history with
  | nil => cases overtaken
  | cons event earlier ih =>
    rcases overtaken with ⟨_, saved⟩ | ⟨_, overtaken⟩
    · exact .inr saved
    · exact .inr (ih overtaken)

/-- An event that saves nothing under the key leaves open whether there was a save. -/
theorem savedSinceRead_cons (unsaved : ¬event.Saves instanceID key) :
    SavedSinceRead instanceID key (event :: history) ↔
      SavedSinceRead instanceID key history := by
  simp [SavedSinceRead, unsaved]

/-- An event that neither saves nor rejects under the key overtakes nothing. -/
theorem overtaken_cons (unsaved : ¬event.Saves instanceID key)
    (unmarked : ¬event.Rejects instanceID key) :
    Overtaken instanceID key (event :: history) ↔ Overtaken instanceID key history := by
  simp [Overtaken, unsaved, unmarked]

end History
end RankFormula
