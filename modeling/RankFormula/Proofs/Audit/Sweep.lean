import RankFormula.Proofs.Audit.Accounting
import RankFormula.Proofs.Store.Checked

/-!
# The steps of an audit

In every state that an audit reaches it either lists the formulas of one of its instances or
marks a formula that is stored as it was listed and whose check is due (`AuditRules.Makes`).
What such a step can do to the formulas is said once, in `Steps.of_mem`, and what a whole audit
does in `audit_proceeds`: it makes no other steps, and leaves no formula of its instances
untended, that is, due and in disagreement with its check.
-/

namespace RankFormula

namespace AuditRules

variable {σ : Type} {store : CheckedStore σ} {state : σ} {rules : AuditRules}
  {instanceIDs : List String} {call : StoreCall}

/-- What an audit asks in a state: the formulas of one of its instances, or a mark of one of
them as it is stored, whose check is due. -/
inductive Makes (rules : AuditRules) (store : CheckedStore σ) (instanceIDs : List String)
    (state : σ) : StoreCall → Prop
  | read {instanceID : String} (audited : instanceID ∈ instanceIDs) :
    Makes rules store instanceIDs state (.formulas instanceID false)
  | mark {instanceID : String} {f : StoredFormula} (audited : instanceID ∈ instanceIDs)
    (stored : f ∈ store.formulasOf state instanceID) (due : rules.isDue (instanceID, f) = true) :
    Makes rules store instanceIDs state (.recheck rules.whitelist instanceID f)

/-- A step of an audit of a store with one formula to a key. -/
structure Steps (rules : AuditRules) (store : CheckedStore σ) (instanceIDs : List String)
    (state : σ) (call : StoreCall) : Prop where
  /-- The call is one of an audit. -/
  makes : rules.Makes store instanceIDs state call
  /-- A key names at most one formula. -/
  unique : store.KeysUnique state

namespace Steps

/-- A step keeps the keys. -/
theorem keysUnique (step : rules.Steps store instanceIDs state call) :
    store.KeysUnique (store.answer state call).2 := by
  cases step.makes with
  | read audited => exact step.unique.congr (store.formulasOf_listed state _)
  | mark audited stored due => exact step.unique.marked

/-- All that a step can do: a formula after it was there before and is not the one that was
marked, or its check was due and was recorded with it by the step. -/
theorem of_mem (step : rules.Steps store instanceIDs state call) {instanceID : String}
    {f : StoredFormula} (member : f ∈ store.formulasOf (store.answer state call).2 instanceID) :
    (f ∈ store.formulasOf state instanceID ∧
      ∀ check ∈ store.recordedCheck? (state, call),
        ¬(check.instanceID = instanceID ∧ f.key = check.key)) ∨
    ∃ g ∈ store.formulasOf state instanceID, rules.isDue (instanceID, g) = true ∧
      ⟨instanceID, g.key, (store.time state).instant⟩ ∈ store.recordedCheck? (state, call) ∧
      f = g.recorded g.key (checkStored rules.whitelist g.expression) (store.time state) := by
  cases step.makes with
  | read audited =>
    rw [store.formulasOf_listed] at member
    exact .inl ⟨member, fun check none => by cases none⟩
  | @mark other marked audited stored due =>
    rcases CheckedStore.of_mem_marked member with ⟨rfl, g, inside, same, rfl⟩ | ⟨inside, apart⟩
    · obtain rfl := step.unique.eq_of_key_eq inside stored same
      exact .inr ⟨g, inside, due, rfl, rfl⟩
    · refine .inl ⟨inside, fun check recorded => ?_⟩
      obtain rfl := Option.mem_some.mp recorded
      exact fun both => apart ⟨both.1.symm, both.2⟩

end Steps

/-- The formula agrees with its check, or the check is not due. -/
def Tended (rules : AuditRules) (instanceID : String) (f : StoredFormula) : Prop :=
  f.Agrees rules.whitelist ∨ rules.isDue (instanceID, f) = false

/-- A key names at most one formula, and all formulas of an instance are tended. -/
structure AllTended (rules : AuditRules) (store : CheckedStore σ) (instanceID : String)
    (state : σ) : Prop where
  /-- A key names at most one formula. -/
  unique : store.KeysUnique state
  /-- All formulas are tended. -/
  tended : ∀ f ∈ store.formulasOf state instanceID, rules.Tended instanceID f

/-- What holds while the formulas of an instance are audited: those that are still to come are
stored as they were listed, and the others are tended. -/
structure Sweeping (rules : AuditRules) (store : CheckedStore σ) (instanceID : String)
    (pending : List StoredFormula) (state : σ) : Prop where
  /-- A key names at most one formula. -/
  unique : store.KeysUnique state
  /-- What is to come is stored as it was listed. -/
  stored : ∀ f ∈ pending, f ∈ store.formulasOf state instanceID
  /-- No formula comes twice. -/
  apart : (pending.map StoredFormula.key).Nodup
  /-- The rest is tended. -/
  tended : ∀ f ∈ store.formulasOf state instanceID, f ∈ pending ∨ rules.Tended instanceID f

variable {instanceID : String} {f : StoredFormula} {pending : List StoredFormula}

namespace Sweeping

/-- The first formula is marked, and those to come are stored as before. -/
theorem marked (sweeping : rules.Sweeping store instanceID (f :: pending) state) :
    rules.Sweeping store instanceID pending
      (store.answer state (.recheck rules.whitelist instanceID f)).2 := by
  obtain ⟨others, apart⟩ := List.nodup_cons.mp sweeping.apart
  refine ⟨sweeping.unique.marked, fun g later => ?_, apart, fun g member => ?_⟩
  · have distinct : g.key ≠ f.key := by
      intro same
      exact others (same ▸ List.mem_map_of_mem later)
    exact CheckedStore.mem_marked_of_ne distinct
      (sweeping.stored g (List.mem_cons_of_mem f later))
  · rcases CheckedStore.of_mem_marked member with ⟨-, old, inside, same, rfl⟩ | ⟨inside, distinct⟩
    · obtain rfl := sweeping.unique.eq_of_key_eq inside (sweeping.stored f List.mem_cons_self) same
      exact .inr (.inl (StoredFormula.recorded_agrees rules.whitelist rfl))
    · rcases sweeping.tended g inside with listed | tended
      · rcases List.mem_cons.mp listed with rfl | later
        · exact absurd ⟨rfl, rfl⟩ distinct
        · exact .inl later
      · exact .inr tended

/-- The first formula is skipped because its check is not due. -/
theorem skipped (sweeping : rules.Sweeping store instanceID (f :: pending) state)
    (fresh : rules.isDue (instanceID, f) = false) :
    rules.Sweeping store instanceID pending state := by
  refine ⟨sweeping.unique, fun g later => sweeping.stored g (List.mem_cons_of_mem f later),
    (List.nodup_cons.mp sweeping.apart).2, fun g inside => ?_⟩
  rcases sweeping.tended g inside with listed | tended
  · rcases List.mem_cons.mp listed with rfl | later
    · exact .inr (.inr fresh)
    · exact .inl later
  · exact .inr tended

end Sweeping

/-- A step leaves the formulas of every instance tended if they were. -/
theorem AllTended.step (tended : rules.AllTended store instanceID state)
    (step : rules.Steps store instanceIDs state call) :
    rules.AllTended store instanceID (store.answer state call).2 := by
  refine ⟨step.keysUnique, fun f member => ?_⟩
  rcases step.of_mem member with ⟨inside, -⟩ | ⟨g, -, -, -, rfl⟩
  · exact tended.tended f inside
  · exact .inl (StoredFormula.recorded_agrees rules.whitelist rfl)

/-- The audit of a formula whose check is due marks it, and is over whatever the store answers. -/
theorem auditFormula_eq_ask (due : rules.isDue (instanceID, f) = true) (report : AuditReport) :
    ∃ next, rules.auditFormula instanceID report f =
        .ask (.recheck rules.whitelist instanceID f) next ∧
      ∀ reply, ∃ report, next reply = .done report := by
  rw [auditFormula, if_pos (show needsRecheck _ _ _ = true from due)]
  refine ⟨_, rfl, fun reply => ?_⟩
  rcases reply with _ | _ <;> exact ⟨_, rfl⟩

/-- The audit of a formula marks it if its check is due, and otherwise asks nothing. -/
theorem auditFormula_proceeds (audited : instanceID ∈ instanceIDs) (report : AuditReport)
    (sweeping : rules.Sweeping store instanceID (f :: pending) state) :
    (rules.auditFormula instanceID report f).Proceeds store.answer (rules.Steps store instanceIDs)
      state fun _ reached => rules.Sweeping store instanceID pending reached := by
  by_cases due : rules.isDue (instanceID, f) = true
  · obtain ⟨next, asks, ends⟩ := auditFormula_eq_ask due report
    obtain ⟨report, ended⟩ := ends (store.answer state (.recheck rules.whitelist instanceID f)).1
    have stored := sweeping.stored f List.mem_cons_self
    rw [asks]
    refine ⟨⟨.mark audited stored due, sweeping.unique⟩, ?_⟩
    rw [ended]
    exact sweeping.marked
  · rw [auditFormula, if_neg (show ¬needsRecheck _ _ _ = true from due)]
    exact sweeping.skipped (Bool.eq_false_iff.mpr due)

/-- The audit of formulas tends them all. -/
theorem auditFormulas_proceeds (audited : instanceID ∈ instanceIDs) (report : AuditReport)
    (sweeping : rules.Sweeping store instanceID pending state) :
    (rules.auditFormulas instanceID report pending).Proceeds store.answer
      (rules.Steps store instanceIDs) state
      fun _ reached => rules.AllTended store instanceID reached := by
  induction pending generalizing report state with
  | nil =>
    refine ⟨sweeping.unique, fun f inside => ?_⟩
    exact (sweeping.tended f inside).resolve_left List.not_mem_nil
  | cons f rest ih =>
    exact (rules.auditFormula_proceeds audited report sweeping).bind fun report _ later =>
      ih report later

/-- The audit of an instance tends all its formulas. -/
theorem auditInstance_proceeds (audited : instanceID ∈ instanceIDs) (report : AuditReport)
    (unique : store.KeysUnique state) :
    (rules.auditInstance report instanceID).Proceeds store.answer (rules.Steps store instanceIDs)
      state fun _ reached => rules.AllTended store instanceID reached := by
  obtain ⟨next, asks, goesOn⟩ := rules.auditInstance_eq_ask instanceID report
  obtain ⟨noted, listed⟩ := goesOn (store.formulasOf state instanceID)
  rw [asks]
  refine ⟨⟨.read audited, unique⟩, ?_⟩
  rw [store.answer_formulas, listed]
  have kept := store.formulasOf_listed state instanceID
  refine rules.auditFormulas_proceeds audited noted
    ⟨unique.congr kept, fun f inside => ?_, unique instanceID, fun f inside => .inl ?_⟩
  · rw [kept]
    exact inside
  · rw [kept] at inside
    exact inside

/-- The audit of instances tends the formulas of each. -/
theorem auditInstances_proceeds {part : List String} (audited : ∀ i ∈ part, i ∈ instanceIDs)
    (report : AuditReport) (unique : store.KeysUnique state) :
    (rules.auditInstances report part).Proceeds store.answer (rules.Steps store instanceIDs) state
      fun _ reached => store.KeysUnique reached ∧
        ∀ i ∈ part, rules.AllTended store i reached := by
  induction part generalizing report state with
  | nil => exact ⟨unique, fun i member => absurd member List.not_mem_nil⟩
  | cons instanceID rest ih =>
    obtain ⟨here, others⟩ := List.forall_mem_cons.mp audited
    refine (rules.auditInstance_proceeds here report unique).bind ?_
    intro report reached tended
    -- The later instances leave the formulas of this one tended.
    have later := (ih others report tended.unique).keeps (rules.AllTended store instanceID)
      (fun _ _ step tended => tended.step step) tended
    obtain ⟨steps, ⟨kept, each⟩, still⟩ := Dialogue.proceeds_iff.mp later
    exact Dialogue.proceeds_iff.mpr ⟨fun step member => (steps step member).1, kept,
      List.forall_mem_cons.mpr ⟨still, each⟩⟩

/-- An audit makes no other steps, and in the end all formulas of its instances are tended. -/
theorem audit_proceeds (rules : AuditRules) (instanceIDs : List String)
    (unique : store.KeysUnique state) :
    (rules.audit instanceIDs).Proceeds store.answer (rules.Steps store instanceIDs) state
      fun _ reached => store.KeysUnique reached ∧
        ∀ i ∈ instanceIDs, rules.AllTended store i reached :=
  (rules.auditInstances_proceeds (fun _ member => member) _ unique).bind fun _ _ tended => tended

end AuditRules
end RankFormula
