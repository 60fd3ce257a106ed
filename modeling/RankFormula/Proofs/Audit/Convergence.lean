import RankFormula.Proofs.Audit.Due
import RankFormula.Proofs.Audit.Sweep

/-!
# Audits of a store that nobody else writes to

Two kinds of facts are kept by every step of an audit and carried from there to its runs:

* a formula that agrees with its check goes on doing so, and marking it again changes only the
  time of its check (`AuditRules.AtRest`);
* a mark is remembered: the formula that it concerns is dated no earlier than the mark, and
  while too little time has passed since then, its check is not due (`CheckedStore.Remembers`).

Together they say that auditing comes to rest: `auditing_converges`.
-/

namespace RankFormula

/-- A check is due under a time between checks only if that time has passed since the last
one. -/
theorem le_sub_of_needsRecheck {checkedAt now : Instant} {recheckAfter : Int}
    (waits : 0 < recheckAfter) (dated : 0 < checkedAt.nanoseconds)
    (due : needsRecheck checkedAt now recheckAfter = true) :
    recheckAfter ≤ now.nanoseconds - checkedAt.nanoseconds := by
  have passed : recheckAfter ≤ now.since checkedAt := by
    rcases needsRecheck_iff_since.mp due with always | rfl | passed
    · omega
    · exact absurd dated (by decide)
    · exact passed
  have word : recheckAfter < signedLimit := Int.lt_of_le_of_lt passed (saturate64_lt _)
  exact (le_since_iff waits word).mp passed

namespace AuditRules

variable {σ : Type} {store : CheckedStore σ} {state : σ} {rules : AuditRules}
  {instanceIDs : List String} {call : StoreCall}

section Rest

/-- A key names at most one formula, and the formulas of some instances agree with their
checks. -/
structure AtRest (rules : AuditRules) (store : CheckedStore σ) (instanceIDs : List String)
    (state : σ) : Prop where
  /-- A key names at most one formula. -/
  unique : store.KeysUnique state
  /-- The formulas agree with their checks. -/
  agrees : ∀ i ∈ instanceIDs, ∀ f ∈ store.formulasOf state i, f.Agrees rules.whitelist

namespace AtRest

/-- A step keeps formulas in agreement with their checks. -/
theorem step (rest : rules.AtRest store instanceIDs state)
    (step : rules.Steps store instanceIDs state call) :
    rules.AtRest store instanceIDs (store.answer state call).2 := by
  refine ⟨step.keysUnique, fun i audited f member => ?_⟩
  rcases step.of_mem member with ⟨inside, -⟩ | ⟨g, -, -, -, rfl⟩
  · exact rest.agrees i audited f inside
  · exact StoredFormula.recorded_agrees rules.whitelist rfl

/-- A step changes nothing but the time of a check. -/
theorem timeless_step (rest : rules.AtRest store instanceIDs state)
    (step : rules.Steps store instanceIDs state call) (instanceID : String) :
    (store.formulasOf (store.answer state call).2 instanceID).map StoredFormula.timeless =
      (store.formulasOf state instanceID).map StoredFormula.timeless := by
  cases step.makes with
  | read audited => rw [store.formulasOf_listed]
  | @mark other f audited stored due =>
    rw [store.formulasOf_marked]
    split
    · next same =>
      subst same
      rw [List.map_map]
      refine List.map_congr_left fun g inside => ?_
      by_cases same : g.key = f.key
      · obtain rfl := rest.unique.eq_of_key_eq inside stored same
        exact (rest.agrees _ audited g inside).timeless_recorded
      · exact congrArg StoredFormula.timeless (StoredFormula.recorded_of_ne same)
    · rfl

/-- What a step lists agrees with its checks. -/
theorem agrees_of_mem_listed (rest : rules.AtRest store instanceIDs state)
    (step : rules.Steps store instanceIDs state call) {entry : String × StoredFormula}
    (listed : entry ∈ AnsweredCall.listed ⟨call, (store.answer state call).1⟩) :
    entry.2.Agrees rules.whitelist := by
  cases step.makes with
  | read audited =>
    rw [store.answer_formulas] at listed
    obtain ⟨f, inside, rfl⟩ := List.mem_map.mp listed
    exact rest.agrees _ audited f inside
  | mark audited stored due => exact absurd listed List.not_mem_nil

end AtRest

/-- Formulas that agree with their checks change their validity neither way. -/
theorem tally_of_agrees {entries : List (String × StoredFormula)} (refused : Nat)
    (agrees : ∀ entry ∈ entries, entry.2.Agrees rules.whitelist) :
    (rules.tally entries refused).invalidated = 0 ∧ (rules.tally entries refused).restored = 0 := by
  have valid (entry : String × StoredFormula) (due : entry ∈ entries.filter rules.isDue) :
      (checkStored rules.whitelist entry.2.expression).valid = entry.2.valid :=
    congrArg CheckResult.valid (agrees entry (List.mem_of_mem_filter due))
  constructor
  · refine List.countP_eq_zero.mpr fun entry due => ?_
    rw [isInvalidated, valid entry due, Bool.and_not_self]
    exact Bool.false_ne_true
  · refine List.countP_eq_zero.mpr fun entry due => ?_
    rw [isRestored, valid entry due, Bool.not_and_self]
    exact Bool.false_ne_true

end Rest

section Memory

variable {check : RecordedCheck}

/-- A step that records its check no earlier than the audit started. -/
structure TimelySteps (rules : AuditRules) (store : CheckedStore σ) (instanceIDs : List String)
    (state : σ) (call : StoreCall) : Prop extends rules.Steps store instanceIDs state call where
  /-- The check is recorded after the start. -/
  timely : ∀ check ∈ store.recordedCheck? (state, call),
    rules.start.nanoseconds ≤ check.time.nanoseconds

/-- The formula of a remembered check is due only if its time has passed since that check. -/
theorem le_sub_of_remembers {f : StoredFormula} (waits : 0 < rules.recheckAfter)
    (remembers : store.Remembers state check)
    (stored : f ∈ store.formulasOf state check.instanceID) (same : f.key = check.key)
    (due : rules.isDue (check.instanceID, f) = true) :
    rules.recheckAfter ≤ rules.start.nanoseconds - check.time.nanoseconds := by
  have since := remembers.since f stored same
  have dated : 0 < f.checkedAt.instant.nanoseconds := Int.lt_of_lt_of_le remembers.dated since
  have passed := le_sub_of_needsRecheck waits dated due
  omega

/-- A step does not check a formula again before its time has come. -/
theorem Steps.spares (step : rules.Steps store instanceIDs state call)
    (waits : 0 < rules.recheckAfter) (remembers : store.Remembers state check)
    (early : rules.start.nanoseconds - check.time.nanoseconds < rules.recheckAfter)
    {again : RecordedCheck} (recorded : again ∈ store.recordedCheck? (state, call)) :
    ¬check.SameFormula again := by
  cases step.makes with
  | read audited => cases recorded
  | mark audited stored due =>
    obtain rfl := Option.mem_some.mp recorded
    rintro ⟨sameInstance, sameKey⟩
    have passed := le_sub_of_remembers waits remembers (sameInstance ▸ stored) sameKey.symm
      (sameInstance ▸ due)
    omega

/-- A step keeps earlier checks remembered. -/
theorem TimelySteps.keepsMemory (step : rules.TimelySteps store instanceIDs state call)
    (waits : 0 < rules.recheckAfter) (remembers : store.Remembers state check) :
    store.Remembers (store.answer state call).2 check := by
  refine ⟨remembers.dated, fun f member same => ?_⟩
  rcases step.of_mem member with ⟨inside, -⟩ | ⟨g, inside, due, recorded, rfl⟩
  · exact remembers.since f inside same
  · -- The earlier check lies before the start of this audit, and its mark after it.
    rw [StoredFormula.recorded_key] at same
    have passed := le_sub_of_remembers waits remembers inside same due
    have timely : rules.start.nanoseconds ≤ (store.time state).instant.nanoseconds :=
      step.timely _ recorded
    rw [StoredFormula.recorded_checkedAt rfl]
    omega

/-- A step makes its check remembered. -/
theorem TimelySteps.remembers (step : rules.TimelySteps store instanceIDs state call)
    (started : 0 < rules.start.nanoseconds)
    (recorded : check ∈ store.recordedCheck? (state, call)) :
    store.Remembers (store.answer state call).2 check := by
  have timely := step.timely check recorded
  refine ⟨Int.lt_of_lt_of_le started timely, fun f member same => ?_⟩
  rcases step.of_mem member with ⟨-, others⟩ | ⟨g, inside, due, marked, rfl⟩
  · exact absurd ⟨rfl, same⟩ (others check recorded)
  · have now : check.time = (store.time state).instant :=
      congrArg RecordedCheck.time (Option.mem_unique recorded marked)
    rw [StoredFormula.recorded_checkedAt rfl]
    exact Int.le_of_eq (congrArg Instant.nanoseconds now)

end Memory
end AuditRules

/-- A run of the audit: by which rules and over which instances it goes, and the state of the
store in which it starts. -/
structure AuditRun (σ : Type) where
  /-- What the audit goes by. -/
  rules : AuditRules
  /-- The instances it audits. -/
  instanceIDs : List String
  /-- The state of the store at its start. -/
  opening : σ

namespace AuditRun

variable {σ : Type} {store : CheckedStore σ} {run : AuditRun σ} {check : RecordedCheck}

/-- What the run asks. -/
def session (run : AuditRun σ) : Session AuditReport := run.rules.audit run.instanceIDs

/-- The calls of the run with their answers. -/
def exchanges (store : CheckedStore σ) (run : AuditRun σ) : List AnsweredCall :=
  run.session.exchanges store.answer run.opening

/-- What the run counts. -/
def counts (store : CheckedStore σ) (run : AuditRun σ) : AuditCounts :=
  (run.session.run store.answer run.opening).result.counts

/-- The state of the store at the end of the run. -/
def closing (store : CheckedStore σ) (run : AuditRun σ) : σ :=
  (run.session.run store.answer run.opening).state

/-- The checks that the run records, in order. -/
def checks (store : CheckedStore σ) (run : AuditRun σ) : List RecordedCheck :=
  (run.session.course store.answer run.opening).filterMap store.recordedCheck?

/-- Nobody writes to the store between two runs. -/
def Precedes (store : CheckedStore σ) (earlier later : AuditRun σ) : Prop :=
  store.formulasOf later.opening = store.formulasOf (earlier.closing store)

/-- A run that starts less than its time between checks after a check does not check the
formula again. -/
def Spares (store : CheckedStore σ) (run : AuditRun σ) (check : RecordedCheck) : Prop :=
  run.rules.start.nanoseconds - check.time.nanoseconds < run.rules.recheckAfter →
    ∀ again ∈ run.checks store, ¬check.SameFormula again

/-- A run that finds nothing to correct. -/
structure ChangesNothing (store : CheckedStore σ) (run : AuditRun σ) : Prop where
  /-- No formula became invalid. -/
  invalidated : (run.counts store).invalidated = 0
  /-- None became valid again. -/
  restored : (run.counts store).restored = 0
  /-- The formulas stay the same but for the times of their checks. -/
  timeless : ∀ instanceID,
    (store.formulasOf (run.closing store) instanceID).map StoredFormula.timeless =
      (store.formulasOf run.opening instanceID).map StoredFormula.timeless

/-- A run that checks no formula twice, even if it lists an instance several times. -/
structure ChecksOnce (store : CheckedStore σ) (run : AuditRun σ) : Prop where
  /-- The counted checks are the recorded ones. -/
  counted : (run.counts store).checked = (run.checks store).length
  /-- No two of them are of one formula. -/
  apart : (run.checks store).Pairwise fun check again => ¬check.SameFormula again

/-- A run that leaves time between checks, starts after the zero time, and makes its marks
after its start. -/
structure Timely (store : CheckedStore σ) (run : AuditRun σ) : Prop where
  /-- Time passes between checks. -/
  waits : 0 < run.rules.recheckAfter
  /-- The start is after the zero time. -/
  started : 0 < run.rules.start.nanoseconds
  /-- Marks are made after the start. -/
  marks : ∀ check ∈ run.checks store,
    run.rules.start.nanoseconds ≤ check.time.nanoseconds

/-- The run does and counts what an audit has to. -/
theorem audited (store : CheckedStore σ) (run : AuditRun σ) :
    run.rules.Audited run.instanceIDs (run.exchanges store) .zero (run.counts store) :=
  ((run.rules.audit_plays run.instanceIDs).run store.answer run.opening).1

/-- The counts are those that the listed formulas call for. -/
theorem counts_eq_tally (store : CheckedStore σ) (run : AuditRun σ) :
    run.counts store = run.rules.tally ((run.exchanges store).flatMap AnsweredCall.listed)
      ((run.exchanges store).countP AnsweredCall.isRefusedMark) :=
  (run.audited store).counts.trans (AuditCounts.zero_add _)

/-- Marks record checks, and nothing else does. -/
theorem isSome_recordedCheck? (store : CheckedStore σ) (step : σ × StoreCall) :
    (store.recordedCheck? step).isSome = step.2.isMark := by
  obtain ⟨state, call⟩ := step
  cases call <;> rfl

/-- The counted checks are the recorded ones. -/
theorem checked_eq_length (store : CheckedStore σ) (run : AuditRun σ) :
    (run.counts store).checked = (run.checks store).length := by
  let listed := (run.exchanges store).flatMap AnsweredCall.listed
  have calls : (run.exchanges store).map Sigma.fst =
      (run.session.course store.answer run.opening).map Prod.snd := by
    rw [exchanges, Dialogue.exchanges_eq_course, List.map_map]
    rfl
  calc
    (run.counts store).checked = listed.countP run.rules.isDue := by
      rw [run.counts_eq_tally store, AuditRules.tally]
    _ = (run.rules.marks listed).length := by
      rw [AuditRules.marks, List.length_map, List.countP_eq_length_filter]
    _ = ((run.exchanges store).map Sigma.fst).countP StoreCall.isMark := by
      rw [(run.audited store).calls, List.countP_eq_length_filter, AuditRules.filter_isMark_round]
    _ = (run.session.course store.answer run.opening).countP (·.2.isMark) := by
      rw [calls, List.countP_map]
      rfl
    _ = (run.checks store).length := by
      rw [checks, List.length_filterMap_eq_countP]
      exact List.countP_congr fun step _ => by rw [isSome_recordedCheck?]

/-- A run keeps the keys. -/
theorem keysUnique_closing (unique : store.KeysUnique run.opening) :
    store.KeysUnique (run.closing store) :=
  (Dialogue.proceeds_iff.mp (run.rules.audit_proceeds run.instanceIDs unique)).2.1

section Rest

/-- A run for which every check is due leaves the formulas of its instances in agreement with
their checks. -/
theorem atRest_closing (unique : store.KeysUnique run.opening)
    (always : run.rules.recheckAfter ≤ 0) :
    run.rules.AtRest store run.instanceIDs (run.closing store) := by
  obtain ⟨-, kept, tended⟩ :=
    Dialogue.proceeds_iff.mp (run.rules.audit_proceeds run.instanceIDs unique)
  refine ⟨kept, fun i audited f inside => ?_⟩
  have due : run.rules.isDue (i, f) = true := by
    simp [AuditRules.isDue, needsRecheck, always]
  exact ((tended i audited).tended f inside).resolve_right (by simp [due])

/-- A run over formulas that agree with their checks has nothing to change. -/
theorem changesNothing (rest : run.rules.AtRest store run.instanceIDs run.opening) :
    run.ChangesNothing store := by
  have proceeds := (run.rules.audit_proceeds run.instanceIDs rest.unique).keeps
    (run.rules.AtRest store run.instanceIDs) (fun _ _ step rest => rest.step step) rest
  obtain ⟨steps, -⟩ := Dialogue.proceeds_iff.mp proceeds
  have unchanged := proceeds.keeps
    (fun state => ∀ instanceID, (store.formulasOf state instanceID).map StoredFormula.timeless =
      (store.formulasOf run.opening instanceID).map StoredFormula.timeless)
    (fun _ _ both same instanceID =>
      (both.2.timeless_step both.1 instanceID).trans (same instanceID))
    (fun _ => rfl)
  have agrees : ∀ entry ∈ (run.exchanges store).flatMap AnsweredCall.listed,
      entry.2.Agrees run.rules.whitelist := by
    intro entry member
    rw [exchanges, Dialogue.exchanges_eq_course, List.flatMap_map] at member
    obtain ⟨step, asked, listed⟩ := List.mem_flatMap.mp member
    obtain ⟨made, settled⟩ := steps step asked
    exact settled.agrees_of_mem_listed made listed
  obtain ⟨invalidated, restored⟩ := AuditRules.tally_of_agrees _ agrees
  have counted := run.counts_eq_tally store
  exact
    { invalidated := (congrArg AuditCounts.invalidated counted).trans invalidated
      restored := (congrArg AuditCounts.restored counted).trans restored
      timeless := (Dialogue.proceeds_iff.mp unchanged).2.2 }

end Rest

namespace Timely

/-- All steps of a timely run are timely. -/
theorem proceeds (timely : run.Timely store) (unique : store.KeysUnique run.opening) :
    run.session.Proceeds store.answer (run.rules.TimelySteps store run.instanceIDs) run.opening
      fun _ _ => True := by
  obtain ⟨steps, -⟩ := Dialogue.proceeds_iff.mp (run.rules.audit_proceeds run.instanceIDs unique)
  refine Dialogue.proceeds_iff.mpr ⟨fun step asked => ⟨steps step asked, ?_⟩, trivial⟩
  intro check recorded
  exact timely.marks check (List.mem_filterMap.mpr ⟨step, asked, recorded⟩)

/-- A run spares what is remembered at its start, and what it remembers then it remembers at
its end. -/
theorem spares (timely : run.Timely store) (unique : store.KeysUnique run.opening)
    (remembers : store.Remembers run.opening check) :
    run.Spares store check ∧ store.Remembers (run.closing store) check := by
  have proceeds := (timely.proceeds unique).keeps (store.Remembers · check)
    (fun _ _ step => step.keepsMemory timely.waits) remembers
  obtain ⟨steps, -, last⟩ := Dialogue.proceeds_iff.mp proceeds
  refine ⟨fun early again member => ?_, last⟩
  obtain ⟨step, asked, recorded⟩ := List.mem_filterMap.mp member
  obtain ⟨made, remembered⟩ := steps step asked
  exact made.toSteps.spares timely.waits remembered early recorded

/-- A run checks no formula twice, and remembers all its checks at its end. -/
theorem checks_apart (timely : run.Timely store) (unique : store.KeysUnique run.opening) :
    ((run.checks store).Pairwise fun check again => ¬check.SameFormula again) ∧
      ∀ check ∈ run.checks store, store.Remembers (run.closing store) check := by
  have proceeds := timely.proceeds unique
  obtain ⟨steps, -⟩ := Dialogue.proceeds_iff.mp proceeds
  obtain ⟨later, last⟩ := proceeds.recalls
    (fun step reached => ∀ check ∈ store.recordedCheck? step, store.Remembers reached check)
    (fun _ _ step check recorded => step.remembers timely.started recorded)
    (fun _ _ _ step remembers check recorded =>
      step.keepsMemory timely.waits (remembers check recorded))
  constructor
  · refine List.pairwise_filterMap.mpr (later.imp_of_mem ?_)
    intro earlier step asked next remembers check recorded again repeated
    have marked := timely.marks check (List.mem_filterMap.mpr ⟨earlier, asked, recorded⟩)
    have waits := timely.waits
    exact (steps step next).toSteps.spares waits (remembers check recorded) (by omega) repeated
  · intro check member
    obtain ⟨step, asked, recorded⟩ := List.mem_filterMap.mp member
    exact last step asked check recorded

end Timely

section Sequence

variable {first : AuditRun σ} {later : List (AuditRun σ)}

/-- The keys that a run leaves unique, the next one finds unique. -/
theorem Precedes.keysUnique {next : AuditRun σ} (precedes : run.Precedes store next)
    (unique : store.KeysUnique run.opening) : store.KeysUnique next.opening :=
  (keysUnique_closing unique).congr precedes

/-- Keys stay unique through a sequence of runs. -/
theorem keysUnique_of_chain (chain : (first :: later).IsChain (Precedes store))
    (unique : store.KeysUnique first.opening) :
    ∀ run ∈ first :: later, store.KeysUnique run.opening := by
  induction later generalizing first with
  | nil => exact List.forall_mem_singleton.mpr unique
  | cons next rest ih =>
    obtain ⟨precedes, others⟩ := List.isChain_cons_cons.mp chain
    exact List.forall_mem_cons.mpr ⟨unique, ih others (precedes.keysUnique unique)⟩

/-- What is remembered at the start of a sequence of runs is spared by each of them. -/
theorem spares_of_chain (chain : (first :: later).IsChain (Precedes store))
    (timely : ∀ run ∈ first :: later, run.Timely store)
    (unique : store.KeysUnique first.opening) (remembers : store.Remembers first.opening check) :
    ∀ run ∈ first :: later, run.Spares store check := by
  induction later generalizing first with
  | nil =>
    exact List.forall_mem_singleton.mpr
      ((timely first List.mem_cons_self).spares unique remembers).1
  | cons next rest ih =>
    obtain ⟨precedes, others⟩ := List.isChain_cons_cons.mp chain
    obtain ⟨here, after⟩ := List.forall_mem_cons.mp timely
    obtain ⟨spared, closing⟩ := here.spares unique remembers
    exact List.forall_mem_cons.mpr ⟨spared,
      ih others after (precedes.keysUnique unique) (closing.congr precedes)⟩

/-- In a sequence of runs the checks of each are spared by all later ones. -/
theorem pairwise_spares (chain : (first :: later).IsChain (Precedes store))
    (timely : ∀ run ∈ first :: later, run.Timely store)
    (unique : store.KeysUnique first.opening) :
    (first :: later).Pairwise fun earlier later =>
      ∀ check ∈ earlier.checks store, later.Spares store check := by
  induction later generalizing first with
  | nil => exact List.pairwise_singleton _ _
  | cons next rest ih =>
    obtain ⟨precedes, others⟩ := List.isChain_cons_cons.mp chain
    obtain ⟨here, after⟩ := List.forall_mem_cons.mp timely
    have nextUnique := precedes.keysUnique unique
    refine .cons (fun run member check recorded => ?_) (ih others after nextUnique)
    have closing := (here.checks_apart unique).2 check recorded
    exact spares_of_chain others after nextUnique (closing.congr precedes) run member

end Sequence
end AuditRun

/-- What becomes of a store after a run of the audit, if nobody else writes to it. -/
structure AuditRun.Converges {σ : Type} (store : CheckedStore σ) (first : AuditRun σ) : Prop where
  /-- After a run for which every check is due, a second one with the same whitelist over the same
  instances has nothing to correct. -/
  comesToRest : first.rules.recheckAfter ≤ 0 →
    ∀ second : AuditRun σ, first.Precedes store second →
      second.rules.whitelist = first.rules.whitelist →
      second.instanceIDs ⊆ first.instanceIDs → second.ChangesNothing store
  /-- In a sequence of timely runs, none checks a formula twice. -/
  checksOnce : ∀ later : List (AuditRun σ), (first :: later).IsChain (Precedes store) →
    (∀ run ∈ first :: later, run.Timely store) → ∀ run ∈ first :: later, run.ChecksOnce store
  /-- A run in it spares what an earlier one marked, if it starts less than its time between checks
  after the mark. -/
  spares : ∀ later : List (AuditRun σ), (first :: later).IsChain (Precedes store) →
    (∀ run ∈ first :: later, run.Timely store) →
    (first :: later).Pairwise fun earlier next =>
      ∀ check ∈ earlier.checks store, next.Spares store check

/-- Auditing a store with one formula to a key, to which nobody else writes, comes to rest.

After a run for which every check is due, a second run with the same whitelist over the same
instances finds no formula that became invalid or valid again, and changes nothing but the
times of checks.

In a sequence of runs with time between checks, whose marks are not before the start of their
run, no run checks a formula twice, even if it lists an instance several times; and no run
checks a formula that an earlier one marked, if it starts less than its time between checks after
the mark. -/
theorem auditing_converges {σ : Type} (store : CheckedStore σ) (first : AuditRun σ)
    (unique : store.KeysUnique first.opening) : first.Converges store where
  comesToRest := by
    intro always second precedes same covered
    obtain ⟨kept, agrees⟩ := first.atRest_closing unique always
    refine second.changesNothing ⟨precedes.keysUnique unique, fun i audited f inside => ?_⟩
    rw [precedes] at inside
    rw [same]
    exact agrees i (covered audited) f inside
  checksOnce := by
    intro later chain timely run member
    have opened := AuditRun.keysUnique_of_chain chain unique run member
    exact ⟨run.checked_eq_length store, ((timely run member).checks_apart opened).1⟩
  spares := fun _ chain timely => AuditRun.pairwise_spares chain timely unique

/-- A blog with a formula that reads likes and one that reads views, whose marks fall one second
after the zero time. -/
def auditedBlog : MemoryStore :=
  ⟨[("blog", [⟨zeroId, "hot", "likes", "", none, false, "", "", .zero, .zero, .zero⟩,
    ⟨zeroId, "top", "views", "", none, true, "", "", .zero, .zero, .zero⟩])], none, 0, 1, .zero⟩

/-- An audit that admits only likes and lists the blog twice. -/
def blogAudit (start recheckAfter : Int) (opening : MemoryStore) : AuditRun MemoryStore :=
  ⟨⟨⟨["likes"]⟩, ⟨start⟩, recheckAfter⟩, ["blog", "blog"], opening⟩

/-- An audit of the blog may follow any other run. -/
theorem precedes_blogAudit (run : AuditRun MemoryStore) (start recheckAfter : Int) :
    run.Precedes MemoryStore.checkedStore
      (blogAudit start recheckAfter (run.closing MemoryStore.checkedStore)) := rfl

/-- The keys of the blog are unique. -/
theorem auditedBlog_keysUnique : MemoryStore.checkedStore.KeysUnique auditedBlog := by
  intro instanceID
  show ((auditedBlog.formulasOf instanceID).map StoredFormula.key).Nodup
  by_cases blog : "blog" = instanceID
  · subst blog
    decide
  · simp [MemoryStore.formulasOf, auditedBlog, getField?, blog]

/-- The first audit of the blog invalidates one formula and restores the other, and the second
does neither. With a minute between checks the first audit checks both formulas once, and the
one that starts a second after their marks checks none of them. -/
theorem auditing_converges_blog :
    let store := MemoryStore.checkedStore
    let eager := blogAudit 500000000 0 auditedBlog
    let patient := blogAudit 500000000 60000000000 auditedBlog
    let next := blogAudit 2000000000 60000000000 (patient.closing store)
    eager.counts store = ⟨4, 0, 1, 1, 0⟩ ∧
    ((blogAudit 500000000 0 (eager.closing store)).counts store).invalidated = 0 ∧
    ((blogAudit 500000000 0 (eager.closing store)).counts store).restored = 0 ∧
    patient.checks store = [⟨"blog", "hot", ⟨1000000000⟩⟩, ⟨"blog", "top", ⟨1000000000⟩⟩] ∧
    (patient.counts store).checked = (patient.checks store).length ∧
    ∀ check ∈ patient.checks store, ∀ again ∈ next.checks store, ¬check.SameFormula again := by
  intro store eager patient next
  have first : patient.Timely store :=
    { waits := by decide, started := by decide, marks := by decide +kernel }
  have second : next.Timely store :=
    { waits := by decide, started := by decide, marks := by decide +kernel }
  have rested :=
    (auditing_converges store eager auditedBlog_keysUnique).comesToRest (by decide)
      (blogAudit 500000000 0 (eager.closing store)) (precedes_blogAudit eager _ _) rfl
      (fun _ listed => listed)
  have converges := auditing_converges store patient auditedBlog_keysUnique
  have chain : [patient, next].IsChain (AuditRun.Precedes store) :=
    .cons_cons (precedes_blogAudit patient _ _) (.singleton next)
  have timely : ∀ run ∈ [patient, next], run.Timely store :=
    List.forall_mem_cons.mpr ⟨first, List.forall_mem_singleton.mpr second⟩
  have soon : ∀ check ∈ patient.checks store,
      2000000000 - check.time.nanoseconds < 60000000000 := by decide +kernel
  have spared := converges.spares [next] chain timely
  refine ⟨by decide +kernel, rested.invalidated, rested.restored, by decide +kernel,
    (converges.checksOnce [next] chain timely patient List.mem_cons_self).counted,
    fun check member => ?_⟩
  exact (List.pairwise_cons.mp spared).1 next (List.mem_singleton_self next) check member
    (soon check member)

end RankFormula
