import RankFormula.Logging.Record
import RankFormula.Store.Call

/-!
# Auditing stored formulas

An audit goes through the formulas of instances, checks those whose last check is
too long ago under the current whitelist, and records what it found. A failure on
one formula or one instance is reported and does not stop the others.
-/

namespace RankFormula

/-- What an audit counts. -/
structure AuditCounts where
  /-- Formulas checked. -/
  checked : Nat
  /-- Formulas whose check was not due. -/
  skipped : Nat
  /-- Formulas that were valid and no longer are. -/
  invalidated : Nat
  /-- Formulas that were invalid and no longer are. -/
  restored : Nat
  /-- Findings that could not be recorded. -/
  failed : Nat
  deriving DecidableEq, Repr

/-- The counts of an audit that has not started. -/
def AuditCounts.zero : AuditCounts := ⟨0, 0, 0, 0, 0⟩

/-- The progress of an audit. -/
structure AuditReport where
  /-- What was counted. -/
  counts : AuditCounts
  /-- What was reported, in order. -/
  log : List LogRecord

/-- What an audit goes by. -/
structure AuditRules where
  /-- The variables that formulas may read. -/
  whitelist : Whitelist
  /-- The start of the audit. -/
  start : Instant
  /-- The nanoseconds that pass between two checks. -/
  recheckAfter : Int

namespace AuditReport

/-- The report of an audit that has not started. -/
def blank : AuditReport := ⟨.zero, []⟩

/-- Adds a record. -/
def note (report : AuditReport) (record : LogRecord) : AuditReport :=
  { report with log := report.log ++ [record] }

/-- Counts a formula whose check was not due. -/
def skip (report : AuditReport) : AuditReport :=
  { report with counts := { report.counts with skipped := report.counts.skipped + 1 } }

/-- Counts a check of a formula and reports a change of its validity. -/
def check (report : AuditReport) (instanceID : String) (formula : StoredFormula)
    (found : CheckResult) : AuditReport :=
  let counts := { report.counts with checked := report.counts.checked + 1 }
  let place : List (String × Json) :=
    [("instanceID", .string instanceID), ("key", .string formula.key)]
  match formula.valid, found.valid with
  | true, false =>
    { report with counts := { counts with invalidated := counts.invalidated + 1 } }.note
      ⟨.warn, "Formula became invalid", ("error", .string found.lastError) :: place⟩
  | false, true =>
    { report with counts := { counts with restored := counts.restored + 1 } }.note
      ⟨.info, "Formula is valid again", place⟩
  | _, _ => { report with counts := counts }

/-- Counts and reports a finding that could not be recorded. -/
def fail (report : AuditReport) (instanceID key : String) (fault : StoreFault) : AuditReport :=
  { report with counts := { report.counts with failed := report.counts.failed + 1 } }.note
    ⟨.error, "Failed to update formula validity",
      [("error", .string fault.message), ("instanceID", .string instanceID), ("key", .string key)]⟩

end AuditReport

namespace AuditRules

/-- Audits a formula. -/
def auditFormula (rules : AuditRules) (instanceID : String) (report : AuditReport)
    (formula : StoredFormula) : Session AuditReport :=
  if needsRecheck formula.checkedAt.instant rules.start rules.recheckAfter then do
    let found := checkStored rules.whitelist formula.expression
    let report := report.check instanceID formula found
    match ← Store.mark instanceID formula.key found with
    | .ok _ => pure report
    | .error fault => pure (report.fail instanceID formula.key fault)
  else pure report.skip

/-- Audits formulas in turn. -/
def auditFormulas (rules : AuditRules) (instanceID : String) :
    AuditReport → List StoredFormula → Session AuditReport
  | report, [] => pure report
  | report, formula :: rest => do
    auditFormulas rules instanceID (← rules.auditFormula instanceID report formula) rest

/-- Audits the formulas of an instance. -/
def auditInstance (rules : AuditRules) (report : AuditReport) (instanceID : String) :
    Session AuditReport := do
  let report := report.note
    ⟨.debug, "Start auditing ranking formulas for instance", [("instanceID", .string instanceID)]⟩
  match ← Store.formulas instanceID false with
  | .ok formulas => rules.auditFormulas instanceID report formulas
  | .error fault =>
    pure (report.note ⟨.error, "Failed to get formulas",
      [("error", .string fault.message), ("instanceID", .string instanceID)]⟩)

/-- Audits instances in turn. -/
def auditInstances (rules : AuditRules) : AuditReport → List String → Session AuditReport
  | report, [] => pure report
  | report, instanceID :: rest => do
    auditInstances rules (← rules.auditInstance report instanceID) rest

/-- The record of a finished audit. -/
def summary (counts : AuditCounts) : LogRecord :=
  ⟨.info, "Formula audit job completed",
    [("checked", .int counts.checked), ("skipped", .int counts.skipped),
      ("invalidated", .int counts.invalidated), ("restored", .int counts.restored),
      ("failed", .int counts.failed)]⟩

/-- Audits all formulas of instances. -/
def audit (rules : AuditRules) (instanceIDs : List String) : Session AuditReport := do
  let report := AuditReport.blank.note ⟨.info, "Starting formula audit job", []⟩
  let report ← rules.auditInstances report instanceIDs
  pure (report.note (summary report.counts))

end AuditRules
end RankFormula
