import RankFormula.Audit.Job
import RankFormula.Config.Host
import RankFormula.Service.Connection
import RankFormula.Time.Duration

/-!
# The audit program

Reads its configuration, connects to the document store, and audits the formulas of
the instances it is configured for.
-/

namespace RankFormula

/-- The configuration of the audit program. -/
structure AuditConfig where
  /-- How it logs. -/
  logging : LoggingSection
  /-- How it reaches the document store. -/
  rankingDB : DatabaseSection
  /-- The instances to audit. -/
  instanceIDs : Option (List String)
  /-- The variables that formulas may read; the standard ones if there are none. -/
  allowedVariables : Option (List String)
  /-- The time between two checks; empty for none. -/
  recheckAfter : String

namespace AuditConfig

/-- A configuration in which nothing is set. -/
def blank : AuditConfig := ⟨.blank, .blank, none, none, ""⟩

/-- The fields of the configuration. -/
def fields : List (Yaml.Field AuditConfig) := [
  .within "logging" LoggingSection.decode AuditConfig.logging fun c v => { c with logging := v },
  .group "db_configs"
    [.within "ranking_db" DatabaseSection.decode AuditConfig.rankingDB fun c v =>
      { c with rankingDB := v }]
    fun c => { c with rankingDB := .blank },
  .of "instance_ids" (Yaml.decodeList Yaml.decodeText) fun c v => { c with instanceIDs := v },
  .of "allowed_variables" (Yaml.decodeList Yaml.decodeText) fun c v =>
    { c with allowedVariables := v },
  .of "recheck_after" Yaml.decodeText fun c v => { c with recheckAfter := v }]

/-- The configuration in a tree. -/
def decode : Yaml.Tree → Option AuditConfig := Yaml.decodeSection fields blank blank

end AuditConfig

/-- The nanoseconds between two checks; none are set by an empty text. -/
def AuditConfig.recheckNanos (config : AuditConfig) : Except DurationFault Int :=
  if config.recheckAfter.isEmpty then .ok 0 else readDuration config.recheckAfter

/-- The record of a time between checks that cannot be read. -/
def recheckFailure (config : AuditConfig) (fault : DurationFault) : LogRecord :=
  ⟨.error, "Error parsing recheck_after",
    [("error", .string (fault.message config.recheckAfter)),
      ("value", .string config.recheckAfter)]⟩

/-- Connects with a configuration and audits. -/
def AuditConfig.run (config : AuditConfig) (environment : Environment) (now : Instant)
    (recheckAfter : Int) (logger : Logger) (started : List LogRecord) : Exchange ProgramEnd :=
  match (config.rankingDB.withSecrets environment).settings config.instanceIDs with
  | .error fault => pure ⟨startFailed, logger.writeAll (started ++ [fault.report])⟩
  | .ok settings => do
    let (connection, reports) ← Connection.start settings
    let rules : AuditRules := ⟨whitelistOf config.allowedVariables, now, recheckAfter⟩
    let report ← (rules.audit (config.instanceIDs.getD [])).interpret (connection.answer now)
    pure ⟨0, logger.writeAll (started ++ reports ++ report.log)⟩

/-- Runs the audit program on a host at a time. -/
def runAudit (host : Host) (now : Instant) : Exchange ProgramEnd :=
  match readConfig AuditConfig.decode host.configPath host.configFile with
  | .error _ => pure ⟨startFailed, []⟩
  | .ok config =>
    match config.logging.start host.buildInfo with
    | .error _ => pure ⟨startFailed, []⟩
    | .ok (logger, started) =>
      match config.recheckNanos with
      | .error fault =>
        pure ⟨startFailed, logger.writeAll (started ++ [recheckFailure config fault])⟩
      | .ok recheckAfter => config.run host.environment now recheckAfter logger started

end RankFormula
