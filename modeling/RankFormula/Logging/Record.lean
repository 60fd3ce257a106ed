import RankFormula.Json.Basic

/-!
# Log records

A program reports what it does as records: a level, a message and named values.
A logger drops the records below its level and writes each other one as a JSON
object. The values of a record can be gathered under a name of their own, next
to values that the logger adds to every record.
-/

namespace RankFormula

/-- How much a record matters. -/
inductive LogLevel where
  /-- Details for those who look for a fault. -/
  | debug
  /-- What the program does. -/
  | info
  /-- What may need attention. -/
  | warn
  /-- What went wrong. -/
  | error
  deriving DecidableEq, Repr

namespace LogLevel

/-- The rank of a level. -/
def rank : LogLevel → Nat
  | .debug => 0
  | .info => 1
  | .warn => 2
  | .error => 3

/-- The name of a level in a written record. -/
def label : LogLevel → String
  | .debug => "DEBUG"
  | .info => "INFO"
  | .warn => "WARN"
  | .error => "ERROR"

/-- The level a setting names; `info` for every other text. -/
def ofSetting : String → LogLevel
  | "debug" => .debug
  | "warn" => .warn
  | "error" => .error
  | _ => .info

end LogLevel

/-- Something a program reports. -/
structure LogRecord where
  /-- How much it matters. -/
  level : LogLevel
  /-- What happened. -/
  message : String
  /-- Named values. -/
  fields : List (String × Json)

/-- What a record is written with. -/
structure LogScope where
  /-- Values written in front of those of the record. -/
  attached : List (String × Json)
  /-- The name under which the record's values are gathered; empty for none. -/
  group : String

/-- The scope of a record that stands alone. -/
def LogScope.plain : LogScope := ⟨[], ""⟩

/-- A logger. -/
structure Logger where
  /-- The least level it writes. -/
  least : LogLevel
  /-- Values added to every record. -/
  standing : List (String × Json)

namespace Logger

/-- The written record; none below the logger's level. -/
def write? (logger : Logger) (scope : LogScope) (record : LogRecord) : Option Json :=
  if record.level.rank < logger.least.rank then none
  else
    let values := record.fields ++ logger.standing
    let gathered :=
      if scope.group.isEmpty || values.isEmpty then values else [(scope.group, .object values)]
    some (.object ([("level", .string record.level.label), ("msg", .string record.message)] ++
      scope.attached ++ gathered))

/-- The written records of a program, in order. -/
def writeAll (logger : Logger) (records : List LogRecord) : List Json :=
  records.filterMap (logger.write? .plain)

end Logger
end RankFormula
