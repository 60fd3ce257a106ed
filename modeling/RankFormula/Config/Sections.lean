import RankFormula.Config.Database
import RankFormula.Yaml.Decoder

/-!
# Sections of configuration files

The settings that several programs share: how a program logs and how it reaches
the document store.
-/

namespace RankFormula

/-- How a program logs. -/
structure LoggingSection where
  /-- Whether a file is written besides the standard output. -/
  logToFile : Bool
  /-- The name of the file. -/
  filename : String
  /-- The size in megabytes at which a new file starts. -/
  maxSize : Int
  /-- The days for which old files are kept. -/
  maxAge : Int
  /-- The number of old files kept. -/
  maxBackups : Int
  /-- The least level that is written. -/
  logLevel : String
  /-- Whether records name their place in the program. -/
  includeSrc : Bool
  /-- Whether old files are compressed. -/
  compressOldLogs : Bool
  /-- When the build is described. -/
  includeBuildInfo : String
  deriving DecidableEq, Repr

namespace LoggingSection

/-- A section in which nothing is set. -/
def blank : LoggingSection := ⟨false, "", 0, 0, 0, "", false, false, ""⟩

/-- The fields of the section. -/
def fields : List (Yaml.Field LoggingSection) := [
  .of "log_to_file" Yaml.decodeBool fun s v => { s with logToFile := v },
  .of "filename" Yaml.decodeText fun s v => { s with filename := v },
  .of "max_size" Yaml.decodeInt fun s v => { s with maxSize := v },
  .of "max_age" Yaml.decodeInt fun s v => { s with maxAge := v },
  .of "max_backups" Yaml.decodeInt fun s v => { s with maxBackups := v },
  .of "log_level" Yaml.decodeText fun s v => { s with logLevel := v },
  .of "include_src" Yaml.decodeBool fun s v => { s with includeSrc := v },
  .of "compress_old_logs" Yaml.decodeBool fun s v => { s with compressOldLogs := v },
  .of "include_build_info" Yaml.decodeText fun s v => { s with includeBuildInfo := v }]

/-- The section changed by a configuration tree. -/
def decode : LoggingSection → Yaml.Tree → Option LoggingSection := Yaml.decodeSection fields blank

end LoggingSection

namespace DatabaseSection

/-- The fields of the section. -/
def fields : List (Yaml.Field DatabaseSection) := [
  .of "connection_str" Yaml.decodeText fun s v => { s with connectionStr := v },
  .of "username" Yaml.decodeText fun s v => { s with username := v },
  .of "password" Yaml.decodeText fun s v => { s with password := v },
  .of "connection_prefix" Yaml.decodeText fun s v => { s with connectionPrefix := v },
  .of "timeout" Yaml.decodeInt fun s v => { s with timeout := v },
  .of "idle_conn_timeout" Yaml.decodeInt fun s v => { s with idleConnTimeout := v },
  .of "max_pool_size" Yaml.decodeInt fun s v => { s with maxPoolSize := v },
  .of "use_no_cursor_timeout" Yaml.decodeBool fun s v => { s with useNoCursorTimeout := v },
  .of "db_name_prefix" Yaml.decodeText fun s v => { s with dbNamePrefix := v },
  .of "run_index_creation" Yaml.decodeBool fun s v => { s with runIndexCreation := v }]

/-- The section changed by a configuration tree. -/
def decode : DatabaseSection → Yaml.Tree → Option DatabaseSection :=
  Yaml.decodeSection fields blank

end DatabaseSection
end RankFormula
