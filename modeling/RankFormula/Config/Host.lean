import RankFormula.Config.Database
import RankFormula.Config.Environment
import RankFormula.Config.File
import RankFormula.Expression.Whitelist
import RankFormula.Logging.BuildInfo

/-!
# Hosts of programs

What a program finds when it starts: the environment and the files. A program that
cannot start ends with a status other than 0, and what it reported by then is kept.
-/

namespace RankFormula

/-- What a program finds. -/
structure Host where
  /-- The environment. -/
  environment : Environment
  /-- What is found at the path of the configuration file. -/
  configFile : FileLookup
  /-- The description of the build, if it is there. -/
  buildInfo : Option String

/-- The variable that holds the path of the configuration file. -/
def configPathVariable : String := "CONFIG_FILE_PATH"

/-- The path of the configuration file; empty if it is not set. -/
def Host.configPath (host : Host) : String := (host.environment.value? configPathVariable).getD ""

/-- A program that ended. -/
structure ProgramEnd where
  /-- The exit status. -/
  exitCode : Nat
  /-- The records written. -/
  log : List Json

/-- The exit status of a program that could not start. -/
def startFailed : Nat := 2

/-- A database section with the credentials of the environment. -/
def DatabaseSection.withSecrets (database : DatabaseSection) (environment : Environment) :
    DatabaseSection :=
  { database with
    username := environment.override "RANKING_DB_USERNAME" database.username
    password := environment.override "RANKING_DB_PASSWORD" database.password }

/-- The whitelist of a setting: the standard one if no names are set. -/
def whitelistOf (names : Option (List String)) : Whitelist :=
  match names.getD [] with
  | [] => .standard
  | names => .ofNames names

end RankFormula
