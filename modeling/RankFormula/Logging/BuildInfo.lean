import RankFormula.Config.Sections
import RankFormula.Logging.Record
import RankFormula.Yaml.Reader

/-!
# Starting a logger

A logger can describe the build of the program, once at the start or with every
record. The description is a file of names and texts; a logger that needs it does
not start without it.
-/

namespace RankFormula

/-- When the build is described. -/
inductive BuildInfoMode where
  /-- Not at all. -/
  | never
  /-- In one record at the start. -/
  | once
  /-- With every record. -/
  | always
  deriving DecidableEq, Repr

/-- The mode a setting names; `never` for every other text. -/
def BuildInfoMode.ofSetting : String → BuildInfoMode
  | "always" => .always
  | "once" => .once
  | _ => .never

/-- Why a logger does not start. -/
inductive BuildInfoFault where
  /-- The description cannot be read. -/
  | unreadable
  /-- The description is no map of texts. -/
  | malformed
  deriving DecidableEq, Repr

/-- The words of a fault. -/
def BuildInfoFault.message : BuildInfoFault → String
  | .unreadable => "Error reading build info file"
  | .malformed => "Error parsing build info"

/-- The values that describe a build. -/
def readBuildInfo (file : Option String) : Except BuildInfoFault (List (String × Json)) :=
  match file with
  | none => .error .unreadable
  | some text =>
    match Yaml.read? text.toList >>= Yaml.decodeTextMap with
    | some entries => .ok (entries.map fun e => ("build." ++ e.1, .string e.2))
    | none => .error .malformed

/-- Starts the logger of a section: the logger, and the records of the start. -/
def LoggingSection.start (s : LoggingSection) (buildInfo : Option String) :
    Except BuildInfoFault (Logger × List LogRecord) :=
  let least := LogLevel.ofSetting s.logLevel
  match BuildInfoMode.ofSetting s.includeBuildInfo with
  | .never => .ok (⟨least, []⟩, [])
  | .once => do
    let values ← readBuildInfo buildInfo
    .ok (⟨least, []⟩, [⟨.info, "Build info", values⟩])
  | .always => do
    let values ← readBuildInfo buildInfo
    .ok (⟨least, values⟩, [])

/-- Whether a logger that wrote some lines leaves a file behind. -/
def LoggingSection.leavesFile (s : LoggingSection) (lines : List Json) : Bool :=
  s.logToFile && !s.filename.isEmpty && !lines.isEmpty

end RankFormula
