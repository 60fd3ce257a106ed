import RankFormula.Config.Sections
import RankFormula.Text.Utf8
import RankFormula.Yaml.Reader

/-!
# Configuration files

Reading a configuration: the path must be set, the file must be there, and its
text must decode without unknown settings. A path can also lead to something that
is no file, such as a directory.
-/

namespace RankFormula

/-- What is found at a path. -/
inductive FileLookup where
  /-- Nothing. -/
  | missing
  /-- Something that cannot be read. -/
  | unreadable
  /-- A file with a text. -/
  | text (content : String)
  deriving DecidableEq, Repr

/-- The segments of a path that name something: neither empty nor the place itself nor
the one above. -/
def namedSegments (path : String) : List String :=
  (path.splitOn "/").filter fun segment => segment != "" && segment != "." && segment != ".."

/-- The longest path, in bytes. -/
def maxPathBytes : Nat := 4095

/-- The longest segment of a path, in bytes. -/
def maxSegmentBytes : Nat := 255

/-- Whether a text can be no path, by its length or a zero character. -/
def isBadPath (path : String) : Bool :=
  decide (maxPathBytes < path.utf8ByteSize) || path.toList.contains (Char.ofNat 0) ||
    (namedSegments path).head?.any fun segment => decide (maxSegmentBytes < segment.utf8ByteSize)

/-- What is found at a path, where there are no files but the given one. A path that
names nothing leads to a directory, which cannot be read. -/
def FileLookup.at (path : String) (content : Option String) : FileLookup :=
  if isBadPath path || (namedSegments path).isEmpty then .unreadable
  else
    match content with
    | some content => .text content
    | none => .missing

/-- Why there is no configuration. -/
inductive ConfigFault where
  /-- No path is set. -/
  | pathNotSet
  /-- There is no file at the path. -/
  | fileMissing
  /-- What is at the path cannot be read, or its text does not decode. -/
  | invalid
  deriving DecidableEq, Repr

/-- The words of a fault. A file that is missing or invalid is reported in words of the host or of
the format, which are not told here. -/
def ConfigFault.words? : ConfigFault → Option String
  | .pathNotSet => some "config file path not set"
  | .fileMissing => none
  | .invalid => none

/-- Decodes the text of the file at a path. -/
def readConfig {α : Type} (decode : Yaml.Tree → Option α) (path : String) (file : FileLookup) :
    Except ConfigFault α :=
  if path.isEmpty then .error .pathNotSet
  else
    match file with
    | .missing => .error .fileMissing
    | .unreadable => .error .invalid
    | .text text =>
      match Yaml.read? text.toList >>= decode with
      | some settings => .ok settings
      | none => .error .invalid

end RankFormula
