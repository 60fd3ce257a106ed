/-!
# Tokens of configuration files

The pieces a file consists of: brackets and other marks, scalars with their names
and tags, and the marks that indentation stands for.
-/

namespace RankFormula
namespace Yaml

/-- A token. -/
inductive Token where
  /-- The end of the file. -/
  | fileEnd
  /-- A line that names the version of the format; whether it is the one known. -/
  | version (isKnown : Bool)
  /-- A line that lets a handle stand for the start of tags. -/
  | handle (name expansion : String)
  /-- The mark in front of a document. -/
  | documentStart
  /-- The mark after a document. -/
  | documentEnd
  /-- The start of a list of lines. -/
  | blockListStart
  /-- The start of a map of lines. -/
  | blockMapStart
  /-- The end of a list or map of lines. -/
  | blockEnd
  /-- An opening bracket. -/
  | listStart
  /-- A closing bracket. -/
  | listEnd
  /-- An opening brace. -/
  | mapStart
  /-- A closing brace. -/
  | mapEnd
  /-- The dash in front of an item. -/
  | dash
  /-- The comma between items. -/
  | comma
  /-- The start of a key. -/
  | key
  /-- The colon in front of a value. -/
  | value
  /-- A node that was named before. -/
  | alias (name : String)
  /-- The name of the node that follows. -/
  | anchor (name : String)
  /-- The tag of the node that follows. -/
  | tag (handle suffix : String)
  /-- A scalar. -/
  | scalar (text : String) (isPlain : Bool)
  deriving DecidableEq, Repr

/-- Whether an entry of a map of lines is over at a token. -/
def Token.endsBlockEntry : Token → Bool
  | .key => true
  | .value => true
  | .blockEnd => true
  | _ => false

/-- Whether a document without content is over at a token. -/
def Token.endsDocument : Token → Bool
  | .version _ => true
  | .handle _ _ => true
  | .documentStart => true
  | .documentEnd => true
  | .fileEnd => true
  | _ => false

end Yaml
end RankFormula
