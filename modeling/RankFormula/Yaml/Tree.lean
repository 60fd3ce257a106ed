/-!
# Configuration trees

What a configuration file says before its settings are picked out: scalars, lists
and maps. A scalar remembers how it was written, because only a plain or tagged
scalar can stand for a number, a truth value or nothing.
-/

namespace RankFormula
namespace Yaml

/-- A piece of text as it was written. -/
structure Scalar where
  /-- The text, escapes resolved. -/
  text : String
  /-- Whether it stood without quotes. -/
  isPlain : Bool
  /-- Its tag; empty for none. -/
  tag : String
  deriving DecidableEq, Repr, Inhabited

/-- A node of a configuration file. -/
inductive Tree where
  /-- A piece of text. -/
  | scalar (value : Scalar)
  /-- A list. -/
  | list (items : List Tree)
  /-- Keys with their values, as written. -/
  | map (entries : List (Tree × Tree))
  /-- A node that was given before. -/
  | alias (target : Tree)
  deriving Repr, Inhabited

/-- The node of a place where nothing is written. -/
def Tree.nothing : Tree := .scalar ⟨"", true, ""⟩

/-- The node itself, where it is given again. -/
def Tree.resolved : Tree → Tree
  | .alias target => target
  | tree => tree

end Yaml
end RankFormula
