import RankFormula.Yaml.Cursor

/-!
# Gaps in scalars

Between two words of a scalar stand spaces, which are kept, or breaks, which are
folded: a single line feed becomes a space, and of several all but the first are
kept. The spaces around a break do not count.
-/

namespace RankFormula
namespace Yaml

/-- What stands between two words of a scalar. -/
inductive Gap where
  /-- Spaces and tabs only, last one first. -/
  | blanks (text : List Char)
  /-- A first break, absent if it was escaped, and further ones, last one first. -/
  | breaks (first : Option Char) (more : List Char)

namespace Gap

/-- Whether the gap goes to another line. -/
def isBroken : Gap → Bool
  | .blanks _ => false
  | .breaks _ _ => true

/-- The gap with a further space or tab. -/
def addBlank (c : Char) : Gap → Gap
  | .blanks text => .blanks (c :: text)
  | .breaks first more => .breaks first more

/-- The gap with a further break. -/
def addBreak (c : Char) : Gap → Gap
  | .blanks _ => .breaks (some c) []
  | .breaks first more => .breaks first (c :: more)

/-- What the gap contributes to a text, last character first. -/
def folded : Gap → List Char
  | .blanks text => text
  | .breaks (some '\n') [] => [' ']
  | .breaks (some '\n') more => more
  | .breaks (some c) more => more ++ [c]
  | .breaks none more => more

/-- Reads at most `steps` characters onto a gap. In a new line no tab may stand
before the column `least`. -/
def readUpTo (least : Nat) : Nat → Gap → Cursor → Option (Gap × Cursor)
  | 0, gap, place => some (gap, place)
  | steps + 1, gap, place =>
    match place.rest with
    | [] => some (gap, place)
    | c :: _ =>
      if isBreak c then readUpTo least steps (gap.addBreak c) place.advance
      else if isGap c then
        if gap.isBroken && c = '\t' && place.column < least then none
        else readUpTo least steps (gap.addBlank c) place.advance
      else some (gap, place)

/-- Reads onto a gap all that belongs to it. -/
def read (least : Nat) (gap : Gap) (place : Cursor) : Option (Gap × Cursor) :=
  readUpTo least place.rest.length gap place

end Gap
end Yaml
end RankFormula
