import RankFormula.Numeral.Decimal
import RankFormula.Yaml.Cursor

/-!
# Block scalars

After a bar the lines that follow are taken as they are; after an angle bracket
they are folded. The lines are indented alike, by a given number of spaces or by
those of the first line that is not empty, and a mark decides about the breaks
at the end.
-/

namespace RankFormula
namespace Yaml

/-- What becomes of the breaks at the end of a block. -/
inductive Chomping where
  /-- All go. -/
  | strip
  /-- The first one stays. -/
  | clip
  /-- All stay. -/
  | keep
  deriving DecidableEq, Repr

/-- What the first line of a block says. -/
structure BlockHeader where
  /-- The breaks at the end. -/
  chomping : Chomping
  /-- The indentation below that of the parent, if it is given. -/
  increment : Option Nat

/-- The mark for the breaks at the end. -/
def chompingOf? : Char → Option Chomping
  | '+' => some .keep
  | '-' => some .strip
  | _ => none

/-- The header in front of some characters and its length. -/
def readHeader? (cs : List Char) : Option (BlockHeader × Nat) :=
  match cs with
  | a :: rest =>
    match chompingOf? a with
    | some chomping =>
      match rest with
      | b :: _ =>
        if b = '0' then none
        else if isAsciiDigit b then some (⟨chomping, some (digitValue b)⟩, 2)
        else some (⟨chomping, none⟩, 1)
      | [] => some (⟨chomping, none⟩, 1)
    | none =>
      if a = '0' then none
      else if isAsciiDigit a then
        match rest.head?.bind chompingOf? with
        | some chomping => some (⟨chomping, some (digitValue a)⟩, 2)
        | none => some (⟨.clip, some (digitValue a)⟩, 1)
      else some (⟨.clip, none⟩, 0)
  | [] => some (⟨.clip, none⟩, 0)

/-- The empty lines at a place. -/
structure EmptyLines where
  /-- Their breaks, last one first. -/
  breaks : List Char
  /-- The widest indentation among them and the line after them. -/
  widest : Nat
  /-- The place after them and the indentation of the next line. -/
  place : Cursor

/-- Reads empty lines in at most `steps` steps, indented up to `indent` if it is known. -/
def readEmptyLinesUpTo (indent : Option Nat) :
    Nat → List Char → Nat → Cursor → Option EmptyLines
  | 0, _, _, _ => none
  | steps + 1, breaks, widest, place =>
    let spaces := (place.rest.takeWhile (· = ' ')).length
    let place :=
      place.drop (match indent with | some n => min spaces (n - place.column) | none => spaces)
    let widest := max widest place.column
    let isShort := match indent with | some n => decide (place.column < n) | none => true
    match place.rest with
    | [] => some ⟨breaks, widest, place⟩
    | c :: _ =>
      if isShort && c = '\t' then none
      else if isBreak c then readEmptyLinesUpTo indent steps (c :: breaks) widest place.advance
      else some ⟨breaks, widest, place⟩

/-- Reads empty lines. -/
def readEmptyLines? (indent : Option Nat) (place : Cursor) : Option EmptyLines :=
  readEmptyLinesUpTo indent (place.rest.length + 1) [] 0 place

/-- Where the reading of a block stands. -/
structure BlockState where
  /-- The text so far, last character first. -/
  text : List Char
  /-- The break after it. -/
  lineBreak : List Char
  /-- The breaks of the empty lines after that, last one first. -/
  empty : List Char
  /-- Whether the last line started with a gap. -/
  startedWithGap : Bool
  /-- The place. -/
  place : Cursor

/-- What stands between the text and a line that starts with a gap or not. -/
def BlockState.joined (s : BlockState) (isFolded startsWithGap : Bool) : List Char :=
  if isFolded && !s.startedWithGap && !startsWithGap && s.lineBreak = ['\n'] then
    s.empty ++ (if s.empty.isEmpty then [' '] else []) ++ s.text
  else s.empty ++ s.lineBreak ++ s.text

/-- Reads the lines of a block, at most `steps` of them. -/
def readLinesUpTo (isFolded : Bool) (indent : Nat) : Nat → BlockState → Option BlockState
  | 0, s => some s
  | steps + 1, s =>
    match s.place.rest with
    | [] => some s
    | c :: _ =>
      if s.place.column != indent then some s
      else do
        let text := s.joined isFolded (isGap c)
        let (line, place) := s.place.span (!isBreak ·)
        let lineBreak := place.rest.take 1
        let lines ← readEmptyLines? (some indent) place.advance
        readLinesUpTo isFolded indent steps
          ⟨line.reverse ++ text, lineBreak, lines.breaks, isGap c, lines.place⟩

/-- The text of a block with its breaks at the end. -/
def BlockState.chomped (s : BlockState) : Chomping → List Char
  | .strip => s.text
  | .clip => s.lineBreak ++ s.text
  | .keep => s.empty ++ s.lineBreak ++ s.text

/-- The block scalar at a place, after its first character, below an indentation. -/
def readBlock? (isFolded : Bool) (parent : Int) (place : Cursor) : Option (String × Cursor) := do
  let (header, width) ← readHeader? place.rest
  let place ← (place.drop width).finishLine?
  let given := header.increment.map fun n => parent.toNat + n
  let lines ← readEmptyLines? given place
  let indent := given.getD (max lines.widest (max (parent + 1) 1).toNat)
  let s ← readLinesUpTo isFolded indent (lines.place.rest.length + 1)
    ⟨[], [], lines.breaks, false, lines.place⟩
  some (String.ofList (s.chomped header.chomping).reverse, s.place)

end Yaml
end RankFormula
