/-!
# Places in a configuration file

A file is read from left to right. A `Cursor` holds the characters that are left
and counts lines and columns, because indentation decides what belongs together
and a key must stand on one line with its colon. Every way to end a line is made
a line feed first, except the two Unicode separators, which texts keep.
-/

namespace RankFormula
namespace Yaml

/-- A space or a tab. -/
def isGap (c : Char) : Bool := c = ' ' || c = '\t'

/-- The end of a line: a line feed or one of the two Unicode separators. -/
def isBreak (c : Char) : Bool := c = '\n' || c.toNat = 0x2028 || c.toNat = 0x2029

/-- Whether some characters are at their end or start with a gap or a break. -/
def endsWord : List Char → Bool
  | [] => true
  | c :: _ => isGap c || isBreak c

/-- Carriage returns, alone or before a line feed, and next-line characters as line feeds. -/
def unifyBreaks : List Char → List Char
  | [] => []
  | '\r' :: '\n' :: rest => '\n' :: unifyBreaks rest
  | c :: rest => (if c = '\r' || c.toNat = 0x85 then '\n' else c) :: unifyBreaks rest

/-- The mark of the byte order, which may lead a file. -/
def byteOrderMark : Char := Char.ofNat 0xfeff

/-- A place in a file. -/
structure Cursor where
  /-- The characters from here on. -/
  rest : List Char
  /-- The number of characters before. -/
  index : Nat
  /-- The number of breaks before. -/
  line : Nat
  /-- The number of characters before in the same line. -/
  column : Nat
  deriving Repr

namespace Cursor

/-- The start of some characters. -/
def start (cs : List Char) : Cursor := ⟨cs, 0, 0, 0⟩

/-- The place after the next character. -/
def advance (place : Cursor) : Cursor :=
  match place.rest with
  | [] => place
  | c :: rest =>
    if isBreak c then ⟨rest, place.index + 1, place.line + 1, 0⟩
    else ⟨rest, place.index + 1, place.line, place.column + 1⟩

/-- The place some characters later. -/
def drop : Nat → Cursor → Cursor
  | 0, place => place
  | n + 1, place => drop n place.advance

/-- The characters in front that satisfy a test, and the place after them. -/
def span (test : Char → Bool) (place : Cursor) : List Char × Cursor :=
  let front := place.rest.takeWhile test
  (front, place.drop front.length)

/-- The place after the characters in front that satisfy a test. -/
def skipWhile (test : Char → Bool) (place : Cursor) : Cursor := (place.span test).2

/-- Whether a character comes next. -/
def isAt (c : Char) (place : Cursor) : Bool := place.rest.head? = some c

/-- The place at the end of the line, if a comment starts here. -/
def skipComment (place : Cursor) : Cursor :=
  if place.isAt '#' then place.skipWhile (!isBreak ·) else place

/-- Whether a line consists of a character three times, and what follows is no part of it. -/
def isMarker (c : Char) (place : Cursor) : Bool :=
  place.column = 0 && [c, c, c].isPrefixOf place.rest && endsWord (place.rest.drop 3)

/-- Whether a line marks the start or the end of a document. -/
def atMarker (place : Cursor) : Bool := place.isMarker '-' || place.isMarker '.'

/-- The place after the rest of a line that holds nothing but a comment. -/
def finishLine? (place : Cursor) : Option Cursor :=
  let place := (place.skipWhile isGap).skipComment
  match place.rest with
  | [] => some place
  | c :: _ => if isBreak c then some place.advance else none

end Cursor
end Yaml
end RankFormula
