import RankFormula.Yaml.Scalar.Quoted

/-!
# Plain scalars

A scalar without quotes ends before a colon that ends a word, before a comment
and, within brackets, before one of their characters. It goes on in the next
lines as long as they are indented further.
-/

namespace RankFormula
namespace Yaml

/-- The characters that mean something at the start of a value. -/
def isIndicator (c : Char) : Bool :=
  ['-', '?', ':', ',', '[', ']', '{', '}', '#', '&', '*', '!', '|', '>', singleQuote, '"', '%',
    '@', Char.ofNat 0x60].contains c

/-- Whether a plain scalar can start with some characters. -/
def canStartPlain (inBrackets : Bool) : List Char → Bool
  | [] => false
  | c :: rest =>
    if c = '-' then !endsWord rest
    else if c = '?' || c = ':' then !inBrackets && !endsWord rest
    else !isIndicator c && !endsWord [c]

/-- The characters that end a plain scalar within brackets. -/
def isBracketChar (c : Char) : Bool := [',', '?', '[', ']', '{', '}'].contains c

/-- The word in front of some characters. -/
def plainWord (inBrackets : Bool) : List Char → List Char
  | [] => []
  | c :: rest =>
    if isGap c || isBreak c || (c = ':' && endsWord rest) || (inBrackets && isBracketChar c) then []
    else c :: plainWord inBrackets rest

/-- A plain scalar with the place after it. -/
structure PlainText where
  /-- The text. -/
  text : String
  /-- Whether it was left by going to another line. -/
  endsLine : Bool
  /-- The place after it. -/
  place : Cursor

/-- Reads a plain scalar word by word, in at most `steps` steps. In a block its lines
start at the column `least` or further. -/
def readPlainUpTo (inBrackets : Bool) (least : Nat) :
    Nat → List Char → Gap → Cursor → Option PlainText
  | 0, _, _, _ => none
  | steps + 1, text, gap, place =>
    let word := if place.atMarker || place.isAt '#' then [] else plainWord inBrackets place.rest
    if word.isEmpty then some ⟨String.ofList text.reverse, gap.isBroken, place⟩
    else
      let text := word.reverse ++ gap.folded ++ text
      let place := place.drop word.length
      if place.rest.isEmpty || !endsWord place.rest then
        some ⟨String.ofList text.reverse, false, place⟩
      else do
        let (gap, place) ← Gap.read least (.blanks []) place
        if !inBrackets && place.column < least then
          some ⟨String.ofList text.reverse, gap.isBroken, place⟩
        else readPlainUpTo inBrackets least steps text gap place

/-- The plain scalar at a place. -/
def readPlain? (inBrackets : Bool) (least : Nat) (place : Cursor) : Option PlainText :=
  readPlainUpTo inBrackets least (place.rest.length + 1) [] (.blanks []) place

end Yaml
end RankFormula
