import RankFormula.Numeral.Decimal
import RankFormula.Text.Hex
import RankFormula.Yaml.Cursor
import RankFormula.Yaml.Scalar.Quoted
import RankFormula.Yaml.Token

/-!
# Names, tags and directives

A node can have a name, by which it is repeated later, and a tag, which says what
it is. A tag is written in full between angle brackets or abbreviated by a handle;
directives in front of a document introduce further handles.
-/

namespace RankFormula
namespace Yaml

/-- The characters of names and handles. -/
def isNameChar (c : Char) : Bool := c.isAlphanum || c = '_' || c = '-'

/-- The characters of tags besides those of names. -/
def isTagMark (c : Char) : Bool :=
  [';', '/', '?', ':', '@', '&', '=', '+', '$', ',', '.', '!', '~', '*', singleQuote, '(', ')',
    '[', ']'].contains c

/-- The characters besides gaps that may follow a name. -/
def followsName : List Char → Bool
  | [] => true
  | c :: _ =>
    isGap c || isBreak c || ['?', ':', ',', ']', '}', '%', '@', Char.ofNat 0x60].contains c

/-- The name after the mark at a place. -/
def readName? (place : Cursor) : Option (String × Cursor) :=
  let (name, place) := place.advance.span isNameChar
  if name.isEmpty || !followsName place.rest then none else some (String.ofList name, place)

/-- The number of bytes of a character, by its first byte. -/
def byteCount? (lead : Nat) : Option Nat :=
  if lead < 0x80 then some 1
  else if 0xC0 ≤ lead ∧ lead < 0xE0 then some 2
  else if 0xE0 ≤ lead ∧ lead < 0xF0 then some 3
  else if 0xF0 ≤ lead ∧ lead < 0xF8 then some 4
  else none

/-- The byte of an escape in front of some characters. -/
def readTagByte? : List Char → Option Nat
  | '%' :: a :: b :: _ => readHex? [a, b]
  | _ => none

/-- The bytes that continue a character. -/
def readTagTail? : Nat → List Char → Option (List Nat)
  | 0, _ => some []
  | count + 1, cs => do
    let byte ← readTagByte? cs
    let more ← readTagTail? count (cs.drop 3)
    if byte / 0x40 = 2 then some (byte :: more) else none

/-- An escaped character in a tag, byte by byte. -/
def readTagEscape? (cs : List Char) : Option (List Nat) := do
  let lead ← readTagByte? cs
  let count ← byteCount? lead
  let more ← readTagTail? (count - 1) (cs.drop 3)
  some (lead :: more)

/-- The characters of a tag at a place, in at most `steps` steps; an escaped byte counts
as the character of its value. -/
def readTagTextUpTo : Nat → List Char → Cursor → Option (List Char × Cursor)
  | 0, text, place => some (text.reverse, place)
  | steps + 1, text, place =>
    match place.rest with
    | [] => some (text.reverse, place)
    | c :: _ =>
      if c = '%' then do
        let bytes ← readTagEscape? place.rest
        readTagTextUpTo steps ((bytes.map Char.ofNat).reverse ++ text)
          (place.drop (3 * bytes.length))
      else if isNameChar c || isTagMark c then readTagTextUpTo steps (c :: text) place.advance
      else some (text.reverse, place)

/-- The characters of a tag at a place. -/
def readTagText? (place : Cursor) : Option (List Char × Cursor) :=
  readTagTextUpTo place.rest.length [] place

/-- The handle at a place: an exclamation mark, a name and, if there is one, another mark. -/
def readHandle? (place : Cursor) : Option (List Char × Cursor) :=
  if place.isAt '!' then
    let (name, place) := place.advance.span isNameChar
    if place.isAt '!' then some ('!' :: name ++ ['!'], place.advance)
    else some ('!' :: name, place)
  else none

/-- Whether some characters are a handle with both its marks. -/
def isFullHandle (handle : List Char) : Bool :=
  decide (1 < handle.length) && handle.getLast? = some '!'

/-- The parts of the tag at a place. -/
def readTagParts? (place : Cursor) : Option (List Char × List Char × Cursor) :=
  if place.advance.isAt '<' then do
    let (text, place) ← readTagText? (place.drop 2)
    if text.isEmpty || !place.isAt '>' then none else some ([], text, place.advance)
  else do
    let (handle, place) ← readHandle? place
    let (text, place) ← readTagText? place
    if isFullHandle handle then
      if text.isEmpty then none else some (handle, text, place)
    else
      match handle.drop 1 ++ text with
      | [] => some ([], ['!'], place)
      | suffix => some (['!'], suffix, place)

/-- The tag at a place. -/
def readTag? (place : Cursor) : Option (Token × Cursor) := do
  let (handle, suffix, place) ← readTagParts? place
  if endsWord place.rest then
    some (.tag (String.ofList handle) (String.ofList suffix), place)
  else none

/-- A number of one or two digits. -/
def readVersionPart? (place : Cursor) : Option (Nat × Cursor) :=
  let (digits, place) := place.span isAsciiDigit
  if digits.isEmpty || 2 < digits.length then none else some (digitsValue digits, place)

/-- The version that a directive names. -/
def readVersion? (place : Cursor) : Option (Token × Cursor) := do
  let (major, place) ← readVersionPart? (place.skipWhile isGap)
  let (minor, place) ← if place.isAt '.' then readVersionPart? place.advance else none
  some (.version (major = 1 && minor = 1), place)

/-- The handle that a directive introduces. -/
def readHandleLine? (place : Cursor) : Option (Token × Cursor) := do
  let (handle, place) ← readHandle? (place.skipWhile isGap)
  let isHandle := handle = ['!'] || isFullHandle handle
  let hasGap := place.rest.head?.any isGap
  let (expansion, place) ← readTagText? (place.skipWhile isGap)
  if isHandle && hasGap && !expansion.isEmpty && endsWord place.rest then
    some (.handle (String.ofList handle) (String.ofList expansion), place)
  else none

/-- The directive at a place, with its line. -/
def readDirective? (place : Cursor) : Option (Token × Cursor) := do
  let (name, place) := place.advance.span isNameChar
  let (token, place) ←
    if !endsWord place.rest then none
    else if name = "YAML".toList then readVersion? place
    else if name = "TAG".toList then readHandleLine? place
    else none
  let place ← place.finishLine?
  some (token, place)

end Yaml
end RankFormula
