import RankFormula.Json.Basic
import RankFormula.Numeral.Layout
import RankFormula.Text.Hex

/-!
# Writing JSON

Values are written without any white space. Inside texts the characters that
mean something to a web page or break a line of a script are escaped too, so a
written value can stand in either.
-/

namespace RankFormula
namespace Json

/-- Numbers are written positionally from a millionth up to twenty-one digits. -/
def numberLayout : NumberLayout := ⟨-6, 21, 1⟩

/-- A character inside a JSON text. -/
def escapeChar (c : Char) : List Char :=
  if c = '"' then ['\\', '"']
  else if c = '\\' then ['\\', '\\']
  else if c = '\n' then ['\\', 'n']
  else if c = '\r' then ['\\', 'r']
  else if c = '\t' then ['\\', 't']
  else if c.toNat = 0x08 then ['\\', 'b']
  else if c.toNat = 0x0c then ['\\', 'f']
  else if c.toNat < 0x20 || c = '<' || c = '>' || c = '&' || c.toNat = 0x2028 ||
      c.toNat = 0x2029 then
    '\\' :: 'u' :: lowerHex 4 c.toNat
  else [c]

/-- A text between quotes. -/
def writeString (s : String) : List Char := '"' :: s.toList.flatMap escapeChar ++ ['"']

/-- A unit of a text from outside; a stray byte is written as the code of the character
that stands in for it. -/
def escapeUnit : Utf8Unit → List Char
  | .char c => escapeChar c
  | .stray _ => '\\' :: 'u' :: lowerHex 4 replacementChar.toNat

/-- A text from outside between quotes. -/
def writeRaw (text : RawText) : List Char := '"' :: text.units.flatMap escapeUnit ++ ['"']

mutual

/-- The text of a value. -/
def writeChars : Json → List Char
  | .null => ['n', 'u', 'l', 'l']
  | .bool true => ['t', 'r', 'u', 'e']
  | .bool false => ['f', 'a', 'l', 's', 'e']
  | .number d => d.write numberLayout
  | .string s => writeString s
  | .malformed text => writeRaw text
  | .array [] => ['[', ']']
  | .array (item :: items) => '[' :: (writeChars item ++ writeItems items)
  | .object [] => ['{', '}']
  | .object (m :: ms) => '{' :: (writeMember m ++ writeMembers ms)

/-- The items of a list after the first one, up to the closing bracket. -/
def writeItems : List Json → List Char
  | [] => [']']
  | item :: items => ',' :: (writeChars item ++ writeItems items)

/-- A name with its value. -/
def writeMember : String × Json → List Char
  | (name, value) => writeString name ++ ':' :: writeChars value

/-- The members of an object after the first one, up to the closing brace. -/
def writeMembers : List (String × Json) → List Char
  | [] => ['}']
  | m :: ms => ',' :: (writeMember m ++ writeMembers ms)

end

/-- The text of a value, as a string. -/
def write (value : Json) : String := String.ofList value.writeChars

end Json
end RankFormula
