import RankFormula.Text.Hex
import RankFormula.Text.Printable
import RankFormula.Text.RawText

/-!
# Quoted texts

Messages show texts between double quotes. Quotes, backslashes and the usual
control characters have an escape of their own; every other character that is
not printable is written by its code.
-/

namespace RankFormula

/-- The escape of a character by its code. -/
def escapeByCode (c : Char) : List Char :=
  if c.toNat < 0x80 then '\\' :: 'x' :: lowerHex 2 c.toNat
  else if c.toNat < 0x10000 then '\\' :: 'u' :: lowerHex 4 c.toNat
  else '\\' :: 'U' :: lowerHex 8 c.toNat

/-- A character inside quotes. -/
def quoteChar (c : Char) : List Char :=
  if c = '"' then ['\\', '"']
  else if c = '\\' then ['\\', '\\']
  else if isPrintable c then [c]
  else match c.toNat with
    | 0x07 => ['\\', 'a']
    | 0x08 => ['\\', 'b']
    | 0x0c => ['\\', 'f']
    | 0x0a => ['\\', 'n']
    | 0x0d => ['\\', 'r']
    | 0x09 => ['\\', 't']
    | 0x0b => ['\\', 'v']
    | _ => escapeByCode c

/-- A text in quotes. -/
def quoted (cs : List Char) : List Char := '"' :: cs.flatMap quoteChar ++ ['"']

/-- A text in quotes, as a string. -/
def quotedString (s : String) : String := String.ofList (quoted s.toList)

/-- One unit of a text from outside inside quotes; a stray byte is written by its value. -/
def quoteUnit : Utf8Unit → List Char
  | .char c => quoteChar c
  | .stray b => '\\' :: 'x' :: lowerHex 2 b.toNat

/-- A text from outside in quotes, as a string. -/
def quotedRaw (text : RawText) : String :=
  String.ofList ('"' :: text.units.flatMap quoteUnit ++ ['"'])

end RankFormula
