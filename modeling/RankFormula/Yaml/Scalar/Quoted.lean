import RankFormula.Text.Hex
import RankFormula.Yaml.Scalar.Gap

/-!
# Quoted scalars

Between single quotes only the quote itself is written twice. Between double
quotes a backslash starts an escape, and before a break it joins the lines.
-/

namespace RankFormula
namespace Yaml

/-- The single quote. -/
def singleQuote : Char := Char.ofNat 0x27

/-- The character of a one-letter escape in double quotes. -/
def escapeLetter? : Char → Option Nat
  | '0' => some 0x00
  | 'a' => some 0x07
  | 'b' => some 0x08
  | 't' => some 0x09
  | '\t' => some 0x09
  | 'n' => some 0x0a
  | 'v' => some 0x0b
  | 'f' => some 0x0c
  | 'r' => some 0x0d
  | 'e' => some 0x1b
  | ' ' => some 0x20
  | '"' => some 0x22
  | '\\' => some 0x5c
  | 'N' => some 0x85
  | '_' => some 0xa0
  | 'L' => some 0x2028
  | 'P' => some 0x2029
  | c => if c = singleQuote then some 0x27 else none

/-- The number of digits after an escape letter that is followed by a code. -/
def escapeDigits? : Char → Option Nat
  | 'x' => some 2
  | 'u' => some 4
  | 'U' => some 8
  | _ => none

/-- Whether a code is that of a character. -/
def isCharCode (code : Nat) : Bool :=
  decide (code < 0x110000) && !(decide (0xD800 ≤ code) && decide (code < 0xE000))

/-- The character of an escape, from the letter on, and the number of characters it takes. -/
def readEscape? : List Char → Option (Char × Nat)
  | [] => none
  | c :: rest =>
    match escapeLetter? c with
    | some code => some (Char.ofNat code, 1)
    | none => do
      let width ← escapeDigits? c
      let digits := rest.take width
      let code ← if digits.length = width then readHex? digits else none
      if isCharCode code then some (Char.ofNat code, width + 1) else none

/-- Reads a text in double quotes after the first one, in at most `steps` steps. -/
def readDoubleUpTo : Nat → List Char → Cursor → Option (String × Cursor)
  | 0, _, _ => none
  | steps + 1, text, place =>
    if place.atMarker then none
    else
      match place.rest with
      | [] => none
      | '"' :: _ => some (String.ofList text.reverse, place.advance)
      | '\\' :: rest =>
        match rest.head?.map isBreak with
        | some true => do
          let (gap, place) ← Gap.read 0 (.breaks none []) (place.drop 2)
          readDoubleUpTo steps (gap.folded ++ text) place
        | _ => do
          let (c, width) ← readEscape? rest
          readDoubleUpTo steps (c :: text) (place.drop (width + 1))
      | c :: _ =>
        if isGap c || isBreak c then do
          let (gap, place) ← Gap.read 0 (.blanks []) place
          readDoubleUpTo steps (gap.folded ++ text) place
        else readDoubleUpTo steps (c :: text) place.advance

/-- Reads a text in single quotes after the first one, in at most `steps` steps. -/
def readSingleUpTo : Nat → List Char → Cursor → Option (String × Cursor)
  | 0, _, _ => none
  | steps + 1, text, place =>
    if place.atMarker then none
    else
      match place.rest with
      | [] => none
      | c :: rest =>
        if c = singleQuote then
          if rest.head? = some singleQuote then
            readSingleUpTo steps (singleQuote :: text) (place.drop 2)
          else some (String.ofList text.reverse, place.advance)
        else if isGap c || isBreak c then do
          let (gap, place) ← Gap.read 0 (.blanks []) place
          readSingleUpTo steps (gap.folded ++ text) place
        else readSingleUpTo steps (c :: text) place.advance

/-- The text in double quotes at a place. -/
def readDoubleQuoted? (place : Cursor) : Option (String × Cursor) :=
  readDoubleUpTo place.rest.length [] place.advance

/-- The text in single quotes at a place. -/
def readSingleQuoted? (place : Cursor) : Option (String × Cursor) :=
  readSingleUpTo place.rest.length [] place.advance

end Yaml
end RankFormula
