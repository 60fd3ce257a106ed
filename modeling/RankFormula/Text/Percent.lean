import RankFormula.Text.Hex
import RankFormula.Text.Utf8

/-!
# Percent encoding

Credentials and query strings are written with `%XX` for every byte outside the
unreserved characters. Form encoding also writes a space as `+`.
-/

namespace RankFormula

/-- The characters that stand for themselves in every percent-encoded text. -/
def isUnreserved (c : Char) : Bool := c.isAlphanum || c = '-' || c = '_' || c = '.' || c = '~'

/-- A byte as `%XX`. -/
def percentByte (b : UInt8) : List Char :=
  ['%', upperHexDigit (b.toNat / 16), upperHexDigit (b.toNat % 16)]

/-- A character in form encoding. -/
def formEncodeChar (c : Char) : List Char :=
  if isUnreserved c then [c]
  else if c = ' ' then ['+']
  else (String.utf8EncodeChar c).flatMap percentByte

/-- A text in form encoding. -/
def formEncode (cs : List Char) : List Char := cs.flatMap formEncodeChar

/-- The bytes of a percent-encoded text; `none` if a `%` is not followed by two
hexadecimal digits. A character outside the escapes stands for its own bytes. -/
def percentDecode? : List Char → Option (List UInt8)
  | [] => some []
  | '%' :: a :: b :: rest => do
    let high ← hexValue? a
    let low ← hexValue? b
    let bytes ← percentDecode? rest
    some (UInt8.ofNat (16 * high + low) :: bytes)
  | '%' :: _ => none
  | c :: rest => do
    let bytes ← percentDecode? rest
    some (String.utf8EncodeChar c ++ bytes)

/-- The bytes of a form-encoded text, where `+` is a space. -/
def formDecode? (cs : List Char) : Option (List UInt8) :=
  percentDecode? (cs.map fun c => if c = '+' then ' ' else c)

end RankFormula
