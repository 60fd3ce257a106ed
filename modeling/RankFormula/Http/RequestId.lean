import RankFormula.Http.Message
import RankFormula.Text.Hex

/-!
# Request identifiers

A caller may tag a request with a UUID in one of four forms: 32 digits, the same in
groups joined by hyphens, and the latter within two characters of any kind or after
`urn:uuid:`. Lengths count bytes.
-/

namespace RankFormula

/-- The bytes of a text, each as a character. -/
def byteChars (s : String) : List Char := (utf8Bytes s.toList).map fun b => Char.ofNat b.toNat

/-- Whether characters are hexadecimal digits in the groups of a UUID, hyphens between them. -/
def isGroupedUuid (cs : List Char) : Bool :=
  (cs.splitOn '-').map List.length == [8, 4, 4, 4, 12] && cs.all fun c => c = '-' || isHexDigit c

/-- Whether a text is a UUID in one of its forms. -/
def isUuid (s : String) : Bool :=
  let cs := byteChars s
  match cs.length with
  | 32 => cs.all isHexDigit
  | 36 => isGroupedUuid cs
  | 38 => isGroupedUuid ((cs.drop 1).take 36)
  | 45 => (cs.take 9).map Char.toLower == "urn:uuid:".toList && isGroupedUuid (cs.drop 9)
  | _ => false

/-- The header that carries the tag. -/
def requestIdHeader : String := "X-Request-ID"

/-- The tag of a request: the caller's if it is a UUID. -/
def Request.tag (request : Request) : RequestTag :=
  let id := request.header requestIdHeader
  if isUuid id then .given id else .fresh

end RankFormula
