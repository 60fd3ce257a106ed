import RankFormula.Http.Message
import RankFormula.Http.Route

/-!
# Locations

How a path is written when a caller is sent to it: under the root at which a proxy
shows the service, percent-encoded as far as a path needs it, cleaned of empty and
relative segments, and with the query it came with.
-/

namespace RankFormula

/-- Whether a character stands for itself in a written path. -/
def isPathChar (c : Char) : Bool :=
  isUnreserved c || ['$', '&', '+', ',', '/', ':', ';', '=', '@'].contains c

/-- A unit of a path in percent encoding. -/
def encodePathUnit : Utf8Unit → List Char
  | .char c => if isPathChar c then [c] else (String.utf8EncodeChar c).flatMap percentByte
  | .stray b => percentByte b

/-- A path in percent encoding. -/
def encodePath (path : RawText) : RawText := .ofChars (path.units.flatMap encodePathUnit)

/-- The point, which is a segment for the place itself and, twice, for the one above. -/
def point : Utf8Unit := .char '.'

/-- Adds a segment to the segments of a clean path, last first. Nothing is above a root. -/
def pushSegment (isRooted : Bool) (segments : List (List Utf8Unit)) (segment : List Utf8Unit) :
    List (List Utf8Unit) :=
  if segment.isEmpty || segment == [point] then segments
  else if segment == [point, point] then
    match segments with
    | [] => if isRooted then [] else [segment]
    | last :: rest => if last == [point, point] then segment :: segments else rest
  else segment :: segments

/-- A path without empty and relative segments and without a slash at its end. -/
def cleanPath (path : List Utf8Unit) : List Utf8Unit :=
  let isRooted := path.head? == some slash
  let segments := ((path.splitOn slash).foldl (pushSegment isRooted) []).reverse
  let joined := List.intercalate [slash] segments
  if isRooted then slash :: joined else if joined.isEmpty then [point] else joined

/-- A clean path that keeps the slash at its end. -/
def cleanLocation (path : List Utf8Unit) : List Utf8Unit :=
  let clean := cleanPath path
  if path.getLast? == some slash && clean.getLast? != some slash then clean ++ [slash] else clean

/-- The header that carries the root at which a proxy shows the service. -/
def forwardedRootHeader : String := "X-Forwarded-Prefix"

/-- Whether a unit may stand in the root of a proxy. -/
def isRootUnit : Utf8Unit → Bool
  | .char c => c.isAlphanum || c = '/' || c = '-'
  | .stray _ => false

/-- Units in which every run of slashes is one slash. -/
def mergeSlashes : List Utf8Unit → List Utf8Unit
  | [] => []
  | unit :: rest =>
    let merged := mergeSlashes rest
    if unit == slash && merged.head? == some slash then merged else unit :: merged

/-- The path as the callers of a proxy know it. -/
def Request.forwardedPath (request : Request) (path : RawText) : RawText :=
  let root := cleanPath (RawText.ofString (request.header forwardedRootHeader)).units
  if root == [point] then path
  else ⟨mergeSlashes (root.filter isRootUnit) ++ slash :: path.units⟩

/-- Whether a written location starts with the name of a host. -/
def namesHost (location : List Utf8Unit) : Bool :=
  [slash, slash].isPrefixOf location && !([slash, slash, slash].isPrefixOf location)

/-- What stands up to the last slash of a path. -/
def directoryOf (path : RawText) : List Utf8Unit :=
  (path.units.reverse.dropWhile (· != slash)).reverse

/-- The location of a path with a query. A path without a root is taken to be relative
to its own directory. -/
def locationOf (path : RawText) (query : Option (List Char)) : RawText :=
  let asked : List Char := (query.map ('?' :: ·)).getD []
  let written := (encodePath path).units ++ (RawText.ofChars asked).units
  if namesHost written then ⟨written⟩
  else
    let full := if written.head? == some slash then written else directoryOf path ++ written
    let isPath : Utf8Unit → Bool := (· != .char '?')
    ⟨cleanLocation (full.takeWhile isPath) ++ full.dropWhile isPath⟩

/-- A byte beyond ASCII in a location header. -/
def headerByte (b : UInt8) : List Char :=
  ['%', lowerHexDigit (b.toNat / 16), lowerHexDigit (b.toNat % 16)]

/-- A unit of a location as a header carries it. -/
def headerUnit : Utf8Unit → List Char
  | .char c => if c.toNat < 0x80 then [c] else (String.utf8EncodeChar c).flatMap headerByte
  | .stray b => headerByte b

/-- A location as a header carries it. -/
def headerLocation (location : RawText) : String :=
  String.ofList (location.units.flatMap headerUnit)

/-- A character in the text of a page. -/
def pageChar (c : Char) : List Char :=
  match c.toNat with
  | 0x26 => "&amp;".toList
  | 0x3c => "&lt;".toList
  | 0x3e => "&gt;".toList
  | 0x22 => "&#34;".toList
  | 0x27 => "&#39;".toList
  | _ => [c]

/-- The page that tells where a document has moved. -/
def movedPage (location : RawText) : String :=
  "<a href=\"" ++ String.ofList (location.chars.flatMap pageChar) ++ "\">Moved Permanently</a>.\n\n"

end RankFormula
