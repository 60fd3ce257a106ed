import RankFormula.Yaml.Scalar.Block
import RankFormula.Yaml.Scalar.Plain
import RankFormula.Yaml.Tag

/-!
# Reading tokens

Tokens are read when they are needed. That something is a key shows only at the
colon after it, so its token waits until the colon has been found or can no longer
come: the colon must stand in the same line and within 1024 characters. Indentation
is turned into tokens that open and close lists and maps.
-/

namespace RankFormula
namespace Yaml

/-- A token that may turn out to start a key. -/
structure Candidate where
  /-- Whether a colon would still make it one. -/
  isOpen : Bool
  /-- Whether it must be one, since it stands where the entries of a map start. -/
  isRequired : Bool
  /-- Whether the token is kept back until this is known. -/
  isAwaited : Bool
  /-- The number of the token. -/
  number : Nat
  /-- The place of the token. -/
  place : Cursor

/-- The farthest a colon may be from the start of its key. -/
def keyReach : Nat := 1024

/-- Whether a colon at a place can still belong to a candidate; a required one that
has missed its colon is an error. -/
def Candidate.isLive? (k : Candidate) (place : Cursor) : Option Bool :=
  if !k.isOpen then some false
  else if k.place.line < place.line || k.place.index + keyReach < place.index then
    if k.isRequired then none else some false
  else some true

/-- The reading of a file up to a place. -/
structure TokenStream where
  /-- The place. -/
  place : Cursor
  /-- Whether the file begins with a second mark of the byte order. -/
  isMarkedTwice : Bool
  /-- The tokens read and not yet taken. -/
  queue : List Token
  /-- The number of tokens taken. -/
  taken : Nat
  /-- The column of the innermost list or map of lines, `-1` outside of them. -/
  indent : Int
  /-- The columns around it, innermost first. -/
  outerIndents : List Int
  /-- Whether a key may start here. -/
  allowsKey : Bool
  /-- The candidate within the innermost brackets. -/
  candidate : Candidate
  /-- The candidates around them, innermost first. -/
  outerCandidates : List Candidate

namespace TokenStream

/-- The start of a text. -/
def start (text : List Char) : TokenStream :=
  let text := unifyBreaks (if text.head? = some byteOrderMark then text.drop 1 else text)
  let place := Cursor.start text
  ⟨place, text.head? = some byteOrderMark, [], 0, -1, [], true,
    ⟨false, false, false, 0, place⟩, []⟩

/-- Whether the place is within brackets. -/
def inBrackets (s : TokenStream) : Bool := !s.outerCandidates.isEmpty

/-- The number of the next token read. -/
def nextNumber (s : TokenStream) : Nat := s.taken + s.queue.length

/-- The stream with a further token. -/
def push (s : TokenStream) (token : Token) : TokenStream := { s with queue := s.queue ++ [token] }

/-- The stream with a token in front of that of a number, last if that one is taken. -/
def insert (s : TokenStream) (number : Nat) (token : Token) : TokenStream :=
  if number < s.taken then s.push token
  else { s with queue := s.queue.insertIdx (number - s.taken) token }

/-- Opens a list or map of lines at a column, if it is further in, by adding a token. -/
def openBlock (s : TokenStream) (column : Nat) (add : TokenStream → TokenStream) : TokenStream :=
  if !s.inBrackets && s.indent < column then
    { add s with indent := column, outerIndents := s.indent :: s.outerIndents }
  else s

/-- Closes the lists and maps of lines that are further in than a column. -/
def closeBlocksTo (column : Int) : List Int → TokenStream → TokenStream
  | outer, s =>
    if s.indent ≤ column then s
    else
      let s := { s.push .blockEnd with indent := outer.headD (-1), outerIndents := outer.drop 1 }
      match outer with
      | [] => s
      | _ :: outer => closeBlocksTo column outer s

/-- Closes the lists and maps of lines that are further in than a column. -/
def closeBlocks (s : TokenStream) (column : Int) : TokenStream :=
  if s.inBrackets then s else closeBlocksTo column s.outerIndents s

/-- Gives up the candidate; one that is required must not be given up. -/
def dropCandidate? (s : TokenStream) : Option TokenStream :=
  if s.candidate.isOpen && s.candidate.isRequired then none
  else some { s with candidate := { s.candidate with isOpen := false, isAwaited := false } }

/-- Makes the token that starts here the candidate, where a key may start. -/
def saveCandidate? (s : TokenStream) : Option TokenStream :=
  if s.allowsKey then do
    let s ← s.dropCandidate?
    let isRequired := !s.inBrackets && s.indent = s.place.column
    some { s with candidate := ⟨true, isRequired, true, s.nextNumber, s.place⟩ }
  else some s

/-- Skips what stands between tokens, in at most `steps` steps. Where a key may start
outside of brackets, tabs are no indentation. A second mark of the byte order at the
start of the file takes the first character of each line along. -/
def skipGapsUpTo : Nat → TokenStream → TokenStream
  | 0, s => s
  | steps + 1, s =>
    let hasMark := s.place.index = 0 || 3 ≤ s.place.rest.length
    let place :=
      if s.isMarkedTwice && s.place.column = 0 && hasMark then s.place.advance else s.place
    let skipsTabs := s.inBrackets || !s.allowsKey
    let place := (place.skipWhile fun c => c = ' ' || (skipsTabs && c = '\t')).skipComment
    match place.rest with
    | [] => { s with place := place }
    | c :: _ =>
      if isBreak c then
        skipGapsUpTo steps
          { s with place := place.advance, allowsKey := s.allowsKey || !s.inBrackets }
      else { s with place := place }

/-- Moves past a number of characters and adds a token. -/
def take (s : TokenStream) (width : Nat) (token : Token) : TokenStream :=
  { s.push token with place := s.place.drop width }

/-- Leaves every list, map and key behind. -/
def leaveBlocks? (s : TokenStream) : Option TokenStream := do
  let s ← (s.closeBlocks (-1)).dropCandidate?
  some { s with allowsKey := false }

/-- Reads the end of the file. -/
def readEnd? (s : TokenStream) : Option TokenStream := do
  let place := if s.place.column = 0 then s.place else ⟨[], s.place.index, s.place.line + 1, 0⟩
  let s ← { s with place := place }.leaveBlocks?
  some (s.push .fileEnd)

/-- Reads a directive. -/
def readDirectiveLine? (s : TokenStream) : Option TokenStream := do
  let s ← s.leaveBlocks?
  let (token, place) ← readDirective? s.place
  some { s.push token with place := place }

/-- Reads the mark of a document. -/
def readMarker? (s : TokenStream) (token : Token) : Option TokenStream := do
  let s ← s.leaveBlocks?
  some (s.take 3 token)

/-- Reads an opening bracket. -/
def readOpening? (s : TokenStream) (token : Token) : Option TokenStream := do
  let s ← s.saveCandidate?
  let inner : Candidate := ⟨false, false, false, s.nextNumber, s.place⟩
  some { s.take 1 token with
    candidate := inner, outerCandidates := s.candidate :: s.outerCandidates, allowsKey := true }

/-- Reads a closing bracket. Brackets in which nothing could have been a key are not
awaited to be one themselves. -/
def readClosing? (s : TokenStream) (token : Token) : Option TokenStream := do
  let s ← s.dropCandidate?
  let s := { s with allowsKey := false }
  match s.outerCandidates with
  | [] => some (s.take 1 token)
  | outer :: others =>
    let isAwaited := outer.isAwaited && outer.number != s.candidate.number
    some { s.take 1 token with
      candidate := { outer with isAwaited := isAwaited }, outerCandidates := others }

/-- Reads a comma. -/
def readComma? (s : TokenStream) : Option TokenStream := do
  let s ← s.dropCandidate?
  some { s.take 1 .comma with allowsKey := true }

/-- Reads the dash of an item. -/
def readDash? (s : TokenStream) : Option TokenStream := do
  let s ←
    if s.inBrackets then some s
    else if !s.allowsKey then none
    else some (s.openBlock s.place.column (·.push .blockListStart))
  let s ← s.dropCandidate?
  some { s.take 1 .dash with allowsKey := true }

/-- Reads the mark of a key. -/
def readKey? (s : TokenStream) : Option TokenStream := do
  let s ←
    if s.inBrackets then some s
    else if !s.allowsKey then none
    else some (s.openBlock s.place.column (·.push .blockMapStart))
  let s ← s.dropCandidate?
  some { s.take 1 .key with allowsKey := !s.inBrackets }

/-- Reads the colon in front of a value, which makes the candidate a key. -/
def readValue? (s : TokenStream) : Option TokenStream := do
  let k := s.candidate
  if ← k.isLive? s.place then
    let s := s.insert k.number .key
    let s := s.openBlock k.place.column (·.insert k.number .blockMapStart)
    some { s.take 1 .value with
      candidate := { k with isOpen := false, isAwaited := false }, allowsKey := false }
  else
    let s ←
      if s.inBrackets then some s
      else if !s.allowsKey then none
      else some (s.openBlock s.place.column (·.push .blockMapStart))
    some { s.take 1 .value with allowsKey := !s.inBrackets }

/-- Reads a token that can start a key but cannot be followed by one. -/
def readStarting? (s : TokenStream) (read : Cursor → Option (Token × Cursor)) :
    Option TokenStream := do
  let s ← s.saveCandidate?
  let (token, place) ← read s.place
  some { s.push token with place := place, allowsKey := false }

/-- Reads a block scalar. -/
def readBlockScalar? (s : TokenStream) (isFolded : Bool) : Option TokenStream := do
  let s ← s.dropCandidate?
  let (text, place) ← readBlock? isFolded s.indent s.place.advance
  some { s.push (.scalar text false) with place := place, allowsKey := true }

/-- Reads a plain scalar; the line it ends may be followed by a key. -/
def readPlainScalar? (s : TokenStream) : Option TokenStream := do
  let s ← s.saveCandidate?
  let plain ← readPlain? s.inBrackets (s.indent + 1).toNat s.place
  some { s.push (.scalar plain.text true) with place := plain.place, allowsKey := plain.endsLine }

/-- A reading of a scalar in quotes as a token. -/
def quotedToken (read : Cursor → Option (String × Cursor)) (place : Cursor) :
    Option (Token × Cursor) :=
  (read place).map fun (text, place) => (.scalar text false, place)

/-- A reading of a name as a token. -/
def nameToken (token : String → Token) (place : Cursor) : Option (Token × Cursor) :=
  (readName? place).map fun (name, place) => (token name, place)

/-- Reads the token that starts with a character. -/
def readTokenAt? (s : TokenStream) (c : Char) (rest : List Char) : Option TokenStream :=
  let endsMark := s.inBrackets || endsWord rest
  if s.place.column = 0 && c = '%' then s.readDirectiveLine?
  else if s.place.isMarker '-' then s.readMarker? .documentStart
  else if s.place.isMarker '.' then s.readMarker? .documentEnd
  else if c = '[' then s.readOpening? .listStart
  else if c = '{' then s.readOpening? .mapStart
  else if c = ']' then s.readClosing? .listEnd
  else if c = '}' then s.readClosing? .mapEnd
  else if c = ',' then s.readComma?
  else if c = '-' && endsWord rest then s.readDash?
  else if c = '?' && endsMark then s.readKey?
  else if c = ':' && endsMark then s.readValue?
  else if c = '*' then s.readStarting? (nameToken .alias)
  else if c = '&' then s.readStarting? (nameToken .anchor)
  else if c = '!' then s.readStarting? readTag?
  else if c = '|' && !s.inBrackets then s.readBlockScalar? false
  else if c = '>' && !s.inBrackets then s.readBlockScalar? true
  else if c = singleQuote then s.readStarting? (quotedToken readSingleQuoted?)
  else if c = '"' then s.readStarting? (quotedToken readDoubleQuoted?)
  else if canStartPlain s.inBrackets (c :: rest) then s.readPlainScalar?
  else none

/-- Reads the next token. -/
def readToken? (s : TokenStream) : Option TokenStream :=
  let s := skipGapsUpTo (s.place.rest.length + 1) s
  let s := s.closeBlocks s.place.column
  match s.place.rest with
  | [] => s.readEnd?
  | c :: rest => s.readTokenAt? c rest

/-- The candidate for which the first token waits. -/
def awaited? (s : TokenStream) : Option Candidate :=
  (s.candidate :: s.outerCandidates).find? fun k => k.isAwaited && k.number = s.taken

/-- Reads tokens, at most `steps` of them, until the first one is settled. -/
def settleUpTo : Nat → TokenStream → Option TokenStream
  | 0, _ => none
  | steps + 1, s =>
    if s.queue.isEmpty then s.readToken? >>= settleUpTo steps
    else
      match s.awaited? with
      | none => some s
      | some k => do
        if ← k.isLive? s.place then s.readToken? >>= settleUpTo steps else some s

/-- The stream with its first token settled. -/
def settle? (s : TokenStream) : Option TokenStream := settleUpTo (s.place.rest.length + 3) s

/-- The stream without its first token. -/
def dropFirst (s : TokenStream) : TokenStream :=
  { s with queue := s.queue.drop 1, taken := s.taken + 1 }

end TokenStream
end Yaml
end RankFormula
