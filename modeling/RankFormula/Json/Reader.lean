import RankFormula.Json.Basic
import RankFormula.Numeral.Reading
import RankFormula.Text.Hex
import RankFormula.Text.Utf8

/-!
# Reading JSON

The strict grammar: no trailing commas, no comments, no leading zeros. A value
is read from the front of a text, so that callers may either demand that nothing
follows or ignore what does. Escapes of unpaired surrogates become U+FFFD.
-/

namespace RankFormula
namespace Json

/-- The white space between the parts of a value. -/
def isSpace (c : Char) : Bool := c = ' ' || c = '\t' || c = '\n' || c = '\r'

/-- A text without leading white space. -/
def skipSpace (cs : List Char) : List Char := cs.dropWhile isSpace

/-- A piece of a text: a character, or a UTF-16 unit given by its code. -/
inductive StringPart where
  /-- A character that stands for itself or has a short escape. -/
  | char (c : Char)
  /-- A unit written as four hexadecimal digits. -/
  | unit (code : Nat)

/-- The character of a one-letter escape. -/
def escapedChar? : Char → Option Char
  | '"' => some '"'
  | '\\' => some '\\'
  | '/' => some '/'
  | 'b' => some (Char.ofNat 0x08)
  | 'f' => some (Char.ofNat 0x0c)
  | 'n' => some '\n'
  | 'r' => some '\r'
  | 't' => some '\t'
  | _ => none

/-- The pieces of a text up to its closing quote, and what follows. -/
def readParts : List Char → Option (List StringPart × List Char)
  | [] => none
  | '"' :: rest => some ([], rest)
  | '\\' :: 'u' :: a :: b :: c :: d :: rest => do
    let code ← readHex? [a, b, c, d]
    let (parts, rest) ← readParts rest
    some (.unit code :: parts, rest)
  | '\\' :: e :: rest => do
    let c ← escapedChar? e
    let (parts, rest) ← readParts rest
    some (.char c :: parts, rest)
  | c :: rest =>
    if c.toNat < 0x20 || c = '\\' then none
    else do
      let (parts, rest) ← readParts rest
      some (.char c :: parts, rest)

/-- Whether a unit is the first half of a surrogate pair. -/
def isHighSurrogate (code : Nat) : Bool := decide (0xD800 ≤ code) && decide (code < 0xDC00)

/-- Whether a unit is the second half of a surrogate pair. -/
def isLowSurrogate (code : Nat) : Bool := decide (0xDC00 ≤ code) && decide (code < 0xE000)

/-- The characters of the pieces, surrogate pairs joined. -/
def joinParts : List StringPart → List Char
  | [] => []
  | .char c :: parts => c :: joinParts parts
  | .unit high :: .unit low :: parts =>
    if isHighSurrogate high && isLowSurrogate low then
      Char.ofNat (0x10000 + (high - 0xD800) * 0x400 + (low - 0xDC00)) :: joinParts parts
    else if isHighSurrogate high || isLowSurrogate high then
      replacementChar :: joinParts (.unit low :: parts)
    else Char.ofNat high :: joinParts (.unit low :: parts)
  | .unit code :: parts =>
    (if isHighSurrogate code || isLowSurrogate code then replacementChar else Char.ofNat code) ::
      joinParts parts

/-- A text after its opening quote. -/
def readString (cs : List Char) : Option (String × List Char) := do
  let (parts, rest) ← readParts cs
  some (String.ofList (joinParts parts), rest)

/-- The whole part of a number: a zero alone, or digits that start with another one. -/
def readWhole : List Char → Option (List Char × List Char)
  | '0' :: rest => some (['0'], rest)
  | cs =>
    match spanDigits cs with
    | ([], _) => none
    | found => some found

/-- The digits after a point; empty if there is no point. -/
def readFraction : List Char → Option (List Char × List Char)
  | '.' :: rest =>
    match spanDigits rest with
    | ([], _) => none
    | found => some found
  | cs => some ([], cs)

/-- A number without its sign. -/
def readUnsigned (negative : Bool) (cs : List Char) : Option (Decimal × List Char) := do
  let (whole, cs) ← readWhole cs
  let (fraction, cs) ← readFraction cs
  let (exponent, cs) ← readExponent cs
  some (.ofDigits negative whole fraction exponent, cs)

/-- A number in front of a text. -/
def readNumber : List Char → Option (Decimal × List Char)
  | '-' :: rest => readUnsigned true rest
  | cs => readUnsigned false cs

mutual

/-- Reads the value in front of a text. Lists and objects may be nested `depth`
deep; `fuel` bounds the number of parts. -/
def readValue : Nat → Nat → List Char → Option (Json × List Char)
  | 0, _, _ => none
  | fuel + 1, depth, cs =>
    match skipSpace cs with
    | 'n' :: 'u' :: 'l' :: 'l' :: rest => some (.null, rest)
    | 't' :: 'r' :: 'u' :: 'e' :: rest => some (.bool true, rest)
    | 'f' :: 'a' :: 'l' :: 's' :: 'e' :: rest => some (.bool false, rest)
    | '"' :: rest => do
      let (s, rest) ← readString rest
      some (.string s, rest)
    | '[' :: rest =>
      if depth = 0 then none
      else
        match skipSpace rest with
        | ']' :: rest => some (.array [], rest)
        | _ => do
          let (items, rest) ← readItems fuel (depth - 1) rest
          some (.array items, rest)
    | '{' :: rest =>
      if depth = 0 then none
      else
        match skipSpace rest with
        | '}' :: rest => some (.object [], rest)
        | _ => do
          let (members, rest) ← readMembers fuel (depth - 1) rest
          some (.object members, rest)
    | cs => do
      let (d, rest) ← readNumber cs
      some (.number d, rest)

/-- Reads one or more items up to the closing bracket. -/
def readItems : Nat → Nat → List Char → Option (List Json × List Char)
  | 0, _, _ => none
  | fuel + 1, depth, cs => do
    let (item, rest) ← readValue fuel depth cs
    match skipSpace rest with
    | ']' :: rest => some ([item], rest)
    | ',' :: rest => do
      let (items, rest) ← readItems fuel depth rest
      some (item :: items, rest)
    | _ => none

/-- Reads one or more members up to the closing brace. -/
def readMembers : Nat → Nat → List Char → Option (List (String × Json) × List Char)
  | 0, _, _ => none
  | fuel + 1, depth, cs =>
    match skipSpace cs with
    | '"' :: rest => do
      let (name, rest) ← readString rest
      match skipSpace rest with
      | ':' :: rest => do
        let (value, rest) ← readValue fuel depth rest
        match skipSpace rest with
        | '}' :: rest => some ([(name, value)], rest)
        | ',' :: rest => do
          let (members, rest) ← readMembers fuel depth rest
          some ((name, value) :: members, rest)
        | _ => none
      | _ => none
    | _ => none

end

/-- The value in front of a text, and what follows it. -/
def readFirst? (cs : List Char) : Option (Json × List Char) :=
  readValue (cs.length + 1) nestingLimit cs

/-- The value that makes up a whole text, white space around it aside. -/
def read? (cs : List Char) : Option Json :=
  match readFirst? cs with
  | some (value, rest) => if (skipSpace rest).isEmpty then some value else none
  | none => none

end Json
end RankFormula
