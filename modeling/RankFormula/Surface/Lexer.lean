import RankFormula.Surface.Fault
import RankFormula.Text.CharacterClass
import RankFormula.Text.Hex
import RankFormula.Text.Letter

/-!
# Splitting texts into tokens

`tokenize` reads a text from left to right. White space and comments separate
tokens and are dropped. The first fault ends the reading; it points at the last
character that was looked at.
-/

namespace RankFormula
namespace Surface

/-- Whether a character may start a name other than a number. -/
def isWordStart (c : Char) : Bool := c = '_' || c = '$' || isLetter c

/-- Whether a character belongs to a word. -/
def isWordChar (c : Char) : Bool := isWordStart c || isDecimalDigit c

/-- Whether a text is a name that needs no quotes. -/
def isName : List Char → Bool
  | [] => false
  | c :: cs => isWordStart c && cs.all isWordChar

/-- The words that are operators. -/
def wordOperators : List String :=
  ["not", "in", "or", "and", "matches", "contains", "startsWith", "endsWith", "let"]

/-- What a step of the lexer yields: tokens, and the characters after them with
their position. -/
structure Lexeme where
  /-- The tokens found, in order. -/
  tokens : List Token
  /-- The position after them. -/
  position : Nat
  /-- The characters after them. -/
  rest : List Char

/-- One token that starts at a position and is made of the given characters. -/
def Lexeme.single (kind : TokenKind) (position : Nat) (text rest : List Char) : Lexeme :=
  ⟨[⟨kind, String.ofList text, position⟩], position + text.length, rest⟩

/-! ## Texts in quotes -/

/-- A piece of a quoted text. -/
inductive TextPiece where
  /-- A character that stands for itself or has a one-letter escape. -/
  | char (c : Char)
  /-- A character by three octal digits. -/
  | octal (code : Nat)
  /-- A character by hexadecimal digits. -/
  | hex (code : Nat)

/-- Where the reading of a quoted text stands. -/
inductive TextState where
  /-- Between characters. -/
  | plain
  /-- After a backslash. -/
  | escape
  /-- Within octal digits. -/
  | octal (missing code : Nat)
  /-- Within hexadecimal digits. -/
  | hex (missing code : Nat)

/-- The character of a one-letter escape. -/
def letterEscape? (quote c : Char) : Option Char :=
  match c with
  | 'a' => some (Char.ofNat 0x07)
  | 'b' => some (Char.ofNat 0x08)
  | 'f' => some (Char.ofNat 0x0c)
  | 'n' => some '\n'
  | 'r' => some '\r'
  | 't' => some '\t'
  | 'v' => some (Char.ofNat 0x0b)
  | '\\' => some '\\'
  | _ => if c = quote then some quote else none

/-- The number of hexadecimal digits after an escape letter. -/
def hexEscapeWidth? : Char → Option Nat
  | 'x' => some 2
  | 'u' => some 4
  | 'U' => some 8
  | _ => none

/-- The value of an octal digit. -/
def octalValue? (c : Char) : Option Nat :=
  if '0' ≤ c ∧ c ≤ '7' then some (c.toNat - '0'.toNat) else none

/-- Reads the pieces of a text up to its closing quote, last piece first. -/
def readText (quote : Char) : TextState → Nat → List Char → List TextPiece →
    Except LocatedFault (List TextPiece × Nat × List Char)
  | .plain, position, [], _ => .error ⟨position, .unterminatedLiteral⟩
  | .plain, position, c :: rest, pieces =>
    if c = quote then .ok (pieces, position + 1, rest)
    else if c = '\n' then .error ⟨position, .unterminatedLiteral⟩
    else if c = '\\' then readText quote .escape (position + 1) rest pieces
    else
      -- a carriage return in the text is a line feed in its value
      readText quote .plain (position + 1) rest (.char (if c = '\r' then '\n' else c) :: pieces)
  | _, position, [], _ => .error ⟨position, .invalidEscape⟩
  | .escape, position, c :: rest, pieces =>
    match letterEscape? quote c, octalValue? c, hexEscapeWidth? c with
    | some escaped, _, _ => readText quote .plain (position + 1) rest (.char escaped :: pieces)
    | none, some digit, _ => readText quote (.octal 2 digit) (position + 1) rest pieces
    | none, none, some width => readText quote (.hex width 0) (position + 1) rest pieces
    | none, none, none => .error ⟨position, .invalidEscape⟩
  | .octal missing code, position, c :: rest, pieces =>
    match octalValue? c with
    | none => .error ⟨position, .invalidEscape⟩
    | some digit =>
      let code := 8 * code + digit
      if missing ≤ 1 then readText quote .plain (position + 1) rest (.octal code :: pieces)
      else readText quote (.octal (missing - 1) code) (position + 1) rest pieces
  | .hex missing code, position, c :: rest, pieces =>
    match hexValue? c with
    | none => .error ⟨position, .invalidEscape⟩
    | some digit =>
      let code := 16 * code + digit
      if missing ≤ 1 then readText quote .plain (position + 1) rest (.hex code :: pieces)
      else readText quote (.hex (missing - 1) code) (position + 1) rest pieces

/-- The character of a code point; U+FFFD for a surrogate. -/
def charOfCode (code : Nat) : Char :=
  if 0xD800 ≤ code ∧ code < 0xE000 then replacementChar else Char.ofNat code

/-- The bytes of a piece. Octal codes end at a byte. A hexadecimal code is read as a
signed word of 32 bits: beyond the code space it stands for nothing, and a negative
one for its lowest byte, which may be stray or complete a character. -/
def TextPiece.bytes? : TextPiece → Option (List UInt8)
  | .char c => some (String.utf8EncodeChar c)
  | .octal code => if code < 256 then some (String.utf8EncodeChar (Char.ofNat code)) else none
  | .hex code =>
    if code ≤ 0x10FFFF then some (String.utf8EncodeChar (charOfCode code))
    else if code < 0x80000000 then none
    else some [UInt8.ofNat (code % 256)]

/-- A quoted text after its opening quote at `start`. -/
def lexText (quote : Char) (start : Nat) (cs : List Char) : Except LocatedFault Lexeme := do
  let (pieces, position, rest) ← readText quote .plain (start + 1) cs []
  match pieces.reverse.mapM TextPiece.bytes? with
  | some bytes => .ok ⟨[⟨.string, .ofBytes bytes.flatten, start⟩], position, rest⟩
  | none => .error ⟨position - 1, .unrepresentableEscape⟩

/-- The single quote, which delimits texts as the double quote does. -/
def singleQuote : Char := Char.ofNat 0x27

/-- The quote around a raw text. -/
def rawQuote : Char := Char.ofNat 0x60

/-- A raw text after its opening quote at `start`. -/
def lexRawText (start : Nat) (cs : List Char) : Except LocatedFault Lexeme :=
  let text := cs.takeWhile (· != rawQuote)
  match cs.dropWhile (· != rawQuote) with
  | _ :: rest => .ok ⟨[⟨.string, String.ofList text, start⟩], start + text.length + 2, rest⟩
  | [] => .error ⟨start + 1 + text.length, .unterminatedLiteral⟩

/-! ## Numbers -/

/-- The digits of a number in some base, or separators between them. -/
def isDigitOf (base : Nat) (c : Char) : Bool :=
  c = '_' ||
    match hexValue? c with
    | some digit => decide (digit < base)
    | none => false

/-- The mark of a base in front of a number, the base, and what follows. -/
def splitBaseMark : List Char → List Char × Nat × List Char
  | '0' :: c :: rest =>
    if c = 'x' || c = 'X' then (['0', c], 16, rest)
    else if c = 'o' || c = 'O' then (['0', c], 8, rest)
    else if c = 'b' || c = 'B' then (['0', c], 2, rest)
    else ([], 10, '0' :: c :: rest)
  | cs => ([], 10, cs)

/-- A point with the digits after it; nothing where a range operator follows. -/
def splitFraction (base : Nat) : List Char → List Char × List Char
  | '.' :: '.' :: rest => ([], '.' :: '.' :: rest)
  | '.' :: rest => ('.' :: rest.takeWhile (isDigitOf base), rest.dropWhile (isDigitOf base))
  | cs => ([], cs)

/-- A sign in front of the digits of an exponent. -/
def splitSign : List Char → List Char × List Char
  | '+' :: rest => (['+'], rest)
  | '-' :: rest => (['-'], rest)
  | cs => ([], cs)

/-- An exponent. -/
def splitExponent (base : Nat) : List Char → List Char × List Char
  | c :: rest =>
    if c = 'e' || c = 'E' then
      let (sign, rest) := splitSign rest
      (c :: (sign ++ rest.takeWhile (isDigitOf base)), rest.dropWhile (isDigitOf base))
    else ([], c :: rest)
  | [] => ([], [])

/-- The characters of a number, and what follows. -/
def splitNumber (cs : List Char) : List Char × List Char :=
  let (mark, base, rest) := splitBaseMark cs
  let whole := rest.takeWhile (isDigitOf base)
  let (fraction, rest) := splitFraction base (rest.dropWhile (isDigitOf base))
  let (exponent, rest) := splitExponent base rest
  (mark ++ whole ++ fraction ++ exponent, rest)

/-- A number that starts at `start`; `before` is the point in front of its digits,
if it starts with one. -/
def lexNumber (start : Nat) (before cs : List Char) : Except LocatedFault Lexeme :=
  let (digits, rest) := splitNumber cs
  let text := before ++ digits
  match rest with
  | c :: _ =>
    if isWordChar c then
      .error ⟨start + text.length, .badNumber (String.ofList (text ++ [c]))⟩
    else .ok (.single .number start text rest)
  | [] => .ok (.single .number start text rest)

/-! ## Comments, words and operators -/

/-- The position and characters after a block comment, whose inside starts at `position`. -/
def skipBlockComment : Nat → List Char → Except LocatedFault (Nat × List Char)
  | position, '*' :: '/' :: rest => .ok (position + 2, rest)
  | position, _ :: rest => skipBlockComment (position + 1) rest
  | position, [] => .error ⟨position, .unclosedComment⟩

/-- A word that starts at `start`. -/
def lexWord (start : Nat) (cs : List Char) : Lexeme :=
  let word := cs.takeWhile isWordChar
  let kind : TokenKind :=
    if wordOperators.contains (String.ofList word) then .operator else .identifier
  .single kind start word (cs.dropWhile isWordChar)

/-- A pointer: one or two number signs, then a name that follows directly. -/
def lexPointer (start : Nat) (cs : List Char) : Lexeme :=
  let (sign, rest) :=
    match cs with
    | '#' :: rest => (['#', '#'], rest)
    | _ => (['#'], cs)
  let pointer : Token := ⟨.operator, String.ofList sign, start⟩
  let next := start + sign.length
  match rest.takeWhile isWordChar with
  | [] => ⟨[pointer], next, rest⟩
  | word =>
    ⟨[pointer, ⟨.identifier, String.ofList word, next⟩], next + word.length,
      rest.dropWhile isWordChar⟩

/-- The operator that starts with `c`, where one of the `seconds` may follow. -/
def lexOperator (start : Nat) (c : Char) (seconds cs : List Char) : Lexeme :=
  match cs with
  | d :: rest =>
    if seconds.contains d then .single .operator start [c, d] rest
    else .single .operator start [c] cs
  | [] => .single .operator start [c] cs

/-- The token or comment that starts with `c` at `start`. -/
def lexeme (start : Nat) (c : Char) (rest : List Char) : Except LocatedFault Lexeme :=
  if c = singleQuote || c = '"' then lexText c start rest
  else if c = rawQuote then lexRawText start rest
  else if isAsciiDigit c then lexNumber start [] (c :: rest)
  else if c = '?' then .ok (lexOperator start c ['.', '?'] rest)
  else if c = '/' then
    match rest with
    | '*' :: inside => do
      let (position, rest) ← skipBlockComment (start + 2) inside
      .ok ⟨[], position, rest⟩
    | _ => .ok (.single .operator start ['/'] rest)
  else if c = '#' then .ok (lexPointer start rest)
  else if c = '|' then .ok (lexOperator start c ['|'] rest)
  else if c = ':' then .ok (lexOperator start c [':'] rest)
  else if ['(', '[', '{', ')', ']', '}'].contains c then .ok (.single .bracket start [c] rest)
  else if [',', ';', '%', '+', '-', '^'].contains c then .ok (.single .operator start [c] rest)
  else if ['&', '!', '=', '*', '<', '>'].contains c then
    .ok (lexOperator start c ['&', '=', '*'] rest)
  else if c = '.' then
    match rest with
    | d :: _ =>
      if isAsciiDigit d then lexNumber start ['.'] rest else .ok (lexOperator start c ['.'] rest)
    | [] => .ok (lexOperator start c ['.'] rest)
  else if isWordChar c then .ok (lexWord start (c :: rest))
  else .error ⟨start, .unrecognizedCharacter c⟩

/-- The end of a text, at its last character. -/
def endToken (position : Nat) : Token := ⟨.eof, "", position⟩

/-- The tokens of the characters from a position on; `steps` bounds their number. -/
def tokensFrom : Nat → Nat → List Char → Except LocatedFault (List Token)
  | 0, position, _ => .ok [endToken (position - 1)]
  | _, position, [] => .ok [endToken (position - 1)]
  | steps + 1, position, '/' :: '/' :: rest =>
    let comment := rest.takeWhile (· != '\n')
    match rest.dropWhile (· != '\n') with
    | [] => .ok [endToken (position + 2 + comment.length)]
    | _ :: rest => tokensFrom steps (position + comment.length + 3) rest
  | steps + 1, position, c :: rest =>
    if isBlank c then tokensFrom steps (position + 1) rest
    else do
      let found ← lexeme position c rest
      let later ← tokensFrom steps found.position found.rest
      .ok (found.tokens ++ later)

/-- The tokens of a text, the end included. -/
def tokenize (cs : List Char) : Except LocatedFault (List Token) :=
  tokensFrom (cs.length + 1) 0 cs

end Surface
end RankFormula
