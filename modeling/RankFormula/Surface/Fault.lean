import RankFormula.Numeral.Integer
import RankFormula.Surface.Token

/-!
# Faults of expression texts

Why a text is no expression, and where. A fault is shown with the line it
occurs in and a mark under the character it points at.
-/

namespace RankFormula
namespace Surface

/-- The forms in which a number can be written. -/
inductive NumberForm where
  /-- Digits of base 16 after `0x`. -/
  | hex
  /-- Digits with a point or an exponent. -/
  | float
  /-- Digits of base 2 after `0b`. -/
  | binary
  /-- Digits of base 8 after `0o`. -/
  | octal
  /-- Decimal digits. -/
  | integer
  deriving DecidableEq, Repr

/-- The name of a form in messages. -/
def NumberForm.label : NumberForm → String
  | .hex => "hex"
  | .float => "float"
  | .binary => "binary"
  | .octal => "octal"
  | .integer => "integer"

/-- The step named by messages about a number of a form. -/
def NumberForm.reader : NumberForm → String
  | .float => "strconv.ParseFloat"
  | _ => "strconv.ParseInt"

/-- Why a text is no expression. -/
inductive Fault where
  /-- A text or raw text without its closing quote. -/
  | unterminatedLiteral
  /-- An unknown escape, or one with too few digits. -/
  | invalidEscape
  /-- An escape that stands for no character. -/
  | unrepresentableEscape
  /-- A number that runs into a letter or another digit. -/
  | badNumber (text : String)
  /-- A comment without its end. -/
  | unclosedComment
  /-- A character that starts no token. -/
  | unrecognizedCharacter (c : Char)
  /-- A token where it cannot stand. -/
  | unexpectedToken (token : Token)
  /-- The text ends where it must go on. -/
  | unexpectedEnd
  /-- A coalescing operator next to another operator. -/
  | mixedCoalesce (operator : String)
  /-- A pointer where there is no element to point at. -/
  | pointerOutsideClosure
  /-- A number without a value of its form. -/
  | invalidNumber (form : NumberForm) (text : String) (cause : IntegerFault)
  /-- A member access without a name. -/
  | expectedName
  /-- A predicate call that closes too early. -/
  | missingArguments (atLeast : Nat)
  /-- A key of a record of another form. -/
  | invalidKey (token : Token)
  deriving DecidableEq, Repr

/-- A character by its code, and by itself if it can be shown. -/
def describeChar (c : Char) : String :=
  let digits := (Nat.toDigits 16 c.toNat).map Char.toUpper
  let code := "U+" ++ String.ofList (List.replicate (4 - digits.length) '0' ++ digits)
  if isPrintable c then code ++ " '" ++ c.toString ++ "'" else code

/-- The words of a fault. -/
def Fault.message : Fault → String
  | .unterminatedLiteral => "literal not terminated"
  | .invalidEscape => "invalid char escape"
  | .unrepresentableEscape => "unable to unescape string"
  | .badNumber text => "bad number syntax: " ++ quotedString text
  | .unclosedComment => "unclosed comment"
  | .unrecognizedCharacter c => "unrecognized character: " ++ describeChar c
  | .unexpectedToken token => "unexpected token " ++ token.describe
  | .unexpectedEnd => "unexpected end of expression"
  | .mixedCoalesce op =>
    "Operator (" ++ op ++
      ") and coalesce expressions (??) cannot be mixed. Wrap either by parentheses."
  | .pointerOutsideClosure => "cannot use pointer accessor outside closure"
  | .invalidNumber form text cause =>
    "invalid " ++ form.label ++ " literal: " ++ form.reader ++ ": parsing " ++ quotedString text ++
      ": " ++ cause.message
  | .expectedName => "expected name"
  | .missingArguments n => "expected at least " ++ toString n ++ " arguments"
  | .invalidKey token =>
    "a map key must be a quoted string, a number, a identifier, or an expression enclosed in " ++
      "parentheses (unexpected token " ++ token.describe ++ ")"

/-- A fault and the code point it points at. -/
structure LocatedFault where
  /-- The code point. -/
  position : Nat
  /-- The fault. -/
  fault : Fault
  deriving DecidableEq, Repr

/-- Line and column of a place in a text. -/
structure Place where
  /-- The line, from 1. -/
  line : Nat
  /-- The code points of the line before the place. -/
  column : Nat

/-- The place after reading some characters from a place. -/
def Place.advance (place : Place) : List Char → Place
  | [] => place
  | c :: cs =>
    if c = '\n' then Place.advance ⟨place.line + 1, 0⟩ cs
    else Place.advance ⟨place.line, place.column + 1⟩ cs

/-- The characters of a line of a text, counted from 1. -/
def lineOf (source : List Char) : Nat → List Char
  | 0 => []
  | 1 => source.takeWhile (· != '\n')
  | n + 1 => lineOf ((source.dropWhile (· != '\n')).drop 1) n

/-- The mark under the character after `column` others: dots, then a caret. There
is none if a character up to there is outside ASCII. -/
def markLine : Nat → List Char → List Char → Option (List Char)
  | _, [], dots => some (dots ++ ['^'])
  | 0, c :: _, dots => if c.toNat < 0x80 then some (dots ++ ['^']) else none
  | column + 1, c :: cs, dots => if c.toNat < 0x80 then markLine column cs ('.' :: dots) else none

/-- The message of a fault, with its place, the line and the mark. -/
def LocatedFault.message (located : LocatedFault) (source : List Char) : String :=
  let place := Place.advance ⟨1, 0⟩ (source.take located.position)
  let line := (lineOf source place.line).map fun c => if c = '\t' then ' ' else c
  let mark :=
    match markLine place.column line [] with
    | some mark => "\n | " ++ String.ofList mark
    | none => ""
  located.fault.message ++ " (" ++ toString place.line ++ ":" ++ toString (place.column + 1) ++
    ")\n | " ++ String.ofList line ++ mark

end Surface
end RankFormula
