import RankFormula.Numeral.Integer
import RankFormula.Numeral.Reading
import RankFormula.Text.Base64
import RankFormula.Yaml.Timestamp
import RankFormula.Yaml.Tree

/-!
# Meaning of scalars

A plain scalar can stand for nothing, a truth value or a number; its first
character says which are tried. A tag asks for one kind and refuses the others.
Every other scalar is a text.
-/

namespace RankFormula
namespace Yaml

/-- What a scalar stands for. -/
inductive Meaning where
  /-- Nothing. -/
  | null
  /-- A truth value. -/
  | truth (value : Bool)
  /-- A whole number that fits into a signed or an unsigned word. -/
  | whole (value : Int)
  /-- A floating number. -/
  | floating (value : Floating)
  /-- A text. -/
  | text (value : String)

/-- The spellings of the truth values. -/
def boolOf? (text : String) : Option Bool :=
  if ["y", "Y", "yes", "Yes", "YES", "true", "True", "TRUE", "on", "On", "ON"].contains text then
    some true
  else if ["n", "N", "no", "No", "NO", "false", "False", "FALSE", "off", "Off", "OFF"].contains
      text then
    some false
  else none

/-- The floating values that are spelled by a word. -/
def namedFloating? (text : String) : Option Floating :=
  if [".nan", ".NaN", ".NAN"].contains text then some .nan
  else if [".inf", ".Inf", ".INF", "+.inf", "+.Inf", "+.INF"].contains text then
    some (.infinite false)
  else if ["-.inf", "-.Inf", "-.INF"].contains text then some (.infinite true)
  else none

/-- The meaning of a word. -/
def namedMeaning? (text : String) : Option Meaning :=
  if ["", "~", "null", "Null", "NULL"].contains text then some .null
  else
    match boolOf? text, namedFloating? text with
    | some b, _ => some (.truth b)
    | none, some f => some (.floating f)
    | none, none => none

/-- A magnitude in the base its mark chooses; a leading zero alone means base 8. -/
def readMarked (cs : List Char) : Except IntegerFault Nat :=
  match cs with
  | '0' :: c :: rest =>
    match c.toLower with
    | 'x' => readMagnitude 16 rest
    | 'o' => readMagnitude 8 rest
    | 'b' => readMagnitude 2 rest
    | _ => readMagnitude 8 (c :: rest)
  | _ => readMagnitude 10 cs

/-- A sign in front of some characters. -/
def splitSign (cs : List Char) : Option Bool × List Char :=
  match cs with
  | '-' :: rest => (some true, rest)
  | '+' :: rest => (some false, rest)
  | _ => (none, cs)

/-- The floating number of some characters without a sign; none beyond the finite ones. -/
def floatingOf? (negative : Bool) (cs : List Char) : Option Meaning := do
  let decimal ← readFloatText? cs
  let value := { decimal with negative := negative }.toFloating .double
  if value.isFinite then some (.floating value) else none

/-- The number of a text that starts with a digit or a sign. Underscores do not count.
A number without a sign may use the whole unsigned word. -/
def numberOf? (text : String) : Option Meaning :=
  let (sign, digits) := splitSign (text.toList.filter (· != '_'))
  let negative := sign.getD false
  let magnitude := readMarked digits
  match magnitude >>= signedInRange negative, magnitude, sign with
  | .ok n, _, _ => some (.whole n)
  | _, .ok n, none => some (.whole n)
  | _, _, _ => floatingOf? negative digits

/-- Whether every underscore stands between two digits. -/
def separatesDigits : Bool → List Char → Bool
  | _, [] => true
  | afterDigit, '_' :: rest =>
    afterDigit && rest.head?.any isAsciiDigit && separatesDigits false rest
  | _, c :: rest => separatesDigits (isAsciiDigit c) rest

/-- The number of a text that starts with a point. -/
def fractionOf? (text : String) : Option Meaning :=
  if separatesDigits false text.toList then
    floatingOf? false (text.toList.filter (· != '_'))
  else none

/-- The meaning of a plain text, by its first character. -/
def plainMeaning (text : String) : Meaning :=
  match text.toList with
  | [] => .null
  | c :: _ =>
    let found :=
      if "yYnNtTfFoO~".toList.contains c then namedMeaning? text
      else if c = '.' then (namedMeaning? text).or (fractionOf? text)
      else if isAsciiDigit c || c = '+' || c = '-' then (namedMeaning? text).or (numberOf? text)
      else none
    found.getD (.text text)

/-- What all the standard tags start with. -/
def standardTag (name : String) : String := "tag:yaml.org,2002:" ++ name

/-- The text of padded base 64 with the usual alphabet. -/
def binaryText? (text : String) : Option String := do
  let cs := text.toList.filter fun c => c ≠ '\n' && c ≠ '\r'
  let padding := (cs.reverse.takeWhile (· = '=')).length
  let body := cs.take (cs.length - padding)
  let usual := body.all fun c => c ≠ '-' && c ≠ '_'
  let bytes ← base64Decode? (body.map fun c => if c = '+' then '-' else if c = '/' then '_' else c)
  if usual && padding ≤ 2 && cs.length % 4 = 0 then some (String.ofList (utf8Text bytes)) else none

/-- The tag of the meanings of a kind. -/
def Meaning.tag : Meaning → String
  | .null => standardTag "null"
  | .truth _ => standardTag "bool"
  | .whole _ => standardTag "int"
  | .floating _ => standardTag "float"
  | .text _ => standardTag "str"

/-- The meaning of a text that is asked for by a tag; a whole number that fits into a
signed word is a floating one as well. -/
def taggedMeaning? (tag text : String) : Option Meaning :=
  let found := plainMeaning text
  if found.tag = tag then some found
  else
    match found with
    | .whole n =>
      if tag = standardTag "float" && n < signedLimit then some (.floating (.ofInt .double n))
      else none
    | _ => none

/-- What a scalar stands for; none if it is not of the kind its tag names. -/
def Scalar.meaning? (s : Scalar) : Option Meaning :=
  if s.tag.isEmpty then some (if s.isPlain then plainMeaning s.text else .text s.text)
  else if s.tag = standardTag "binary" then (binaryText? s.text).map .text
  else if s.tag = standardTag "timestamp" then
    if isTimestamp s.text then some (.text s.text) else none
  else if ["null", "bool", "int", "float"].any fun name => s.tag = standardTag name then
    taggedMeaning? s.tag s.text
  else some (.text s.text)

/-- Whether a scalar, as a key, takes over the entries of its value. -/
def Scalar.isMerge (s : Scalar) : Bool :=
  s.text = "<<" && ((s.tag.isEmpty && s.isPlain) || s.tag = "!" || s.tag = standardTag "merge")

end Yaml
end RankFormula
