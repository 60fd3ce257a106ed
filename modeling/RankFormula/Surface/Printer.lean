import RankFormula.Numeral.Layout
import RankFormula.Numeral.Shortest
import RankFormula.Surface.Lexer
import RankFormula.Surface.Precedence
import RankFormula.Surface.Term

/-!
# Printing terms

The text of a term, with the brackets its operators need. Parts of an expression
that no formula may contain are shown by this text.
-/

namespace RankFormula
namespace Surface

/-- Floating numbers are written positionally from a ten-thousandth up to six
digits before the point, and with an exponent of two digits otherwise. -/
def floatLayout : NumberLayout := ⟨-4, 6, 2⟩

/-- The text of a floating number. -/
def printFloat (x : Floating) : String :=
  match x.toDecimal? .double with
  | some d => String.ofList (d.write floatLayout)
  | none =>
    match x with
    | .infinite true => "-Inf"
    | .infinite false => "+Inf"
    | _ => "NaN"

/-- A text in round brackets if asked for. -/
def bracketIf (wanted : Bool) (text : String) : String :=
  if wanted then "(" ++ text ++ ")" else text

/-- Whether an operand of an operator needs brackets; on the left also a coalescing
operator does. -/
def needsBrackets (operator : String) (onLeft : Bool) : Term → Bool
  | .binary inner _ _ =>
    decide ((binaryPrecedence? inner).getD 0 < (binaryPrecedence? operator).getD 0) ||
      (onLeft && inner == "??") || (isLogical inner && operator != inner)
  | .conditional _ _ _ => true
  | _ => false

/-- The name that a text is, if it can be written without quotes. -/
def nameOf? (text : RawText) : Option String := text.string?.filter fun s => isName s.toList

/-- The name by which a property can be accessed with a point. -/
def propertyName? : Term → Option String
  | .text s => nameOf? s
  | _ => none

/-- The access to a property: `object` and `property` are printed already. -/
def printMember (object : String) (isPointer whenPresent : Bool) (name? : Option String)
    (property : String) : String :=
  match whenPresent, name? with
  | true, some name => object ++ "?." ++ name
  | true, none => object ++ "?.[" ++ property ++ "]"
  | false, some name => if isPointer then "." ++ name else object ++ "." ++ name
  | false, none => object ++ "[" ++ property ++ "]"

/-- The key of a record: a name, a quoted text, or a term in brackets. -/
def printKey (key : Term) (printed : String) : String :=
  match key with
  | .text s => (nameOf? s).getD printed
  | _ => "(" ++ printed ++ ")"

/-- Texts with commas between them. -/
def commaSeparated (texts : List String) : String := String.intercalate ", " texts

mutual

/-- The text of a term. -/
def Term.print : Term → String
  | .nil => "nil"
  | .integer n => toString n
  | .float x => printFloat x
  | .text s => quotedRaw s
  | .bool true => "true"
  | .bool false => "false"
  | .name s => s
  | .unary operator operand =>
    (if operator == "not" then "not " else operator) ++ bracketIf operand.isBinary operand.print
  | .binary operator left right =>
    if operator == ".." then left.print ++ ".." ++ right.print
    else
      bracketIf (needsBrackets operator true left) left.print ++ " " ++ operator ++ " " ++
        bracketIf (needsBrackets operator false right) right.print
  | .call callee arguments => callee.print ++ "(" ++ commaSeparated (printAll arguments) ++ ")"
  | .builtin name arguments => name ++ "(" ++ commaSeparated (printAll arguments) ++ ")"
  | .member object property whenPresent =>
    let isPointer := match object with
      | .pointer _ => true
      | _ => false
    printMember (bracketIf object.isBinary object.print) isPointer whenPresent
      (propertyName? property) property.print
  | .chain inner => inner.print
  | .slice object first last =>
    object.print ++ "[" ++ printBound first ++ ":" ++ printBound last ++ "]"
  | .closure body => body.print
  | .pointer name => "#" ++ name
  | .conditional condition yes no =>
    bracketIf condition.isConditional condition.print ++ " ? " ++
      bracketIf yes.isConditional yes.print ++ " : " ++ bracketIf no.isConditional no.print
  | .binding name value body => "let " ++ name ++ " = " ++ value.print ++ "; " ++ body.print
  | .array items => "[" ++ commaSeparated (printAll items) ++ "]"
  | .record entries => "\x7b" ++ commaSeparated (printAll entries) ++ "\x7d"
  | .pair key value => printKey key key.print ++ ": " ++ value.print
  | .constant printed => printed

/-- The texts of terms in order. -/
def printAll : List Term → List String
  | [] => []
  | term :: terms => term.print :: printAll terms

/-- The text of a bound of a section. -/
def printBound : Option Term → String
  | none => ""
  | some term => term.print

end
end Surface
end RankFormula
