import RankFormula.Expression.Node
import RankFormula.Numeral.Floating

/-!
# Terms of the expression language

What a text of the expression language says before anything is made of it. The
language is larger than that of formulas; most of its constructs end up as parts
that no formula may contain.

There is no absent term. A construct with a term left out is a fault of the text, so
every place of a term that was read holds one; the bounds of a section are the only
parts that may be left out, and no node is made of them.
-/

namespace RankFormula
namespace Surface

/-- A term of the expression language. -/
inductive Term where
  /-- The word `nil`. -/
  | nil
  /-- A whole number. -/
  | integer (value : Int)
  /-- A number with a point or an exponent. -/
  | float (value : Floating)
  /-- A text. -/
  | text (value : RawText)
  /-- A truth value. -/
  | bool (value : Bool)
  /-- A variable. -/
  | name (value : String)
  /-- An operator in front of a term. -/
  | unary (operator : String) (operand : Term)
  /-- An operator between two terms. -/
  | binary (operator : String) (left right : Term)
  /-- A call of a term. -/
  | call (callee : Term) (arguments : List Term)
  /-- A call of a function of the language. -/
  | builtin (name : String) (arguments : List Term)
  /-- A part of a value, by name or by index. -/
  | member (object property : Term) (whenPresent : Bool)
  /-- A term around accesses that give up where a value is missing. -/
  | chain (inner : Term)
  /-- A section of a list. -/
  | slice (object : Term) (first last : Option Term)
  /-- A term over the elements of a list. -/
  | closure (body : Term)
  /-- The element a closure is about. -/
  | pointer (name : String)
  /-- A choice between two terms. -/
  | conditional (condition yes no : Term)
  /-- A named value in a term. -/
  | binding (name : String) (value body : Term)
  /-- A list. -/
  | array (items : List Term)
  /-- A record, whose entries are pairs of keys and values. -/
  | record (entries : List Term)
  /-- A key with its value. -/
  | pair (key value : Term)
  /-- A value that was computed beforehand. No text is read as one; the value shows only in what
  is made of the term, its printed form, which stands for it here. -/
  | constant (printed : String)
  deriving Repr, Inhabited

/-- Whether the term is an operator between two terms. -/
def Term.isBinary : Term → Bool
  | .binary _ _ _ => true
  | _ => false

/-- Whether the term is a choice. -/
def Term.isConditional : Term → Bool
  | .conditional _ _ _ => true
  | _ => false

end Surface
end RankFormula
