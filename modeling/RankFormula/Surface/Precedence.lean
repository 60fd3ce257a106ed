/-!
# Precedence of operators

How tightly the operators of the expression language bind. A higher number binds
more tightly; powers group from the right, everything else from the left.
-/

namespace RankFormula
namespace Surface

/-- The precedence of an operator between two terms. -/
def binaryPrecedence? : String → Option Nat
  | "|" => some 0
  | "or" | "||" => some 10
  | "and" | "&&" => some 15
  | "==" | "!=" | "<" | ">" | ">=" | "<=" => some 20
  | "in" | "matches" | "contains" | "startsWith" | "endsWith" => some 20
  | ".." => some 25
  | "+" | "-" => some 30
  | "*" | "/" | "%" => some 60
  | "**" | "^" => some 100
  | "??" => some 500
  | _ => none

/-- The precedence of an operator in front of a term. -/
def unaryPrecedence? : String → Option Nat
  | "not" | "!" => some 50
  | "-" | "+" => some 90
  | _ => none

/-- Whether an operator groups from the right. -/
def groupsRight (operator : String) : Bool := operator == "**" || operator == "^"

/-- Whether an operator compares by order; such operators chain. -/
def isOrdering (operator : String) : Bool := ["<", ">", ">=", "<="].contains operator

/-- Whether an operator joins truth values. -/
def isLogical (operator : String) : Bool := ["and", "or", "&&", "||"].contains operator

/-- The words that may follow `not` between two terms. -/
def isNegatable (word : String) : Bool :=
  ["in", "matches", "contains", "startsWith", "endsWith"].contains word

/-- What a parameter of a predicate takes. -/
inductive ParameterKind where
  /-- A term. -/
  | term
  /-- A term over the elements of a list. -/
  | closure
  deriving DecidableEq, Repr

/-- A parameter of a predicate. -/
structure Parameter where
  /-- What it takes. -/
  kind : ParameterKind
  /-- Whether a call may end before it. -/
  isOptional : Bool

/-- The parameters of the functions that take closures. -/
def predicateParameters? : String → Option (List Parameter)
  | "all" | "none" | "any" | "one" | "filter" | "map" | "find" | "findIndex" | "findLast"
  | "findLastIndex" | "groupBy" => some [⟨.term, false⟩, ⟨.closure, false⟩]
  | "count" | "sum" => some [⟨.term, false⟩, ⟨.closure, true⟩]
  | "sortBy" | "reduce" => some [⟨.term, false⟩, ⟨.closure, false⟩, ⟨.term, true⟩]
  | _ => none

end Surface
end RankFormula
