import RankFormula.Expression.Parsing
import RankFormula.Expression.Vocabulary

/-!
# Plain terms and how they are written

The terms of which ranking formulas consist: numbers, variables, the four operators, and calls.
A plain term is written as pieces, one for each token. Brackets stand where an operand binds less
tightly than its place requires, and wherever else they are wanted; the pieces are then laid out
with any white space around them. What such a text says is `PlainTerm.toNode`, whatever the
brackets and the white space.
-/

namespace RankFormula

/-- How tightly an operator binds. -/
def ArithmeticOperator.precedence : ArithmeticOperator → Nat
  | .add | .subtract => 30
  | .multiply | .divide => 60

namespace Surface

/-- Whether a character may stand in a simple name. -/
def isSimpleChar (c : Char) : Bool := c.isAlphanum || c = '_'

/-- A name of ASCII letters, digits and underscores that means nothing to the language. -/
structure SimpleName where
  /-- The name. -/
  text : String
  /-- It is not empty. -/
  nonempty : text ≠ ""
  /-- It does not start with a digit. -/
  noDigitFirst : ∀ c ∈ text.toList.head?, c.isDigit = false
  /-- All its characters are simple. -/
  simple : ∀ c ∈ text.toList, isSimpleChar c = true
  /-- It is no operator. -/
  noOperator : text ∉ wordOperators
  /-- It is no constant. -/
  noConstant : text ∉ ["true", "false", "nil"]
  /-- It is no function that takes closures. -/
  noPredicate : predicateParameters? text = none

/-- A term of a ranking formula. -/
inductive PlainTerm where
  /-- A number, up to the greatest signed word. -/
  | number (value : Fin signedLimit)
  /-- A variable. -/
  | named (name : SimpleName)
  /-- An operator between two terms. -/
  | operation (operator : ArithmeticOperator) (left right : PlainTerm)
  /-- A call of a function with its arguments in order. -/
  | call (name : SimpleName) (arguments : List PlainTerm)

/-- A piece of text that is one token. -/
inductive Piece where
  /-- A number in decimal digits. -/
  | number (value : Nat)
  /-- A name. -/
  | word (name : SimpleName)
  /-- An operator. -/
  | operator (op : ArithmeticOperator)
  /-- A comma. -/
  | comma
  /-- An opening bracket. -/
  | opening
  /-- A closing bracket. -/
  | closing

namespace Piece

/-- The characters of a piece. -/
def text : Piece → List Char
  | .number value => decimalDigits value
  | .word name => name.text.toList
  | .operator op => op.symbol.toList
  | .comma => [',']
  | .opening => ['(']
  | .closing => [')']

/-- The kind of the token that a piece is. -/
def kind : Piece → TokenKind
  | .number _ => .number
  | .word _ => .identifier
  | .operator _ => .operator
  | .comma => .operator
  | .opening => .bracket
  | .closing => .bracket

end Piece

/-- White space that separates pieces. -/
inductive Blank where
  /-- A space. -/
  | space
  /-- A tab. -/
  | tab
  /-- The end of a line. -/
  | newline

/-- The character of white space. -/
def Blank.char : Blank → Char
  | .space => ' '
  | .tab => '\t'
  | .newline => '\n'

/-- The text of pieces with white space around them: the gap before each piece is given by the
number of the piece, and the last one stands at the end. -/
def layout (gaps : Nat → List Blank) : Nat → List Piece → List Char
  | i, [] => (gaps i).map Blank.char
  | i, piece :: pieces => (gaps i).map Blank.char ++ (piece.text ++ layout gaps (i + 1) pieces)

/-- Pieces, in brackets if they are wanted. -/
def bracketed (wanted : Bool) (pieces : List Piece) : List Piece :=
  if wanted then .opening :: (pieces ++ [.closing]) else pieces

namespace PlainTerm

mutual

/-- The expression that a plain term is. -/
def toNode : PlainTerm → Node
  | .number value => .literal (.number (.doubleOfInt value.val))
  | .named name => .identifier name.text
  | .operation operator left right => .binary operator.symbol left.toNode right.toNode
  | .call name arguments => .call (.identifier name.text) (nodesOf arguments)

/-- The expressions that plain terms are, in order. -/
def nodesOf : List PlainTerm → List Node
  | [] => []
  | term :: terms => term.toNode :: nodesOf terms

end

/-- Induction over plain terms: the claim for a call may use the claim for each argument. -/
@[elab_as_elim, induction_eliminator]
theorem inductArguments {motive : PlainTerm → Prop} (number : ∀ value, motive (.number value))
    (named : ∀ name, motive (.named name))
    (operation : ∀ operator left right, motive left → motive right →
      motive (.operation operator left right))
    (call : ∀ name arguments, (∀ argument ∈ arguments, motive argument) →
      motive (.call name arguments)) : ∀ term, motive term
  | .number value => number value
  | .named name => named name
  | .operation operator left right =>
    operation operator left right (inductArguments number named operation call left)
      (inductArguments number named operation call right)
  | .call name arguments =>
    call name arguments
      (fun argument _ => inductArguments number named operation call argument)

/-- Whether a term needs brackets where operators must bind at least as tightly as required. -/
def needsBrackets (required : Nat) : PlainTerm → Bool
  | .operation operator _ _ => operator.precedence < required
  | _ => false

mutual

/-- The pieces of a term, without brackets around it; `wanted` says which terms stand in brackets
that need none. Operators group from the left, so the right side has to bind more tightly. -/
def barePieces (wanted : PlainTerm → Bool) : PlainTerm → List Piece
  | .number value => [.number value]
  | .named name => [.word name]
  | .operation operator left right =>
    bracketed (wanted left || left.needsBrackets operator.precedence) (barePieces wanted left) ++
      .operator operator ::
        bracketed (wanted right || right.needsBrackets (operator.precedence + 1))
          (barePieces wanted right)
  | .call name arguments =>
    .word name :: .opening :: ([.comma].intercalate (argumentPieces wanted arguments) ++ [.closing])

/-- The pieces of each argument. -/
def argumentPieces (wanted : PlainTerm → Bool) : List PlainTerm → List (List Piece)
  | [] => []
  | term :: terms =>
    bracketed (wanted term) (barePieces wanted term) :: argumentPieces wanted terms

end

/-- The pieces of a term where operators must bind at least as tightly as required. -/
def pieces (wanted : PlainTerm → Bool) (required : Nat) (term : PlainTerm) : List Piece :=
  bracketed (wanted term || term.needsBrackets required) (term.barePieces wanted)

/-- No term needs brackets where nothing is required. -/
theorem needsBrackets_zero (term : PlainTerm) : term.needsBrackets 0 = false := by
  cases term <;> rfl

/-- The arguments of a call are written one by one, each as a term on its own. -/
theorem argumentPieces_eq_map (wanted : PlainTerm → Bool) (terms : List PlainTerm) :
    argumentPieces wanted terms = terms.map (pieces wanted 0) := by
  induction terms with
  | nil => rfl
  | cons term terms ih =>
    rw [argumentPieces, ih, List.map_cons, pieces, needsBrackets_zero, Bool.or_false]

/-- The text of a term, with brackets where they are wanted or needed and white space in the gaps.
If none are wanted there are only those that precedence and grouping require. -/
def render (wanted : PlainTerm → Bool) (gaps : Nat → List Blank) (term : PlainTerm) : String :=
  String.ofList (layout gaps 0 (term.pieces wanted 0))

end PlainTerm
end Surface
end RankFormula
