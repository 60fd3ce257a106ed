import RankFormula.Text.Quoted

/-!
# Tokens of the expression language

A token remembers its kind, its text and the code point at which it starts. The
last token of every text is the end itself.
-/

namespace RankFormula
namespace Surface

/-- What a token is. -/
inductive TokenKind where
  /-- A name. -/
  | identifier
  /-- A number as written. -/
  | number
  /-- A text, its escapes resolved. -/
  | string
  /-- An operator, some of which are words. -/
  | operator
  /-- One of the six brackets. -/
  | bracket
  /-- The end of the text. -/
  | eof
  deriving DecidableEq, Repr, Inhabited

/-- The name of a kind in messages. -/
def TokenKind.label : TokenKind → String
  | .identifier => "Identifier"
  | .number => "Number"
  | .string => "String"
  | .operator => "Operator"
  | .bracket => "Bracket"
  | .eof => "EOF"

/-- A token of the expression language. -/
structure Token where
  /-- What the token is. -/
  kind : TokenKind
  /-- Its text. -/
  text : RawText
  /-- The code point at which it starts. -/
  position : Nat
  deriving DecidableEq, Repr, Inhabited

namespace Token

/-- The text of the token as a string; only that of a text can hold stray bytes. -/
def value (token : Token) : String := token.text.toString

/-- Whether the token is of a kind and has a text. -/
def is (token : Token) (kind : TokenKind) (value : String) : Bool :=
  token.kind == kind && token.value == value

/-- Whether the token is the given operator. -/
def isOperator (token : Token) (value : String) : Bool := token.is .operator value

/-- Whether the token is the given bracket. -/
def isBracket (token : Token) (value : String) : Bool := token.is .bracket value

/-- The token as messages show it. -/
def describe (token : Token) : String :=
  if token.text.isEmpty then token.kind.label
  else token.kind.label ++ "(" ++ quotedRaw token.text ++ ")"

end Token
end Surface
end RankFormula
