/-!
# The vocabulary of formulas

The operators and functions a formula may use. Each operator has the symbol by
which expressions write it and the name by which the document store knows it;
each function has a fixed number of arguments.
-/

namespace RankFormula

/-- An operator between two numbers. -/
inductive ArithmeticOperator where
  /-- The sum. -/
  | add
  /-- The difference. -/
  | subtract
  /-- The product. -/
  | multiply
  /-- The quotient. -/
  | divide
  deriving DecidableEq, Repr

namespace ArithmeticOperator

/-- The symbol in expressions. -/
def symbol : ArithmeticOperator → String
  | .add => "+"
  | .subtract => "-"
  | .multiply => "*"
  | .divide => "/"

/-- The operator's name in operator trees. -/
def treeName : ArithmeticOperator → String
  | .add => "$add"
  | .subtract => "$subtract"
  | .multiply => "$multiply"
  | .divide => "$divide"

/-- All operators, in the order of their symbols. -/
def all : List ArithmeticOperator := [.multiply, .add, .subtract, .divide]

/-- The operator with a symbol. -/
def ofSymbol? (s : String) : Option ArithmeticOperator := all.find? fun op => op.symbol == s

end ArithmeticOperator

/-- The exponential function's name in operator trees. -/
def expTreeName : String := "$exp"

/-- A function that formulas may call. -/
inductive FormulaFunction where
  /-- The exponential of the first argument; the second one is not used. -/
  | exp
  /-- Exponential decay of a value by a rate over a time. -/
  | expDecay
  /-- The logistic function, which operator trees cannot express yet. -/
  | sigmoid
  deriving DecidableEq, Repr

namespace FormulaFunction

/-- The name in expressions. -/
def name : FormulaFunction → String
  | .exp => "exp"
  | .expDecay => "exp_decay"
  | .sigmoid => "sigmoid"

/-- The number of arguments of a call. -/
def arity : FormulaFunction → Nat
  | .exp => 2
  | .expDecay => 3
  | .sigmoid => 3

/-- All functions, in the order of their names. -/
def all : List FormulaFunction := [.exp, .expDecay, .sigmoid]

/-- The function with a name. -/
def ofName? (s : String) : Option FormulaFunction := all.find? fun f => f.name == s

end FormulaFunction
end RankFormula
