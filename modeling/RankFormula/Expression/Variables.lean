import RankFormula.Expression.Node

/-!
# Variables of expressions

The variables an expression reads, in the order of its text. Callees and the
parts of nodes no formula may contain are not read.
-/

namespace RankFormula

/-- The first occurrences of the names of a list that are not among `seen`. -/
def firstOccurrencesAfter (seen : List String) : List String → List String
  | [] => []
  | name :: names =>
    if seen.contains name then firstOccurrencesAfter seen names
    else name :: firstOccurrencesAfter (name :: seen) names

/-- The names of a list without their later repetitions. -/
def firstOccurrences (names : List String) : List String := firstOccurrencesAfter [] names

namespace Node

mutual

/-- The variables of an expression, repetitions included. -/
def variableNames : Node → List String
  | .identifier name => [name]
  | .binary _ left right => variableNames left ++ variableNames right
  | .call _ arguments => variableNamesOfAll arguments
  | _ => []

/-- The variables of expressions in order. -/
def variableNamesOfAll : List Node → List String
  | [] => []
  | node :: nodes => variableNames node ++ variableNamesOfAll nodes

end

/-- The variables of an expression, each once. -/
def uniqueVariables (node : Node) : List String := firstOccurrences node.variableNames

end Node
end RankFormula
