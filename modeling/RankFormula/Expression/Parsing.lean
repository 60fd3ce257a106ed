import RankFormula.Surface.Conversion
import RankFormula.Surface.Parser

/-!
# Expressions from text

`Node.parse` reads the node of an expression from its text. A text of white space
only is refused as empty; every other refusal carries the fault of the text.
-/

namespace RankFormula

/-- Why a text is no expression. -/
inductive ParseFault where
  /-- There is nothing but white space. -/
  | empty (source : RawText)
  /-- The text has a fault. -/
  | malformed (source : RawText) (fault : Surface.LocatedFault)
  deriving DecidableEq, Repr

/-- The words of a refusal, the text in quotes. -/
def ParseFault.message : ParseFault → String
  | .empty source => "could not parse expression " ++ quotedRaw source ++ ": expression is empty"
  | .malformed source fault =>
    "could not parse expression " ++ quotedRaw source ++ ": " ++ fault.message source.chars

/-- The expression node of a text, stray bytes replaced. -/
def Node.parse (source : RawText) : Except ParseFault Node :=
  if (trimBlanks source.chars).isEmpty then .error (.empty source)
  else
    match Surface.parseText source.chars with
    | .ok term => .ok term.toNode
    | .error fault => .error (.malformed source fault)

end RankFormula
