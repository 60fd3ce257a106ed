import RankFormula.Text.RawText
import RankFormula.Text.UpperCase

/-!
# Environment variables

Secrets come from the environment. The variable that holds a client's key is named
after the client: in upper case, with an underscore in place of all that is neither
letter nor digit, and without underscores at the ends.
-/

namespace RankFormula

/-- Whether a character may stand in the name of a variable, underscores aside. -/
def isVariableChar (c : Char) : Bool := c.isUpper || c.isDigit

/-- A text with one mark in place of each run of characters that are not kept, where a
run goes on for as long as it can. -/
def replaceRuns (kept : Char → Bool) (mark : Char) : List Char → List Char
  | [] => []
  | c :: cs =>
    if kept c then c :: replaceRuns kept mark cs
    else mark :: replaceRuns kept mark (cs.dropWhile fun d => !kept d)
termination_by cs => cs.length
decreasing_by
  · exact Nat.lt_succ_self _
  · exact Nat.lt_succ_of_le (List.dropWhile_suffix _).length_le

/-- A text without the marks at its two ends. -/
def trimMarks (mark : Char) (cs : List Char) : List Char :=
  ((cs.dropWhile (· == mark)).reverse.dropWhile (· == mark)).reverse

/-- The name of the environment variable for a text. -/
def environmentName (text : RawText) : String :=
  String.ofList (trimMarks '_' (replaceRuns isVariableChar '_' (text.chars.map upperCase)))

/-- The name of the variable that holds the key of an API client. -/
def clientKeyVariable (clientName : RawText) : String :=
  "API_CLIENT_KEY_FOR_" ++ environmentName clientName

/-- The variables of the environment with their values. -/
abbrev Environment := List (String × String)

/-- The value of a variable. -/
def Environment.value? (environment : Environment) (name : String) : Option String :=
  (environment.find? fun entry => entry.1 == name).map Prod.snd

/-- The value of a setting under a variable of the environment: the variable's value
unless it is unset or empty. -/
def overrideFrom (environment : Option String) (setting : String) : String :=
  match environment with
  | some value => if value.isEmpty then setting else value
  | none => setting

/-- A setting that a variable of the environment may replace. -/
def Environment.override (environment : Environment) (name setting : String) : String :=
  overrideFrom (environment.value? name) setting

end RankFormula
