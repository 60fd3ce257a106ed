import RankFormula.Numeral.Decimal
import RankFormula.Text.RawText

/-!
# JSON values

Numbers are kept as the decimals that were written, and the members of an object
in the order in which they were written, repetitions included. What a number or
a repeated member means is for the reader of the value to decide.
-/

namespace RankFormula

/-- A JSON value. -/
inductive Json where
  /-- The value `null`. -/
  | null
  /-- A truth value. -/
  | bool (value : Bool)
  /-- A number, exactly as written. -/
  | number (value : Decimal)
  /-- A text. -/
  | string (value : String)
  /-- A text with stray bytes. No text that is read holds any. -/
  | malformed (value : RawText)
  /-- A list of values. -/
  | array (items : List Json)
  /-- Named values in the order written. -/
  | object (members : List (String × Json))
  deriving Repr, Inhabited

namespace Json

/-- A text from outside. -/
def ofRaw (text : RawText) : Json :=
  match text.string? with
  | some s => .string s
  | none => .malformed text

/-- An integer as a JSON number. -/
def int (n : Int) : Json := .number (.ofInt n)

/-- The last member of an object with the given name. -/
def member? (name : String) : Json → Option Json
  | .object members => (members.reverse.find? fun m => m.1 == name).map Prod.snd
  | _ => none

/-- Whether the value is `null`. -/
def isNull : Json → Bool
  | .null => true
  | _ => false

mutual

/-- How deep lists and objects are nested in a value. -/
def depth : Json → Nat
  | .array items => itemsDepth items + 1
  | .object members => membersDepth members + 1
  | _ => 0

/-- How deep lists and objects are nested in the items of a list. -/
def itemsDepth : List Json → Nat
  | [] => 0
  | item :: items => max (depth item) (itemsDepth items)

/-- How deep lists and objects are nested in the members of an object. -/
def membersDepth : List (String × Json) → Nat
  | [] => 0
  | (_, value) :: members => max (depth value) (membersDepth members)

end

/-- The deepest nesting of lists and objects that a text may have. -/
def nestingLimit : Nat := 10000

end Json
end RankFormula
