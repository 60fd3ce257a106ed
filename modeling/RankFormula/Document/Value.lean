import RankFormula.Json.Writer
import RankFormula.Numeral.Shortest
import RankFormula.Time.Timestamp

/-!
# Document values

The values of the document store: what a formula's literals hold, what filters,
pipelines and commands are made of, and what the store answers. An `object` is a
document whose order of fields carries no meaning; a `document` is one whose
order does, and may repeat a field.
-/

namespace RankFormula

/-- A number as the store keeps it. -/
inductive Number where
  /-- A whole number of any width. -/
  | integer (value : Int)
  /-- A floating number of 32 bits. -/
  | single (value : Floating)
  /-- A floating number of 64 bits. -/
  | double (value : Floating)
  deriving DecidableEq, Repr

/-- The decimal a number is written as; `none` for a value that is not finite. -/
def Number.toDecimal? : Number → Option Decimal
  | .integer n => some (.ofInt n)
  | .single x => x.toDecimal? .single
  | .double x => x.toDecimal? .double

/-- A whole number as a 64-bit floating one. -/
def Number.doubleOfInt (n : Int) : Number := .double (.ofInt .double n)

/-- A value of the document store. -/
inductive Value where
  /-- No value. -/
  | null
  /-- A truth value. -/
  | bool (value : Bool)
  /-- A number. -/
  | number (value : Number)
  /-- A text. -/
  | string (value : String)
  /-- A text with stray bytes. -/
  | malformed (value : RawText)
  /-- A moment in time. -/
  | date (value : Instant)
  /-- The identifier of a document, as hexadecimal digits. -/
  | objectId (hex : String)
  /-- A list of values. -/
  | list (items : List Value)
  /-- Named values whose order carries no meaning. -/
  | object (fields : List (String × Value))
  /-- Named values in a meaningful order. -/
  | document (fields : List (String × Value))
  deriving Repr, Inhabited

/-- Inserts a named entry before the first one with a greater name. -/
def insertByName {α : Type} (entry : String × α) : List (String × α) → List (String × α)
  | [] => [entry]
  | other :: rest =>
    if other.1 ≤ entry.1 then other :: insertByName entry rest else entry :: other :: rest

/-- Named entries in the order of their names; equal names keep their order. -/
def sortByName {α : Type} (entries : List (String × α)) : List (String × α) :=
  entries.foldl (fun sorted entry => insertByName entry sorted) []

/-- Sets a field of a document: in place if it is there, at the end otherwise. -/
def setField {α : Type} (name : String) (value : α) : List (String × α) → List (String × α)
  | [] => [(name, value)]
  | (other, old) :: rest =>
    if other = name then (other, value) :: rest else (other, old) :: setField name value rest

/-- The value of a field. -/
def getField? {α : Type} (name : String) (fields : List (String × α)) : Option α :=
  (fields.find? fun f => f.1 == name).map Prod.snd

namespace Value

/-- A text from outside as a value. -/
def ofRaw (text : RawText) : Value :=
  match text.string? with
  | some s => .string s
  | none => .malformed text

/-- A string is its own value. -/
@[simp] theorem ofRaw_ofString (s : String) : ofRaw (.ofString s) = .string s := by simp [ofRaw]

/-- A whole number as a value. -/
def int (n : Int) : Value := .number (.integer n)

/-- Whether the value is a number of any kind. -/
def isNumber : Value → Bool
  | .number _ => true
  | _ => false

mutual

/-- The JSON form of a value: dates as timestamps, identifiers as digits, fields
of unordered objects by name. A number that is not finite has none, and neither has a
date with a year that no timestamp can hold. -/
def toJson? : Value → Option Json
  | .null => some .null
  | .bool b => some (.bool b)
  | .number n => n.toDecimal?.map .number
  | .string s => some (.string s)
  | .malformed text => some (.malformed text)
  | .date t => if t.hasTimestamp then some (.string t.write) else none
  | .objectId hex => some (.string hex)
  | .list items => (itemsToJson? items).map .array
  | .object fields => (fieldsToJson? fields).map fun members => .object (sortByName members)
  | .document fields => (fieldsToJson? fields).map .object

/-- The JSON forms of the items of a list. -/
def itemsToJson? : List Value → Option (List Json)
  | [] => some []
  | item :: items => do
    let head ← toJson? item
    let tail ← itemsToJson? items
    some (head :: tail)

/-- The JSON forms of the fields of a document. -/
def fieldsToJson? : List (String × Value) → Option (List (String × Json))
  | [] => some []
  | (name, value) :: fields => do
    let head ← toJson? value
    let tail ← fieldsToJson? fields
    some ((name, head) :: tail)

end

mutual

/-- The value of a JSON text: numbers become 64-bit floating ones and must fit,
a repeated member replaces the earlier one. -/
def ofJson? : Json → Option Value
  | .null => some .null
  | .bool b => some (.bool b)
  | .number d =>
    let x := d.toFloating .double
    if x.isFinite then some (.number (.double x)) else none
  | .string s => some (.string s)
  | .malformed text => some (.malformed text)
  | .array items => (itemsOfJson? items).map .list
  | .object members => (fieldsOfJson? members).map fun fields =>
      .object (fields.foldl (fun kept f => setField f.1 f.2 kept) [])

/-- The values of a list of JSON values. -/
def itemsOfJson? : List Json → Option (List Value)
  | [] => some []
  | item :: items => do
    let head ← ofJson? item
    let tail ← itemsOfJson? items
    some (head :: tail)

/-- The values of the members of a JSON object. -/
def fieldsOfJson? : List (String × Json) → Option (List (String × Value))
  | [] => some []
  | (name, value) :: members => do
    let head ← ofJson? value
    let tail ← fieldsOfJson? members
    some ((name, head) :: tail)

end

/-- The value of a field of a document of either kind. -/
def field? (name : String) : Value → Option Value
  | .object fields => getField? name fields
  | .document fields => getField? name fields
  | _ => none

end Value
end RankFormula
