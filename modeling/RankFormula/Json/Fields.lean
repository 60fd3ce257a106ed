import RankFormula.Json.Basic

/-!
# Fields of JSON objects

Requests and tokens carry records as JSON objects. A member belongs to a field if
their names agree up to case; of several such members the later ones win, and
`null` leaves the field as it is. A member of the wrong type makes the whole
object unreadable.
-/

namespace RankFormula
namespace Json

/-- A character up to case: ASCII letters, and the two other letters whose case
forms are among them. -/
def foldCase (c : Char) : Char :=
  if c.toNat = 0x17f then 's' else if c.toNat = 0x212a then 'k' else c.toLower

/-- Whether a member's name is that of a field, which is given in lower case. -/
def namesField (field name : String) : Bool := String.ofList (name.toList.map foldCase) == field

/-- The values of the members that belong to a field, in order. -/
def valuesOf (field : String) (members : List (String × Json)) : List Json :=
  (members.filter fun m => namesField field m.1).map Prod.snd

/-- The value of a field after all its members, each read by `read`; an unreadable
one is an error. -/
def foldField {α : Type} (read : α → Json → Option α) (start : α) (field : String)
    (members : List (String × Json)) : Option α :=
  (valuesOf field members).foldlM read start

/-- A field that is a text. -/
def textField? (field : String) (members : List (String × Json)) : Option String :=
  foldField (fun s json =>
    match json with
    | .null => some s
    | .string t => some t
    | _ => none) "" field members

/-- A field that is a truth value. -/
def boolField? (field : String) (members : List (String × Json)) : Option Bool :=
  foldField (fun b json =>
    match json with
    | .null => some b
    | .bool c => some c
    | _ => none) false field members

/-- The members of an object; `null` is an object without members. -/
def members? : Json → Option (List (String × Json))
  | .null => some []
  | .object members => some members
  | _ => none

end Json
end RankFormula
