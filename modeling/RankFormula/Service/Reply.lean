import RankFormula.Service.Command
import RankFormula.Store.Call
import RankFormula.Text.Hex
import RankFormula.Text.Utf8

/-!
# Replies of the document store

Reading what the server answers: whether it did what it was told, and the formula
in a document. A field of a formula that is missing or null keeps its zero value, an
unknown field is ignored, and a field of the wrong type makes the whole document
unreadable.
-/

namespace RankFormula

/-- Whether a number differs from zero. -/
def Number.isNonzero : Number → Bool
  | .integer n => n != 0
  | .single (.finite _ significand _) => significand != 0
  | .double (.finite _ significand _) => significand != 0
  | _ => true

namespace Value

/-- The whole part of a number. -/
def wholePart? : Value → Option Int
  | .number (.integer n) => some n
  | .number (.single x) => x.truncate?
  | .number (.double x) => x.truncate?
  | _ => none

/-- The text of a string. -/
def text? : Value → Option String
  | .string s => some s
  | _ => none

/-- The items of a list. -/
def items? : Value → Option (List Value)
  | .list items => some items
  | _ => none

/-- The fields of a document of either kind. -/
def fields? : Value → Option (List (String × Value))
  | .object fields => some fields
  | .document fields => some fields
  | _ => none

/-- A whole number. -/
def integer? : Value → Option Int
  | .number (.integer n) => some n
  | _ => none

/-- Whether the value is a document of either kind. -/
def isDocument (value : Value) : Bool := value.fields?.isSome

/-- Whether the value confirms a command. -/
def isConfirmation : Value → Bool
  | .number n => n == .integer 1 || n == .doubleOfInt 1
  | .bool b => b
  | _ => false

end Value

/-- Whether the server did what it was told. -/
def replyConfirms (reply : Value) : Bool := (reply.field? "ok").any Value.isConfirmation

/-- The words of a reply that refuses a command. -/
def refusalMessage (reply : Value) : String :=
  let message := (reply.field? "errmsg" >>= Value.text?).getD ""
  let message := if message.isEmpty then "command failed" else message
  match reply.field? "codeName" >>= Value.text? with
  | some name => if name.isEmpty then message else "(" ++ name ++ ") " ++ message
  | none => message

/-- Whether a reply reports that a write went wrong. -/
def reportsFailedWrite (reply : Value) : Bool :=
  (reply.field? "writeErrors" >>= Value.items?).any (·.any Value.isDocument) ||
    (reply.field? "writeConcernError").any Value.isDocument

/-- A reply that is no refusal. -/
def confirmed (reply : Value) : Except StoreFault Value :=
  if !replyConfirms reply then .error (.refused (refusalMessage reply))
  else if reportsFailedWrite reply then .error .unreadable
  else .ok reply

/-- The code of a refusal. -/
def refusalCode? (reply : Value) : Option Int :=
  if replyConfirms reply then none else reply.field? "code" >>= Value.integer?

/-- The code of a refusal because a collection is not there. -/
def missingCollectionCode : Int := 26

/-- Whether a reply refuses a command because the collection is not there, by its
code or in these very words. -/
def refusesMissingCollection (reply : Value) : Bool :=
  refusalCode? reply == some missingCollectionCode ||
    (!replyConfirms reply && (reply.field? "errmsg" >>= Value.text?) == some "ns not found")

/-- The codes of refusals that pass: a host that is unreachable, slow, shutting down
or no longer in charge. -/
def passingCodes : List Int :=
  [6, 7, 89, 91, 189, 262, 9001, 10107, 11600, 11602, 13435, 13436]

/-- Whether a reply refuses a command for a reason that may have passed already. -/
def refusesForNow (reply : Value) : Bool := (refusalCode? reply).any passingCodes.contains

/-- Unpacks a part of a reply that must be there. -/
def readable {α : Type} : Option α → Except StoreFault α
  | some a => .ok a
  | none => .error .unreadable

namespace StoredFormula

/-- A text field. -/
def textOf? : Value → Option String
  | .null => some ""
  | .string s => some s
  | .objectId hex => some hex
  | _ => none

/-- A truth field; a number is true unless it is zero. -/
def boolOf? : Value → Option Bool
  | .null => some false
  | .bool b => some b
  | .number n => some n.isNonzero
  | _ => none

/-- A time field; a number too large for 32 bits counts milliseconds. -/
def timeOf? : Value → Option ZonedTime
  | .null => some .zero
  | .date t => some (.utc t)
  | .string s => (Instant.read? s).map .utc
  | .number (.integer n) =>
    let limit : Int := signedHalfLimit
    if -limit ≤ n ∧ n < limit then none else some (.utc (.ofUnixMillis n))
  | _ => none

/-- An identifier: also as its digits, or as a text of its twelve bytes. -/
def idOf? : Value → Option String
  | .null => some zeroId
  | .objectId hex => some hex
  | .string s =>
    let bytes := utf8Bytes s.toList
    if s.length = 24 ∧ s.toList.all isHexDigit then some (String.ofList (s.toList.map Char.toLower))
    else if bytes.length = 12 then
      some (String.ofList (bytes.flatMap fun b => lowerHex 2 b.toNat))
    else none
  | _ => none

/-- A field that lists texts. -/
def textsOf? : Value → Option (Option (List String))
  | .null => some none
  | .list items => (items.mapM textOf?).map some
  | _ => none

/-- A formula with one more field of a document read. Names without capital letters
are recognised in any case. -/
def withField (formula : StoredFormula) (name : String) (value : Value) : Option StoredFormula :=
  match name with
  | "lastError" => (textOf? value).map fun s => { formula with lastError := s }
  | "createdBy" => (textOf? value).map fun s => { formula with createdBy := s }
  | "createdAt" => (timeOf? value).map fun t => { formula with createdAt := t }
  | "updatedAt" => (timeOf? value).map fun t => { formula with updatedAt := t }
  | "checkedAt" => (timeOf? value).map fun t => { formula with checkedAt := t }
  | _ =>
    match String.ofList (name.toList.map Char.toLower) with
    | "_id" => (idOf? value).map fun s => { formula with id := s }
    | "key" => (textOf? value).map fun s => { formula with key := s }
    | "expression" => (textOf? value).map fun s => { formula with expression := s }
    | "description" => (textOf? value).map fun s => { formula with description := s }
    | "variables" => (textsOf? value).map fun names => { formula with variableNames := names }
    | "valid" => (boolOf? value).map fun b => { formula with valid := b }
    | _ => some formula

/-- The formula in a document. -/
def ofValue? (document : Value) : Option StoredFormula := do
  let fields ← document.fields?
  fields.foldlM (fun formula field => formula.withField field.1 field.2) blank

end StoredFormula
end RankFormula
