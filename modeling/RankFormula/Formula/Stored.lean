import RankFormula.Formula.Basic

/-!
# Stored formulas

A formula under a key, as an instance keeps it, with what the last check of its
expression found. A key goes into URLs and into the names of databases, so only a
few characters may stand in it. `needsRecheck` and `checkStored` are the two
decisions of a check.
-/

namespace RankFormula

/-- The largest length of a key. -/
def maxKeyLength : Nat := 64

/-- Whether a character may stand in a key. -/
def isKeyChar (c : Char) : Bool := c.isAlphanum || c = '-' || c = '_'

/-- Whether a text can be a key. All characters of a key are single bytes. -/
def isKey (value : String) : Bool :=
  !value.isEmpty && decide (value.utf8ByteSize ≤ maxKeyLength) && value.toList.all isKeyChar

/-- A named ranking expression. -/
structure StoredFormula where
  /-- The identifier, as 24 hexadecimal digits. -/
  id : String
  /-- The name, unique within an instance. -/
  key : String
  /-- The text of the expression. -/
  expression : String
  /-- Free text. -/
  description : String
  /-- The variables of the expression, if they were recorded. -/
  variableNames : Option (List String)
  /-- Whether the last check found the expression valid. -/
  valid : Bool
  /-- What the last check found wrong. -/
  lastError : String
  /-- Who saved the formula last: every save overwrites the one before. -/
  createdBy : String
  /-- When it was saved first. -/
  createdAt : ZonedTime
  /-- When it was saved last. -/
  updatedAt : ZonedTime
  /-- When it was checked last. -/
  checkedAt : ZonedTime
  deriving DecidableEq, Repr

/-- The identifier of a formula that was never stored. -/
def zeroId : String := "000000000000000000000000"

namespace StoredFormula

/-- A formula of which nothing is known. -/
def blank : StoredFormula :=
  ⟨zeroId, "", "", "", none, false, "", "", .zero, .zero, .zero⟩

/-- A text member that is left out when it is empty. -/
def optionalText (name text : String) : List (String × Json) :=
  if text.isEmpty then [] else [(name, .string text)]

/-- The JSON form of a stored formula. -/
def toJson (f : StoredFormula) : Json :=
  .object <|
    [("id", .string f.id), ("key", .string f.key), ("expression", .string f.expression)] ++
      optionalText "description" f.description ++
      [("variables",
          match f.variableNames with
          | none => .null
          | some names => .array (names.map .string)),
        ("valid", .bool f.valid)] ++
      optionalText "lastError" f.lastError ++ optionalText "createdBy" f.createdBy ++
      [("createdAt", .string f.createdAt.write), ("updatedAt", .string f.updatedAt.write),
        ("checkedAt", .string f.checkedAt.write)]

end StoredFormula

/-- The outcome of a check: whether the expression is valid, and what is wrong with it. -/
structure CheckResult where
  /-- Whether the expression is valid. -/
  valid : Bool
  /-- What is wrong with it; empty if nothing is. -/
  lastError : String
  deriving DecidableEq, Repr

/-- Checks the text of a stored expression under the current whitelist. -/
def checkStored (whitelist : Whitelist) (expression : String) : CheckResult :=
  match Formula.ofText whitelist expression with
  | .ok _ => ⟨true, ""⟩
  | .error error => ⟨false, error.message⟩

/-- An integer moved into the signed 64-bit range. -/
def saturate64 (n : Int) : Int :=
  let limit : Int := signedLimit
  max (-limit) (min n (limit - 1))

/-- The nanoseconds from one instant to another, within the signed 64-bit range. -/
def Instant.since (now before : Instant) : Int := saturate64 (now.nanoseconds - before.nanoseconds)

/-- Whether a check is due: always if no time is to pass between checks or there
never was one, and otherwise once the time has passed. -/
def needsRecheck (checkedAt now : Instant) (recheckAfter : Int) : Bool :=
  if recheckAfter ≤ 0 || checkedAt.isZero then true
  else decide (recheckAfter ≤ now.since checkedAt)

end RankFormula
