import RankFormula.Json.Fields
import RankFormula.Json.Reader
import RankFormula.Json.Writer
import RankFormula.Time.Instant

/-!
# Claims of management tokens

What a token says about its bearer: the user, the instance, whether the user is an
administrator, who issued the token and when it is valid. Times are whole seconds
since the start of 1970.
-/

namespace RankFormula

/-- A time in a token: seconds since the start of year 1, as a signed word. -/
structure TokenTime where
  /-- Seconds since the start of year 1. -/
  seconds : Int
  deriving DecidableEq, Repr

namespace TokenTime

/-- The time a number of seconds after the start of 1970. The sum wraps. -/
def ofUnixSeconds (seconds : Int) : TokenTime :=
  ⟨Int.bmod (seconds + unixEpochSeconds) wordModulus⟩

/-- The time of a finite number of seconds. The integer part and the nanoseconds of the fraction
are cut toward zero, one after the other; the time is then the whole second at or before their
sum. So a negative number whose fraction is below a nanosecond is the time of its integer part. -/
def ofFloating? (x : Floating) : Option TokenTime :=
  if x.isFinite then
    let nanos := Floating.mul .double x.fraction (.ofInt .double nanosPerSecond)
    some (ofUnixSeconds (x.toSignedWord + Int.fdiv nanos.toSignedWord nanosPerSecond))
  else none

/-- The time of a written number, which must fit a floating one. -/
def ofDecimal? (d : Decimal) : Option TokenTime := ofFloating? (d.toFloating .double)

/-- The time in a JSON value: a number, or a text that is one. -/
def ofJson? : Json → Option TokenTime
  | .number d => ofDecimal? d
  | .string s =>
    match Json.readNumber s.toList with
    | some (d, []) => ofDecimal? d
    | _ => none
  | _ => none

/-- Whether an instant lies before the time. -/
def isAfter (t : TokenTime) (now : Instant) : Bool :=
  decide (now.nanoseconds < t.seconds * nanosPerSecond)

end TokenTime

/-- What a management token says. -/
structure Claims where
  /-- The instance whose formulas may be edited. -/
  instanceID : String
  /-- Whether the user may delete formulas. -/
  isAdmin : Bool
  /-- Who issued the token. -/
  issuer : String
  /-- The user. -/
  subject : String
  /-- When the token expires. -/
  expiresAt : Option TokenTime
  /-- When the token becomes valid. -/
  notBefore : Option TokenTime
  deriving DecidableEq, Repr

namespace Claims

/-- A field that is a time; `null` takes it back. -/
def timeField? (field : String) (members : List (String × Json)) : Option (Option TokenTime) :=
  Json.foldField (fun _ json =>
    match json with
    | .null => some none
    | json => (TokenTime.ofJson? json).map some) none field members

/-- Whether a value can name an audience: a text or a list of texts. -/
def isAudience : Json → Bool
  | .null => true
  | .string _ => true
  | .array items => items.all fun item =>
    match item with
    | .string _ => true
    | _ => false
  | _ => false

/-- The claims of a JSON value; every claim must be of its type, the ignored ones included. -/
def ofJson? (json : Json) : Option Claims := do
  let members ← json.members?
  let instanceID ← Json.textField? "instance_id" members
  let isAdmin ← Json.boolField? "is_admin" members
  let issuer ← Json.textField? "iss" members
  let subject ← Json.textField? "sub" members
  let _ ← Json.textField? "jti" members
  let expiresAt ← timeField? "exp" members
  let notBefore ← timeField? "nbf" members
  let _ ← timeField? "iat" members
  if (Json.valuesOf "aud" members).all isAudience then
    some ⟨instanceID, isAdmin, issuer, subject, expiresAt, notBefore⟩
  else none

end Claims

/-- What goes into a new token. -/
structure TokenRequest where
  /-- The user. -/
  userID : String
  /-- The instance. -/
  instanceID : String
  /-- Whether the user may delete formulas. -/
  isAdmin : Bool
  /-- When the token is issued. -/
  issuedAt : Instant
  /-- The nanoseconds for which it is valid. -/
  lifetime : Int

/-- The issuer of all tokens. -/
def tokenIssuer : String := "expression-mongo"

namespace TokenRequest

/-- When the token expires. -/
def expiresAt (r : TokenRequest) : Instant := r.issuedAt.addNanos r.lifetime

/-- The claims of the new token; empty ones are left out. -/
def toJson (r : TokenRequest) : Json :=
  .object <|
    (if r.instanceID.isEmpty then [] else [("instance_id", .string r.instanceID)]) ++
      (if r.isAdmin then [("is_admin", .bool true)] else []) ++
      [("iss", .string tokenIssuer)] ++
      (if r.userID.isEmpty then [] else [("sub", .string r.userID)]) ++
      [("exp", .int r.expiresAt.unixSeconds), ("iat", .int r.issuedAt.unixSeconds)]

end TokenRequest
end RankFormula
