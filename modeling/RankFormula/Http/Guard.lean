import RankFormula.Auth.Token
import RankFormula.Http.RequestId
import RankFormula.Text.CharacterClass

/-!
# Guards

Before a request reaches its endpoint it passes guards in a fixed order. A guard
either refuses the request or adds what it found to the pass: the tag of the
request, the client that made it, the claims of its token. A guard that follows a
refusal is never asked.
-/

namespace RankFormula

/-- A program that may read, known by its key. -/
structure ApiClient where
  /-- Its name. -/
  name : String
  /-- Its key; without one it is no client. -/
  key : String
  deriving DecidableEq, Repr

/-- Who may do what. -/
structure Access where
  /-- The key that signs management tokens. -/
  signKey : String
  /-- The programs that may read. -/
  clients : List ApiClient
  /-- The instances served. -/
  allowedInstances : List String

/-- A check in front of an endpoint. -/
inductive Guard where
  /-- Tags the request; refuses none. -/
  | requestTag
  /-- Requires the key of a client. -/
  | apiKey
  /-- Requires a JSON payload. -/
  | payload
  /-- Requires a valid management token. -/
  | token
  /-- Requires an instance that is served, and that the token is for it. -/
  | servedInstance
  /-- Requires the token of an administrator. -/
  | admin
  deriving DecidableEq, Repr

/-- What the guards found out about a request. -/
structure Pass where
  /-- The tag of the request. -/
  tag : Option RequestTag
  /-- The name of the client. -/
  client : Option String
  /-- The claims of the validated token. -/
  claims : Option Claims

/-- The pass of a request that met no guard yet. -/
def Pass.start : Pass := ⟨none, none, none⟩

/-- Why a guard refuses a request. -/
inductive Refusal where
  /-- No client has the key. -/
  | apiKeyMissing
  /-- There is no payload. -/
  | payloadMissing
  /-- The payload is of another type. -/
  | payloadNotJson
  /-- There is no header for a token. -/
  | authorizationMissing
  /-- The header for a token holds none. -/
  | tokenMissing
  /-- The token is not valid. -/
  | tokenInvalid
  /-- The instance is not served. -/
  | instanceNotServed
  /-- The token is for another instance. -/
  | tokenForOtherInstance
  /-- There is no validated token to look at. -/
  | tokenNotValidated
  /-- The user is no administrator. -/
  | notAdmin
  deriving DecidableEq, Repr

namespace Refusal

/-- The status of a refusal. -/
def status : Refusal → Nat
  | .apiKeyMissing => 401
  | .payloadMissing => 400
  | .payloadNotJson => 415
  | .authorizationMissing => 400
  | .tokenMissing => 400
  | .tokenInvalid => 401
  | .instanceNotServed => 400
  | .tokenForOtherInstance => 401
  | .tokenNotValidated => 400
  | .notAdmin => 401

/-- The words of a refusal. -/
def message : Refusal → String
  | .apiKeyMissing => "A valid API key missing"
  | .payloadMissing => "payload missing"
  | .payloadNotJson => "payload must be json"
  | .authorizationMissing => "no Authorization header found"
  | .tokenMissing => "no token found in Authorization header"
  | .tokenInvalid => "error during token validation"
  | .instanceNotServed => "instanceID not allowed"
  | .tokenForOtherInstance => "instanceID not allowed"
  | .tokenNotValidated => "validatedToken not found in context"
  | .notAdmin => "unauthorized access to admin endpoint"

/-- The response to a refused request. -/
def toResponse (refusal : Refusal) : Response := .failure refusal.status refusal.message

end Refusal

/-- The header that carries a client's key. -/
def apiKeyHeader : String := "X-API-Key"

/-- The header that carries a token. -/
def authorizationHeader : String := "Authorization"

/-- What may stand in front of a token. -/
def bearerMark : List Char := "Bearer ".toList

/-- The parameter that names the instance. -/
def instanceParameter : String := "instanceID"

/-- The token in a request. -/
def Request.token (request : Request) : Except Refusal String :=
  let header := (request.header authorizationHeader).toList
  if header.isEmpty then .error .authorizationMissing
  else
    let unmarked :=
      if bearerMark.isPrefixOf header then header.drop bearerMark.length else header
    let token := trimBlanks unmarked
    if token.isEmpty then .error .tokenMissing else .ok (String.ofList token)

/-- The value of a path parameter; empty if there is none. -/
def parameter (parameters : List (String × RawText)) (name : String) : RawText :=
  (getField? name parameters).getD ""

namespace Access

/-- The client with a key. -/
def client? (access : Access) (key : String) : Option ApiClient :=
  access.clients.find? fun client => !client.key.isEmpty && client.key == key

/-- Asks one guard. -/
def check (access : Access) (now : Instant) (request : Request)
    (parameters : List (String × RawText)) (pass : Pass) : Guard → Except Refusal Pass
  | .requestTag => .ok { pass with tag := some request.tag }
  | .apiKey =>
    match access.client? (request.header apiKeyHeader) with
    | some client => .ok { pass with client := some client.name }
    | none => .error .apiKeyMissing
  | .payload =>
    if request.declaresNoBody then .error .payloadMissing
    else if request.contentType = "application/json" then .ok pass
    else .error .payloadNotJson
  | .token => do
    let token ← request.token
    match validateToken token access.signKey now with
    | .ok claims => .ok { pass with claims := some claims }
    | .error _ => .error .tokenInvalid
  | .servedInstance =>
    match (parameter parameters instanceParameter).string? with
    | none => .error .instanceNotServed
    | some instanceID =>
      if !access.allowedInstances.contains instanceID then .error .instanceNotServed
      else
        match pass.claims with
        | some claims =>
          if claims.instanceID = instanceID then .ok pass else .error .tokenForOtherInstance
        | none => .ok pass
  | .admin =>
    match pass.claims with
    | some claims => if claims.isAdmin then .ok pass else .error .notAdmin
    | none => .error .tokenNotValidated

/-- Asks guards in order: the pass as far as it got, and the refusal if there was one. -/
def askGuards (access : Access) (now : Instant) (request : Request)
    (parameters : List (String × RawText)) : List Guard → Pass → Pass × Option Refusal
  | [], pass => (pass, none)
  | guard :: guards, pass =>
    match access.check now request parameters pass guard with
    | .ok pass => askGuards access now request parameters guards pass
    | .error refusal => (pass, some refusal)

end Access
end RankFormula
