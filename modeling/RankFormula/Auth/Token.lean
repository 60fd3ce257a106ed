import RankFormula.Auth.Claims
import RankFormula.Auth.Sha256
import RankFormula.Document.Value
import RankFormula.Text.Base64

/-!
# Management tokens

A token is three base-64 segments joined by dots: a header, the claims, and the
keyed hash of the first two. `readToken` reads one as far as it can and says what
stopped it; a token that could not be read to its end may have no claims, or some
that are not to be relied on. `judgeToken` decides from both whether the token is
accepted.
-/

namespace RankFormula

/-- Why the claims of a token do not hold. -/
inductive ClaimFault where
  /-- The token has expired. -/
  | expired
  /-- The token is not valid yet. -/
  | notValidYet
  /-- The token names no issuer. -/
  | missingIssuer
  /-- The token was issued by somebody else. -/
  | invalidIssuer
  deriving DecidableEq, Repr

/-- The words of a fault. -/
def ClaimFault.message : ClaimFault → String
  | .expired => "token is expired"
  | .notValidYet => "token is not valid yet"
  | .missingIssuer => "token is missing required claim: iss claim is required"
  | .invalidIssuer => "token has invalid issuer"

/-- Why a token is not accepted. -/
inductive TokenFault where
  /-- The text is no token. -/
  | malformed (reason : String)
  /-- The header names no known method. -/
  | unverifiable (reason : String)
  /-- The header names a method that is not in use. -/
  | unusedMethod (name : String)
  /-- The hash is not that of the first two segments. -/
  | wrongSignature
  /-- The claims do not hold. -/
  | invalidClaims (faults : List ClaimFault)
  deriving DecidableEq, Repr

/-- The words of a refusal. -/
def TokenFault.message : TokenFault → String
  | .malformed reason => "token is malformed: " ++ reason
  | .unverifiable reason => "token is unverifiable: " ++ reason
  | .unusedMethod name => "token signature is invalid: signing method " ++ name ++ " is invalid"
  | .wrongSignature => "token signature is invalid: signature is invalid"
  | .invalidClaims faults =>
    "token has invalid claims: " ++ String.intercalate ", " (faults.map ClaimFault.message)

/-- The method in use. -/
def tokenMethod : String := "HS256"

/-- The methods a header may name. -/
def knownMethods : List String :=
  ["HS256", "HS384", "HS512", "RS256", "RS384", "RS512", "ES256", "ES384", "ES512", "PS256",
    "PS384", "PS512", "EdDSA", "none"]

/-- The byte between the segments of a token, a dot. -/
def segmentSeparator : UInt8 := 46

/-- The segments of a token. -/
def tokenSegments (token : List UInt8) : List (List UInt8) := token.splitOn segmentSeparator

/-- The bytes that a segment encodes. -/
def segmentBytes? (segment : List UInt8) : Option (List UInt8) :=
  base64Decode? (segment.map fun b => Char.ofNat b.toNat)

/-- The JSON value of a decoded segment. -/
def segmentJson? (bytes : List UInt8) : Option Json := Json.read? (utf8Text bytes)

/-- The header of a decoded segment: an object whose numbers fit, or nothing. -/
def headerOf? (bytes : List UInt8) : Option (List (String × Value)) := do
  match ← Value.ofJson? (← segmentJson? bytes) with
  | .null => some []
  | .object fields => some fields
  | _ => none

/-- Unpacks an optional value, or fails. -/
def orFail {ε α : Type} (fault : ε) : Option α → Except ε α
  | some a => .ok a
  | none => .error fault

/-- The fault of a header's method, if it is not the one in use. -/
def methodFault? (header : List (String × Value)) : Option TokenFault :=
  match getField? "alg" header with
  | some (.string name) =>
    if name = tokenMethod then none
    else if knownMethods.contains name then some (.unusedMethod name)
    else some (.unverifiable "signing method (alg) is unavailable")
  | _ => some (.unverifiable "signing method (alg) is unspecified")

/-- The faults of claims at a time. -/
def Claims.faultsAt (claims : Claims) (now : Instant) : List ClaimFault :=
  (match claims.expiresAt with
    | some t => if t.isAfter now then [] else [.expired]
    | none => []) ++
    (match claims.notBefore with
      | some t => if t.isAfter now then [.notValidYet] else []
      | none => []) ++
    (if claims.issuer.isEmpty then [.missingIssuer]
      else if claims.issuer = tokenIssuer then []
      else [.invalidIssuer])

/-- The bytes over which a token's hash is taken. -/
def signedBytes (header claims : List UInt8) : List UInt8 := header ++ segmentSeparator :: claims

/-- Reads the header in a segment. -/
def readHeader (segment : List UInt8) : Except TokenFault (List (String × Value)) := do
  let bytes ← orFail (.malformed "could not base64 decode header") (segmentBytes? segment)
  orFail (.malformed "could not JSON decode header") (headerOf? bytes)

/-- Reads the claims in a segment. -/
def readClaims (segment : List UInt8) : Except TokenFault Claims := do
  let bytes ← orFail (.malformed "could not base64 decode claim") (segmentBytes? segment)
  orFail (.malformed "could not JSON decode claim") (segmentJson? bytes >>= Claims.ofJson?)

/-- Checks a token that was read: its method, its hash, and its claims at a time. -/
def checkToken (header : List (String × Value)) (claims : Claims)
    (signed signatureSegment key : List UInt8) (now : Instant) : Except TokenFault Unit :=
  match methodFault? header with
  | some fault => .error fault
  | none => do
    let signature ← orFail (.malformed "could not base64 decode signature")
      (segmentBytes? signatureSegment)
    if signature != keyedHash key signed then .error .wrongSignature
    else
      match claims.faultsAt now with
      | [] => .ok ()
      | faults => .error (.invalidClaims faults)

/-- The claims in a token. -/
inductive HeldClaims where
  /-- Claims that were not read to their end. -/
  | unread
  /-- Claims that were read. -/
  | read (claims : Claims)
  deriving DecidableEq, Repr

/-- A token as far as it was read. -/
structure PartialToken where
  /-- The claims, if it came to them. -/
  claims : Option HeldClaims
  /-- Whether the token passed all checks. -/
  valid : Bool
  deriving DecidableEq, Repr

/-- What reading a token ends in. -/
structure TokenReading where
  /-- The token, if the text has its segments. -/
  token : Option PartialToken
  /-- What stopped the reading. -/
  fault : Option TokenFault
  deriving DecidableEq, Repr

/-- A reading that stopped before the token passed all checks. -/
def TokenReading.stopped (claims : Option HeldClaims) (fault : TokenFault) : TokenReading :=
  ⟨some ⟨claims, false⟩, some fault⟩

/-- Reads a token and checks it under a key at a time. -/
def readToken (token key : List UInt8) (now : Instant) : TokenReading :=
  match tokenSegments token with
  | [headerSegment, claimsSegment, signatureSegment] =>
    match readHeader headerSegment with
    | .error fault => .stopped none fault
    | .ok header =>
      match readClaims claimsSegment with
      | .error fault => .stopped (some .unread) fault
      | .ok claims =>
        match checkToken header claims (signedBytes headerSegment claimsSegment) signatureSegment
            key now with
        | .error fault => .stopped (some (.read claims)) fault
        | .ok _ => ⟨some ⟨some (.read claims), true⟩, none⟩
  | _ => ⟨none, some (.malformed "token contains an invalid number of segments")⟩

/-- What is made of a token. -/
structure TokenVerdict where
  /-- The claims, as far as there are any. -/
  claims : Option HeldClaims
  /-- Whether the token is accepted. -/
  valid : Bool
  /-- Why it is not. -/
  fault : Option TokenFault
  deriving DecidableEq, Repr

/-- Judges a token under a key at a time. -/
def judgeToken (token key : List UInt8) (now : Instant) : TokenVerdict :=
  let reading := readToken token key now
  match reading.token with
  | none => ⟨none, false, reading.fault⟩
  | some token =>
    ⟨token.claims, token.claims.isSome && token.valid && reading.fault.isNone, reading.fault⟩

/-- The claims of an accepted token; of any other, the fault that is named. -/
def TokenVerdict.result : TokenVerdict → Except (Option TokenFault) Claims
  | ⟨some (.read claims), true, none⟩ => .ok claims
  | ⟨_, _, fault⟩ => .error fault

/-- The claims of a token that is accepted under a key at a time. -/
def validateToken (token key : String) (now : Instant) : Except (Option TokenFault) Claims :=
  (judgeToken (utf8Bytes token.toList) (utf8Bytes key.toList) now).result

/-- The header of all new tokens. -/
def tokenHeader : Json := .object [("alg", .string tokenMethod), ("typ", .string "JWT")]

/-- The segment of a JSON value. -/
def segmentOf (json : Json) : List Char := base64Encode (utf8Bytes json.writeChars)

/-- Why no token is issued. -/
inductive SigningFault where
  /-- The key is empty. -/
  | keyMissing
  deriving DecidableEq, Repr

/-- The words of a fault. -/
def SigningFault.message : SigningFault → String
  | .keyMissing => "sign key missing"

/-- A new token under a key; an empty key signs nothing. -/
def TokenRequest.sign (request : TokenRequest) (key : String) : Except SigningFault String :=
  if key.isEmpty then .error .keyMissing
  else
    let header := segmentOf tokenHeader
    let claims := segmentOf request.toJson
    let signed := signedBytes (utf8Bytes header) (utf8Bytes claims)
    let signature := base64Encode (keyedHash (utf8Bytes key.toList) signed)
    .ok (String.ofList (header ++ '.' :: (claims ++ '.' :: signature)))

end RankFormula
