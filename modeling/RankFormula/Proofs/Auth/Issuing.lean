import RankFormula.Proofs.Auth.Acceptance
import RankFormula.Proofs.Json.RoundTrip
import RankFormula.Proofs.Numeral.Integers
import RankFormula.Proofs.Text.Base64

/-!
# Issued tokens

What is put into a token is what is read out of it: `TokenRequest.make_parts` says which segments
a new token has and that they encode its claims, and `judgeToken_token` how the token is judged
under its own key at every time. The main statement is `issued_token_valid_until_expiry`.
-/

namespace RankFormula

/-- The token that a key signs. An empty key is no exception here. -/
def TokenRequest.token (request : TokenRequest) (key : String) : String :=
  let header := segmentOf tokenHeader
  let claims := segmentOf request.toJson
  let signed := signedBytes (utf8Bytes header) (utf8Bytes claims)
  let signature := base64Encode (keyedHash (utf8Bytes key.toList) signed)
  String.ofList (header ++ '.' :: (claims ++ '.' :: signature))

/-- A key that is not empty signs the token. -/
theorem TokenRequest.sign_eq (request : TokenRequest) (key : String) :
    request.sign key = if key.isEmpty then .error .keyMissing else .ok (request.token key) := rfl

section Segments

/-- The characters of a segment have seven bits. -/
theorem toNat_lt_of_mem_base64Encode {bytes : List UInt8} {c : Char}
    (member : c ∈ base64Encode bytes) : c.toNat < 128 := by
  obtain ⟨n, small, rfl⟩ := mem_base64Encode member
  exact (base64Char_plain n small).2.2.2

/-- A segment is decoded to the bytes that were encoded. -/
theorem segmentBytes?_base64Encode (bytes : List UInt8) :
    segmentBytes? (utf8Bytes (base64Encode bytes)) = some bytes := by
  have same : ((base64Encode bytes).map fun c => UInt8.ofNat c.toNat).map
      (fun b => Char.ofNat b.toNat) = base64Encode bytes := by
    rw [List.map_map]
    refine (List.map_congr_left fun c member => ?_).trans (List.map_id _)
    have ascii := toNat_lt_of_mem_base64Encode member
    show Char.ofNat (UInt8.ofNat c.toNat).toNat = c
    rw [toNat_byte (by omega), Char.ofNat_toNat]
  rw [segmentBytes?, utf8Bytes_of_ascii fun c => toNat_lt_of_mem_base64Encode, same,
    base64Decode?_base64Encode]

/-- There are no dots in a segment. -/
theorem separator_notMem_base64Encode (bytes : List UInt8) :
    segmentSeparator ∉ utf8Bytes (base64Encode bytes) := by
  rw [utf8Bytes_of_ascii fun c => toNat_lt_of_mem_base64Encode]
  intro member
  obtain ⟨c, encoded, dot⟩ := List.mem_map.mp member
  obtain ⟨n, small, rfl⟩ := mem_base64Encode encoded
  have plain := base64Char_plain n small
  have code : (base64Char n).toNat = '.'.toNat := by
    have bytes := congrArg UInt8.toNat dot
    rwa [toNat_byte (by omega)] at bytes
  exact plain.2.2.1 (Char.toNat_inj.mp code)

/-- A value is read from its segment as it is read anywhere. -/
theorem segmentJson?_writeChars {json : Json} (nests : json.Nests Json.nestingLimit) :
    segmentJson? (utf8Bytes json.writeChars) = some json.reread := by
  rw [segmentJson?, utf8Text_utf8Bytes, Json.read?_writeChars nests]

end Segments

/-- The header of new tokens is read as it was written. -/
theorem headerOf?_tokenHeader :
    headerOf? (utf8Bytes tokenHeader.writeChars) =
      some [("alg", .string tokenMethod), ("typ", .string "JWT")] := by
  have nests : tokenHeader.Nests Json.nestingLimit := Json.nests_record rfl
  rw [headerOf?, segmentJson?_writeChars nests]
  rfl

section Claims

/-- A time of few bits is read as it was written. -/
theorem TokenTime.ofJson?_int {n : Int} (exactly : IsExactInteger n) :
    ofJson? (.int n) = some (ofUnixSeconds n) := by
  have word : -(signedLimit : Int) ≤ n ∧ n < signedLimit := by
    have small : n.natAbs < 9007199254740992 := exactly
    unfold signedLimit
    omega
  have integer := Decimal.isInteger_toFloating_ofInt exactly
  have counted : (Floating.ofInt .double nanosPerSecond).isFinite = true := by decide
  show ofFloating? _ = _
  rw [ofFloating?, if_pos integer.isFinite]
  dsimp only
  rw [integer.toSignedWord word, integer.toSignedWord_mul_fraction counted,
    show Int.fdiv 0 nanosPerSecond = 0 by decide, Int.add_zero]

/-- Seconds are counted from year 1 without wrapping. -/
theorem TokenTime.seconds_ofUnixSeconds {n : Int} (exactly : IsExactInteger n) :
    (ofUnixSeconds n).seconds = n + unixEpochSeconds := by
  have small : n.natAbs < 9007199254740992 := exactly
  refine Int.bmod_eq_of_le_mul_two ?_ ?_
  · unfold wordModulus unixEpochSeconds
    omega
  · unfold wordModulus unixEpochSeconds
    omega

namespace TokenRequest

/-- The claims that are put into a token. -/
def claims (request : TokenRequest) : Claims where
  instanceID := request.instanceID
  isAdmin := request.isAdmin
  issuer := tokenIssuer
  subject := request.userID
  expiresAt := some (.ofUnixSeconds request.expiresAt.unixSeconds)
  notBefore := none

/-- Numeric dates are floating numbers. They are exact for 285 million years around 1970, so for
all that a clock shows and everything a duration later. -/
structure Datable (request : TokenRequest) : Prop where
  /-- The time of issue is exact. -/
  issuedAt : IsExactInteger request.issuedAt.unixSeconds
  /-- So is the expiry. -/
  expiresAt : IsExactInteger request.expiresAt.unixSeconds

/-- A clock counts nanoseconds from 1970 in a signed word, and a lifetime is a signed word. -/
theorem datable_of_words {request : TokenRequest}
    (clock : (request.issuedAt.nanoseconds - unixEpochSeconds * nanosPerSecond).natAbs ≤
      signedLimit)
    (duration : request.lifetime.natAbs ≤ signedLimit) : request.Datable := by
  unfold signedLimit unixEpochSeconds nanosPerSecond at *
  have whole (n : Int) : Int.fdiv n 1000000000 = n / 1000000000 :=
    Int.fdiv_eq_ediv_of_nonneg n (by decide)
  constructor
  · show (Int.fdiv request.issuedAt.nanoseconds 1000000000 - 62135596800).natAbs < 9007199254740992
    rw [whole]
    omega
  · show (Int.fdiv (request.issuedAt.nanoseconds + request.lifetime) 1000000000 -
      62135596800).natAbs < 9007199254740992
    rw [whole]
    omega

/-- Claims are written in a form that is read as it is. -/
theorem reread_toJson (request : TokenRequest) : request.toJson.reread = request.toJson := by
  unfold toJson
  split <;> split <;> split <;>
    simp [Json.reread, Json.rereadMembers, Json.int]

/-- Claims are a record. -/
theorem nests_toJson (request : TokenRequest) : request.toJson.Nests Json.nestingLimit := by
  unfold toJson
  refine Json.nests_record ?_
  split <;> split <;> split <;> rfl

/-- A text that is left out if it is empty is read as it was. -/
theorem textField?_of_optional {field text : String} {members : List (String × Json)}
    (values : Json.valuesOf field members = if text.isEmpty then [] else [.string text]) :
    Json.textField? field members = some text := by
  rw [Json.textField?, Json.foldField, values]
  by_cases empty : text.isEmpty = true
  · rw [if_pos empty, String.isEmpty_iff.mp empty]
    rfl
  · rw [if_neg empty]
    rfl

/-- A truth value that is left out if it is false is read as it was. -/
theorem boolField?_of_optional {field : String} {truth : Bool} {members : List (String × Json)}
    (values : Json.valuesOf field members = if truth then [.bool true] else []) :
    Json.boolField? field members = some truth := by
  rw [Json.boolField?, Json.foldField, values]
  cases truth <;> rfl

/-- A time of few bits is read as it was written. -/
theorem timeField?_int {field : String} {n : Int} {members : List (String × Json)}
    (exactly : IsExactInteger n) (values : Json.valuesOf field members = [.int n]) :
    Claims.timeField? field members = some (some (.ofUnixSeconds n)) := by
  rw [Claims.timeField?, Json.foldField, values, List.foldlM_cons]
  show (TokenTime.ofJson? (.int n)).map some >>= _ = _
  rw [TokenTime.ofJson?_int exactly]
  rfl

/-- The members of the claims. -/
def members (request : TokenRequest) : List (String × Json) :=
  (if request.instanceID.isEmpty then [] else [("instance_id", Json.string request.instanceID)]) ++
    (if request.isAdmin then [("is_admin", Json.bool true)] else []) ++
    [("iss", Json.string tokenIssuer)] ++
    (if request.userID.isEmpty then [] else [("sub", Json.string request.userID)]) ++
    [("exp", Json.int request.expiresAt.unixSeconds),
      ("iat", Json.int request.issuedAt.unixSeconds)]

/-- A field has the values of the members with its name. -/
theorem valuesOf_members (request : TokenRequest) (field : String) :
    Json.valuesOf field request.members =
      (if request.instanceID.isEmpty = false ∧ Json.namesField field "instance_id" then
        [Json.string request.instanceID] else []) ++
      (if request.isAdmin ∧ Json.namesField field "is_admin" then [Json.bool true] else []) ++
      (if Json.namesField field "iss" then [Json.string tokenIssuer] else []) ++
      (if request.userID.isEmpty = false ∧ Json.namesField field "sub" then
        [Json.string request.userID] else []) ++
      (if Json.namesField field "exp" then [Json.int request.expiresAt.unixSeconds] else []) ++
      (if Json.namesField field "iat" then [Json.int request.issuedAt.unixSeconds] else []) := by
  have single (name : String) (value : Json) :
      ([(name, value)].filter fun m => Json.namesField field m.1).map Prod.snd =
        if Json.namesField field name then [value] else [] := by
    cases named : Json.namesField field name <;> simp [named]
  have pair (name other : String) (value second : Json) :
      ([(name, value), (other, second)] : List (String × Json)) =
        [(name, value)] ++ [(other, second)] := rfl
  rw [Json.valuesOf, members, pair]
  simp only [List.filter_append, List.map_append, single, ← List.append_assoc]
  congr 4
  · congr 1
    · cases request.instanceID.isEmpty <;> simp [single]
    · cases request.isAdmin <;> simp [single]
  · cases request.userID.isEmpty <;> simp [single]

/-- Claims that are left out are read as the empty ones they were. -/
theorem ofJson?_toJson {request : TokenRequest} (datable : request.Datable) :
    Claims.ofJson? request.toJson = some request.claims := by
  have values := valuesOf_members request
  have instanceID : Json.textField? "instance_id" request.members = some request.instanceID :=
    textField?_of_optional (by simp +decide [values])
  have isAdmin : Json.boolField? "is_admin" request.members = some request.isAdmin :=
    boolField?_of_optional (by simp +decide [values])
  have issuer : Json.textField? "iss" request.members = some tokenIssuer :=
    textField?_of_optional (by simp +decide [values])
  have subject : Json.textField? "sub" request.members = some request.userID :=
    textField?_of_optional (by simp +decide [values])
  have identifier : Json.textField? "jti" request.members = some "" :=
    textField?_of_optional (by simp +decide [values])
  have expiry : Claims.timeField? "exp" request.members = _ :=
    timeField?_int datable.expiresAt (by simp +decide [values])
  have beginning : Claims.timeField? "nbf" request.members = some none := by
    rw [Claims.timeField?, Json.foldField, show Json.valuesOf "nbf" _ = [] by simp +decide [values]]
    rfl
  have issue : Claims.timeField? "iat" request.members = _ :=
    timeField?_int datable.issuedAt (by simp +decide [values])
  have audience : Json.valuesOf "aud" request.members = [] := by simp +decide [values]
  rw [Claims.ofJson?, show request.toJson.members? = some request.members from rfl]
  simp only [Option.bind_eq_bind, Option.bind_some, instanceID, isAdmin, issuer, subject,
    identifier, expiry, beginning, issue, audience, List.all_nil, if_true]
  rfl

/-- The parts of a token under a key. -/
def parts (request : TokenRequest) (key : String) : TokenParts :=
  let header := utf8Bytes (segmentOf tokenHeader)
  let claims := utf8Bytes (segmentOf request.toJson)
  let signature := keyedHash (utf8Bytes key.toList) (signedBytes header claims)
  { headerSegment := header
    claimsSegment := claims
    signatureSegment := utf8Bytes (base64Encode signature)
    header := [("alg", .string tokenMethod), ("typ", .string "JWT")]
    claims := request.claims
    signature := signature }

/-- A new token consists of its parts. -/
theorem make_parts {request : TokenRequest} (datable : request.Datable) (key : String) :
    (request.parts key).Make (utf8Bytes (request.token key).toList) where
  joined := by
    have dot (cs : List Char) : utf8Bytes ('.' :: cs) = segmentSeparator :: utf8Bytes cs := rfl
    rw [token, String.toList_ofList, utf8Bytes_append, dot, utf8Bytes_append, dot]
    rfl
  dotless := ⟨separator_notMem_base64Encode _, separator_notMem_base64Encode _,
    separator_notMem_base64Encode _⟩
  header := ⟨_, segmentBytes?_base64Encode _, headerOf?_tokenHeader⟩
  claims := by
    refine ⟨_, _, segmentBytes?_base64Encode _, segmentJson?_writeChars request.nests_toJson, ?_⟩
    rw [reread_toJson]
    exact ofJson?_toJson datable
  signature := segmentBytes?_base64Encode _

end TokenRequest
end Claims

section Judgement

/-- A token whose hash is right is judged by its claims alone. -/
theorem TokenParts.Make.judgeToken {parts : TokenParts} {token key : List UInt8}
    (make : parts.Make token)
    (method : getField? "alg" parts.header = some (.string tokenMethod))
    (signed : parts.signature =
      keyedHash key (signedBytes parts.headerSegment parts.claimsSegment)) (now : Instant) :
    RankFormula.judgeToken token key now =
      match parts.claims.faultsAt now with
      | [] => ⟨some (.read parts.claims), true, none⟩
      | faults => ⟨some (.read parts.claims), false, some (.invalidClaims faults)⟩ := by
  have header := readHeader_eq_ok.mpr make.header
  have claims := readClaims_eq_ok.mpr make.claims
  have checked : checkToken parts.header parts.claims
      (signedBytes parts.headerSegment parts.claimsSegment) parts.signatureSegment key now =
        match parts.claims.faultsAt now with
        | [] => .ok ()
        | faults => .error (.invalidClaims faults) := by
    rw [checkToken, methodFault?_eq_none.mpr method, make.signature]
    cases parts.claims.faultsAt now <;>
      simp only [orFail, bind, Except.bind, bne_eq_false_iff_eq.mpr signed, Bool.false_eq_true,
        if_false]
  rw [RankFormula.judgeToken, readToken, make.segments]
  simp only [header, claims, checked]
  cases parts.claims.faultsAt now <;> rfl

/-- The claims of a token fail it only by expiring. -/
theorem TokenRequest.faultsAt_claims {request : TokenRequest} (datable : request.Datable)
    (now : Instant) :
    request.claims.faultsAt now =
      if now.nanoseconds <
          (request.issuedAt.nanoseconds + request.lifetime) / nanosPerSecond * nanosPerSecond then
        []
      else [.expired] := by
  have seconds := TokenTime.seconds_ofUnixSeconds datable.expiresAt
  have whole : request.expiresAt.unixSeconds + unixEpochSeconds =
      (request.issuedAt.nanoseconds + request.lifetime) / nanosPerSecond := by
    rw [Instant.unixSeconds, Int.sub_add_cancel, Int.fdiv_eq_ediv_of_nonneg _ (by decide)]
    rfl
  have issuer : tokenIssuer.isEmpty = false := by decide
  unfold Claims.faultsAt claims TokenTime.isAfter
  dsimp only
  rw [seconds, whole, issuer]
  by_cases before : now.nanoseconds <
      (request.issuedAt.nanoseconds + request.lifetime) / nanosPerSecond * nanosPerSecond
  · rw [decide_eq_true before, if_pos before]
    rfl
  · rw [decide_eq_false before, if_neg before]
    rfl

/-- A token is accepted under the key that signed it, whatever the key, until it expires. -/
theorem TokenRequest.judgeToken_token {request : TokenRequest} (datable : request.Datable)
    (key : String) (now : Instant) :
    judgeToken (utf8Bytes (request.token key).toList) (utf8Bytes key.toList) now =
      if now.nanoseconds <
          (request.issuedAt.nanoseconds + request.lifetime) / nanosPerSecond * nanosPerSecond
      then ⟨some (.read request.claims), true, none⟩
      else ⟨some (.read request.claims), false, some (.invalidClaims [.expired])⟩ := by
  have method : getField? "alg" (request.parts key).header = some (.string tokenMethod) := rfl
  have judged := (make_parts datable key).judgeToken method rfl now
  rw [show (request.parts key).claims = request.claims from rfl, faultsAt_claims datable] at judged
  rw [judged]
  by_cases before : now.nanoseconds <
      (request.issuedAt.nanoseconds + request.lifetime) / nanosPerSecond * nanosPerSecond
  · rw [if_pos before, if_pos before]
  · rw [if_neg before, if_neg before]

end Judgement

/-- A token that is issued under a key is accepted under it until it expires, which is the time of
issue and the lifetime added up and cut to whole seconds; it tells the user, the instance and
whether the user is an administrator. From then on it is refused for being expired, and for nothing
else. A token for a second or more is accepted when it is issued. Issue and expiry lie within 285
million years of 1970 (`TokenRequest.Datable`), as they do for every clock and every lifetime that
count nanoseconds in signed words (`TokenRequest.datable_of_words`). -/
theorem issued_token_valid_until_expiry (request : TokenRequest) {key : String}
    (nonempty : key ≠ "") (datable : request.Datable) :
    ∃ (token : String) (claims : Claims),
      request.sign key = .ok token ∧
      claims.subject = request.userID ∧ claims.instanceID = request.instanceID ∧
      claims.isAdmin = request.isAdmin ∧
      (∀ now : Instant,
        judgeToken (utf8Bytes token.toList) (utf8Bytes key.toList) now =
          if now.nanoseconds <
              (request.issuedAt.nanoseconds + request.lifetime) / nanosPerSecond * nanosPerSecond
          then ⟨some (.read claims), true, none⟩
          else ⟨some (.read claims), false, some (.invalidClaims [.expired])⟩) ∧
      (nanosPerSecond ≤ request.lifetime →
        (judgeToken (utf8Bytes token.toList) (utf8Bytes key.toList) request.issuedAt).valid =
          true) := by
  have signs : ¬key.isEmpty = true := by
    rw [String.isEmpty_iff]
    exact nonempty
  refine ⟨request.token key, request.claims, ?_, rfl, rfl, rfl,
    TokenRequest.judgeToken_token datable key, fun lasting => ?_⟩
  · rw [TokenRequest.sign_eq, if_neg signs]
  · have before : request.issuedAt.nanoseconds <
        (request.issuedAt.nanoseconds + request.lifetime) / nanosPerSecond * nanosPerSecond := by
      unfold nanosPerSecond at *
      omega
    rw [TokenRequest.judgeToken_token datable, if_pos before]

/-- A token for a user of a name beyond ASCII, with characters that are escaped, issued in 2024
for a minute. -/
theorem issued_token_valid_for_minute :
    let request : TokenRequest :=
      ⟨"us\"er <ü>", "", true, .ofUnixSeconds 1714521600, 60000000000⟩
    "key" ≠ "" ∧ request.Datable ∧
      ∃ (token : String) (claims : Claims),
        request.sign "key" = .ok token ∧ claims.subject = "us\"er <ü>" ∧
        claims.instanceID = "" ∧ claims.isAdmin = true ∧
        judgeToken (utf8Bytes token.toList) (utf8Bytes "key".toList) (.ofUnixSeconds 1714521659) =
          ⟨some (.read claims), true, none⟩ ∧
        judgeToken (utf8Bytes token.toList) (utf8Bytes "key".toList) (.ofUnixSeconds 1714521660) =
          ⟨some (.read claims), false, some (.invalidClaims [.expired])⟩ := by
  intro request
  have datable : request.Datable := TokenRequest.datable_of_words (by decide) (by decide)
  obtain ⟨token, claims, signed, subject, instanceID, isAdmin, judged, -⟩ :=
    issued_token_valid_until_expiry request (by decide : "key" ≠ "") datable
  refine ⟨by decide, datable, token, claims, signed, subject, instanceID, isAdmin, ?_, ?_⟩
  · rw [judged]
    exact if_pos (by decide)
  · rw [judged]
    exact if_neg (by decide)

end RankFormula
