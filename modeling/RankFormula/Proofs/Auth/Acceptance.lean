import RankFormula.Auth.Token

/-!
# Which tokens are accepted

A token that is read to its end may still be refused, and one that is not may leave no claims, or
claims that were not read. `TokenParts.Make` says what a text must consist of to be a token at all,
`TokenParts.Acceptable` what its parts must satisfy, and `token_accepted_iff` that exactly the
tokens that do both are accepted. Texts and keys are any bytes.
-/

namespace RankFormula

/-- The segments of a token, and what they encode. -/
structure TokenParts where
  /-- The segment of the header. -/
  headerSegment : List UInt8
  /-- The segment of the claims. -/
  claimsSegment : List UInt8
  /-- The segment of the hash. -/
  signatureSegment : List UInt8
  /-- The fields of the header. -/
  header : List (String × Value)
  /-- The claims. -/
  claims : Claims
  /-- The hash. -/
  signature : List UInt8

namespace TokenParts

/-- A token consists of three segments between dots, and they encode the parts. -/
structure Make (parts : TokenParts) (token : List UInt8) : Prop where
  /-- The segments are joined by dots. -/
  joined : token = parts.headerSegment ++ segmentSeparator ::
    (parts.claimsSegment ++ segmentSeparator :: parts.signatureSegment)
  /-- There are no other dots. -/
  dotless : segmentSeparator ∉ parts.headerSegment ∧ segmentSeparator ∉ parts.claimsSegment ∧
    segmentSeparator ∉ parts.signatureSegment
  /-- The first segment encodes the header. -/
  header : ∃ bytes, segmentBytes? parts.headerSegment = some bytes ∧
    headerOf? bytes = some parts.header
  /-- The second segment encodes the claims. -/
  claims : ∃ bytes json, segmentBytes? parts.claimsSegment = some bytes ∧
    segmentJson? bytes = some json ∧ Claims.ofJson? json = some parts.claims
  /-- The third segment encodes the hash. -/
  signature : segmentBytes? parts.signatureSegment = some parts.signature

/-- The parts of a token are acceptable under a key at a time. -/
structure Acceptable (parts : TokenParts) (key : List UInt8) (now : Instant) : Prop where
  /-- The header names the method in use. -/
  method : getField? "alg" parts.header = some (.string "HS256")
  /-- The hash is that of the first two segments, joined by a dot. -/
  signed : parts.signature =
    keyedHash key (parts.headerSegment ++ segmentSeparator :: parts.claimsSegment)
  /-- The claims name the issuer. -/
  issued : parts.claims.issuer = "expression-mongo"
  /-- The token does not expire, or expires later than now. -/
  unexpired : ∀ t, parts.claims.expiresAt = some t →
    now.nanoseconds < t.seconds * nanosPerSecond
  /-- The token has no beginning, or one that is not later than now. -/
  begun : ∀ t, parts.claims.notBefore = some t → t.seconds * nanosPerSecond ≤ now.nanoseconds

end TokenParts

section Reading

variable {token key header claims signature segment : List UInt8} {now : Instant}

/-- An optional value is there. -/
theorem orFail_eq_ok {ε α : Type} {fault : ε} {value? : Option α} {value : α} :
    orFail fault value? = .ok value ↔ value? = some value := by
  cases value? <;> simp [orFail]

/-- Segments hold no dots. -/
theorem separator_notMem_of_mem_tokenSegments (token : List UInt8) :
    ∀ segment ∈ tokenSegments token, segmentSeparator ∉ segment := by
  unfold tokenSegments
  induction token with
  | nil => simp
  | cons byte rest ih =>
    rw [List.splitOn_cons_eq_if_modifyHead]
    split
    · simpa using ih
    · next other =>
      cases segments : rest.splitOn segmentSeparator with
      | nil => exact absurd segments (List.splitOn_ne_nil _ _)
      | cons first others =>
        rw [segments] at ih
        obtain ⟨firstFree, othersFree⟩ := List.forall_mem_cons.mp ih
        have longer : segmentSeparator ∉ byte :: first := by
          rw [List.mem_cons, not_or]
          exact ⟨fun same => other (beq_iff_eq.mpr same.symm), firstFree⟩
        exact List.forall_mem_cons.mpr ⟨longer, othersFree⟩

/-- A text has three segments exactly if it has two dots. -/
theorem tokenSegments_eq_three :
    tokenSegments token = [header, claims, signature] ↔
      token = header ++ segmentSeparator :: (claims ++ segmentSeparator :: signature) ∧
        segmentSeparator ∉ header ∧ segmentSeparator ∉ claims ∧ segmentSeparator ∉ signature := by
  constructor
  · intro segments
    have dotless := separator_notMem_of_mem_tokenSegments token
    rw [segments] at dotless
    have joined : [segmentSeparator].intercalate (tokenSegments token) = token :=
      List.intercalate_splitOn segmentSeparator
    rw [segments] at joined
    refine ⟨?_, dotless _ (by simp), dotless _ (by simp), dotless _ (by simp)⟩
    rw [← joined]
    simp [List.intercalate, List.intersperse]
  · rintro ⟨rfl, headerDotless, claimsDotless, signatureDotless⟩
    rw [tokenSegments, List.splitOn_append_cons_self_of_not_mem headerDotless,
      List.splitOn_append_cons_self_of_not_mem claimsDotless,
      List.splitOn_eq_singleton signatureDotless]

/-- A header is read from a segment that encodes it. -/
theorem readHeader_eq_ok {fields : List (String × Value)} :
    readHeader segment = .ok fields ↔
      ∃ bytes, segmentBytes? segment = some bytes ∧ headerOf? bytes = some fields := by
  unfold readHeader
  cases segmentBytes? segment with
  | none => simp [orFail, bind, Except.bind]
  | some bytes => simpa [orFail, bind, Except.bind] using orFail_eq_ok

/-- Claims are read from a segment that encodes them. -/
theorem readClaims_eq_ok {held : Claims} :
    readClaims segment = .ok held ↔
      ∃ bytes json, segmentBytes? segment = some bytes ∧ segmentJson? bytes = some json ∧
        Claims.ofJson? json = some held := by
  unfold readClaims
  cases segmentBytes? segment with
  | none => simp [orFail, bind, Except.bind]
  | some bytes =>
    have found : orFail (TokenFault.malformed "could not JSON decode claim")
        (segmentJson? bytes >>= Claims.ofJson?) = Except.ok held ↔
          ∃ json, segmentJson? bytes = some json ∧ Claims.ofJson? json = some held :=
      orFail_eq_ok.trans Option.bind_eq_some_iff
    simpa [orFail, bind, Except.bind] using found

/-- Only a header that names the method in use has no fault. -/
theorem methodFault?_eq_none {fields : List (String × Value)} :
    methodFault? fields = none ↔ getField? "alg" fields = some (.string tokenMethod) := by
  unfold methodFault?
  split
  · next name named =>
    rw [named]
    simp only [Option.some.injEq, Value.string.injEq]
    split
    · next same => simp [same]
    · next other =>
      split <;> simp [other]
  · next other =>
    simp only [reduceCtorEq, false_iff]
    exact other tokenMethod

/-- Claims have no fault if the issuer is right and the time lies between beginning and end. -/
theorem Claims.faultsAt_eq_nil {held : Claims} :
    held.faultsAt now = [] ↔
      held.issuer = tokenIssuer ∧
        (∀ t, held.expiresAt = some t → now.nanoseconds < t.seconds * nanosPerSecond) ∧
        ∀ t, held.notBefore = some t → t.seconds * nanosPerSecond ≤ now.nanoseconds := by
  rw [faultsAt, List.append_eq_nil_iff, List.append_eq_nil_iff]
  refine (and_congr (and_congr ?expiry ?beginning) ?issuer).trans and_comm
  case expiry => cases held.expiresAt <;> simp [TokenTime.isAfter]
  case beginning => cases held.notBefore <;> simp [TokenTime.isAfter]
  case issuer =>
    split
    · next empty =>
      have missing : held.issuer = "" := String.isEmpty_iff.mp empty
      simp [missing, tokenIssuer]
    · split <;> simp [*]

/-- A token that was read passes all checks exactly if its parts are acceptable. -/
theorem checkToken_eq_ok {parts : TokenParts}
    (decoded : segmentBytes? parts.signatureSegment = some parts.signature) :
    checkToken parts.header parts.claims (signedBytes parts.headerSegment parts.claimsSegment)
        parts.signatureSegment key now = .ok () ↔ parts.Acceptable key now := by
  rw [checkToken]
  cases fault : methodFault? parts.header with
  | some fault =>
    have other : getField? "alg" parts.header ≠ some (.string tokenMethod) :=
      mt methodFault?_eq_none.mpr (by simp [fault])
    exact iff_of_false (by simp) fun acceptable => other acceptable.method
  | none =>
    have method := methodFault?_eq_none.mp fault
    simp only [decoded, orFail, bind, Except.bind]
    by_cases signed : parts.signature =
        keyedHash key (signedBytes parts.headerSegment parts.claimsSegment)
    · rw [bne_eq_false_iff_eq.mpr signed, if_neg Bool.false_ne_true]
      refine Iff.trans (b := parts.claims.faultsAt now = []) ?_ (Claims.faultsAt_eq_nil.trans ?_)
      · cases parts.claims.faultsAt now <;> simp
      constructor
      · rintro ⟨issued, unexpired, begun⟩
        exact ⟨method, signed, issued, unexpired, begun⟩
      · intro acceptable
        exact ⟨acceptable.issued, acceptable.unexpired, acceptable.begun⟩
    · rw [if_pos (bne_iff_ne.mpr signed)]
      exact iff_of_false (by simp) fun acceptable => signed acceptable.signed

/-- A token that passes all checks has a hash that can be read. -/
theorem exists_signature_of_checkToken {fields : List (String × Value)} {held : Claims}
    (checked : checkToken fields held header segment key now = .ok ()) :
    ∃ decoded, segmentBytes? segment = some decoded := by
  unfold checkToken at checked
  split at checked
  · cases checked
  · cases found : segmentBytes? segment with
    | some decoded => exact ⟨decoded, rfl⟩
    | none =>
      rw [found] at checked
      cases checked

end Reading

section Acceptance

/-- A reading that failed says why, and its token is not valid. -/
def TokenReading.Failed (reading : TokenReading) : Prop :=
  (∃ fault, reading.fault = some fault) ∧ ∀ token, reading.token = some token → token.valid = false

/-- A reading that stopped has failed. -/
theorem TokenReading.failed_stopped (claims : Option HeldClaims) (fault : TokenFault) :
    (stopped claims fault).Failed := by
  refine ⟨⟨fault, rfl⟩, ?_⟩
  rintro _ ⟨⟩
  rfl

/-- The segments of a token are those of its parts. -/
theorem TokenParts.Make.segments {token : List UInt8} {parts : TokenParts}
    (make : parts.Make token) :
    tokenSegments token = [parts.headerSegment, parts.claimsSegment, parts.signatureSegment] :=
  tokenSegments_eq_three.mpr ⟨make.joined, make.dotless⟩

/-- A token is read to its end exactly if it has acceptable parts. -/
theorem readToken_cases (token key : List UInt8) (now : Instant) :
    (∃ parts : TokenParts, parts.Make token ∧ parts.Acceptable key now ∧
        readToken token key now = ⟨some ⟨some (.read parts.claims), true⟩, none⟩) ∨
      (∀ parts : TokenParts, parts.Make token → ¬parts.Acceptable key now) ∧
        (readToken token key now).Failed := by
  rw [readToken]
  split
  · next headerSegment claimsSegment signatureSegment segments =>
    -- The segments leave one choice of parts only, so a step that fails leaves none.
    have same (parts : TokenParts) (make : parts.Make token) :
        parts.headerSegment = headerSegment ∧ parts.claimsSegment = claimsSegment ∧
          parts.signatureSegment = signatureSegment := by
      simpa using make.segments.symm.trans segments
    cases headed : readHeader headerSegment with
    | error fault =>
      refine .inr ⟨fun parts make _ => ?_, TokenReading.failed_stopped none fault⟩
      have read := readHeader_eq_ok.mpr make.header
      rw [(same parts make).1, headed] at read
      cases read
    | ok header =>
      cases claimed : readClaims claimsSegment with
      | error fault =>
        refine .inr ⟨fun parts make _ => ?_, TokenReading.failed_stopped _ fault⟩
        have read := readClaims_eq_ok.mpr make.claims
        rw [(same parts make).2.1, claimed] at read
        cases read
      | ok claims =>
        dsimp only
        cases checked : checkToken header claims (signedBytes headerSegment claimsSegment)
            signatureSegment key now with
        | error fault =>
          refine .inr ⟨fun parts make acceptable => ?_, TokenReading.failed_stopped _ fault⟩
          obtain ⟨rfl, rfl, rfl⟩ := same parts make
          have sameHeader := headed.symm.trans (readHeader_eq_ok.mpr make.header)
          have sameClaims := claimed.symm.trans (readClaims_eq_ok.mpr make.claims)
          obtain rfl := Except.ok.inj sameHeader
          obtain rfl := Except.ok.inj sameClaims
          rw [(checkToken_eq_ok make.signature).mpr acceptable] at checked
          cases checked
        | ok _ =>
          obtain ⟨signature, decoded⟩ := exists_signature_of_checkToken checked
          obtain ⟨joined, dotless⟩ := tokenSegments_eq_three.mp segments
          let parts : TokenParts :=
            ⟨headerSegment, claimsSegment, signatureSegment, header, claims, signature⟩
          have make : parts.Make token :=
            ⟨joined, dotless, readHeader_eq_ok.mp headed, readClaims_eq_ok.mp claimed, decoded⟩
          exact .inl ⟨parts, make, (checkToken_eq_ok make.signature).mp checked, rfl⟩
  · next other =>
    refine .inr ⟨fun parts make _ => ?_, ⟨_, rfl⟩, fun _ none => nomatch none⟩
    exact other _ _ _ make.segments

/-- A token is accepted exactly when it should be, whatever the text, the key and the time: when
its segments decode, its header names the method in use, its hash is right, and its claims name
the issuer and hold now. The claims that are answered are then those of the token, and no fault is
named. Every other token is refused for a fault, also one that was not read as far as its claims. -/
theorem token_accepted_iff (token key : List UInt8) (now : Instant) :
    let verdict := judgeToken token key now
    (verdict.valid = true ↔
      ∃ parts : TokenParts, parts.Make token ∧ parts.Acceptable key now) ∧
    ((∃ parts : TokenParts, parts.Make token ∧ parts.Acceptable key now ∧
        verdict = ⟨some (.read parts.claims), true, none⟩) ∨
      ∃ claims fault, verdict = ⟨claims, false, some fault⟩) := by
  intro verdict
  rcases readToken_cases token key now with ⟨parts, make, acceptable, read⟩ | ⟨unacceptable, failed⟩
  · have accepted : verdict = ⟨some (.read parts.claims), true, none⟩ := by
      simp [verdict, judgeToken, read]
    rw [accepted]
    exact ⟨iff_of_true rfl ⟨parts, make, acceptable⟩, .inl ⟨parts, make, acceptable, rfl⟩⟩
  · obtain ⟨⟨fault, named⟩, invalid⟩ := failed
    have refused : ∃ claims, verdict = ⟨claims, false, some fault⟩ := by
      cases held : (readToken token key now).token with
      | none => exact ⟨none, by simp [verdict, judgeToken, held, named]⟩
      | some stopped => exact ⟨stopped.claims, by simp [verdict, judgeToken, held, named]⟩
    obtain ⟨claims, refused⟩ := refused
    rw [refused]
    refine ⟨iff_of_false Bool.false_ne_true ?_, .inr ⟨claims, fault, rfl⟩⟩
    rintro ⟨parts, make, acceptable⟩
    exact unacceptable parts make acceptable

/-- A token under the key `sign` that expires a tenth of a nanosecond before 1970. -/
def epochToken : String :=
  "eyJhbGciOiJIUzI1NiJ9.eyJpc3MiOiJleHByZXNzaW9uLW1vbmdvIiwiZXhwIjotMWUtMTB9." ++
    "1MdqUaErejhFWw0_uvK8D2XMuAdRe402DGD1NV3mBXk"

/-- The fraction of this expiry is cut off: the token is accepted up to the last nanosecond before
1970, where it has acceptable parts, and has none from the start of 1970 on. -/
theorem token_accepted_before_epoch :
    let token := utf8Bytes epochToken.toList
    let key := utf8Bytes "sign".toList
    let start := Instant.ofUnixSeconds 0
    (judgeToken token key (start.addNanos (-1))).valid = true ∧
      (∃ parts : TokenParts, parts.Make token ∧ parts.Acceptable key (start.addNanos (-1))) ∧
      ¬∃ parts : TokenParts, parts.Make token ∧ parts.Acceptable key start := by
  intro token key start
  have judged : (judgeToken token key (start.addNanos (-1))).valid = true ∧
      (judgeToken token key start).valid = false := by decide +kernel
  obtain ⟨accepted, refused⟩ := judged
  refine ⟨accepted, (token_accepted_iff token key _).1.mp accepted, fun acceptable => ?_⟩
  have valid := (token_accepted_iff token key start).1.mpr acceptable
  rw [refused] at valid
  cases valid

end Acceptance
end RankFormula
