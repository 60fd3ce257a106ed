import RankFormula.Api.Config
import RankFormula.Proofs.Api.Serving
import RankFormula.Proofs.Auth.Issuing

/-!
# A service without a sign key

Nobody is issued a token under an empty key, and clients without a key are no clients. A service
whose sign key was never set nevertheless judges tokens under the empty key, and such tokens can be
made from what is public: `unkeyed_service_admits_forged_tokens` shows that everyone may save
and delete in every instance that it serves.
-/

namespace RankFormula

/-- A text without white space is left as it is. -/
theorem trimBlanks_eq_self {cs : List Char} (solid : ∀ c ∈ cs, isBlank c = false) :
    trimBlanks cs = cs := by
  have front (ds : List Char) (within : ∀ c ∈ ds, c ∈ cs) : ds.dropWhile isBlank = ds := by
    cases ds with
    | nil => rfl
    | cons d ds => simp [solid d (within d List.mem_cons_self)]
  rw [trimBlanks, front cs fun _ member => member,
    front cs.reverse fun _ member => List.mem_reverse.mp member, List.reverse_reverse]

namespace TokenRequest

/-- There is no white space in a token. -/
theorem isBlank_of_mem_token (request : TokenRequest) (key : String) :
    ∀ c ∈ (request.token key).toList, isBlank c = false := by
  have alphabet : ∀ n < 64, isBlank (base64Char n) = false := by decide
  have segment (bytes : List UInt8) : ∀ c ∈ base64Encode bytes, isBlank c = false := by
    intro c member
    obtain ⟨n, small, rfl⟩ := mem_base64Encode member
    exact alphabet n small
  intro c member
  rw [token, String.toList_ofList, List.mem_append, List.mem_cons, List.mem_append,
    List.mem_cons] at member
  rcases member with header | rfl | claims | rfl | signature
  · exact segment _ c header
  · decide
  · exact segment _ c claims
  · decide
  · exact segment _ c signature

/-- A token behind its mark is found in a request. -/
theorem token_of_bearer {request : Request} {issued : TokenRequest} {key : String}
    (bearer : request.header authorizationHeader = "Bearer " ++ issued.token key) :
    request.token = .ok (issued.token key) := by
  have marked : ("Bearer " ++ issued.token key).toList = bearerMark ++ (issued.token key).toList :=
    String.toList_append
  have held : ((issued.token key).toList).isEmpty = false := by
    rw [token, String.toList_ofList, List.isEmpty_eq_false_iff]
    exact List.append_ne_nil_of_right_ne_nil _ (List.cons_ne_nil _ _)
  have front : bearerMark.isPrefixOf (bearerMark ++ (issued.token key).toList) = true :=
    List.isPrefixOf_iff_prefix.mpr (List.prefix_append _ _)
  have present : (bearerMark ++ (issued.token key).toList).isEmpty = false := rfl
  simp only [Request.token, bearer, marked, present, Bool.false_eq_true, if_false, front, if_true,
    List.drop_left, trimBlanks_eq_self (isBlank_of_mem_token issued key), held,
    String.ofList_toList]

/-- A token that has not expired is valid under the key that signed it. -/
theorem validateToken_token {request : TokenRequest} (datable : request.Datable) {now : Instant}
    (unexpired : now.nanoseconds <
      (request.issuedAt.nanoseconds + request.lifetime) / nanosPerSecond * nanosPerSecond)
    (key : String) : validateToken (request.token key) key now = .ok request.claims := by
  rw [validateToken, judgeToken_token datable, if_pos unexpired]
  rfl

end TokenRequest

/-- A service has no sign key if neither its configuration nor its environment sets one. -/
theorem ServiceConfig.signKey_withSecrets {config : ServiceConfig} {environment : Environment}
    (unset : config.signKey = "")
    (unnamed : (environment.value? "MANAGEMENT_USER_JWT_SIGN_KEY").getD "" = "") :
    (config.withSecrets environment).api.access.signKey = "" := by
  show overrideFrom (environment.value? "MANAGEMENT_USER_JWT_SIGN_KEY") config.signKey = ""
  cases found : environment.value? "MANAGEMENT_USER_JWT_SIGN_KEY" with
  | none => exact unset
  | some value =>
    rw [found, Option.getD_some] at unnamed
    rw [overrideFrom, unnamed]
    exact unset

section Forgery

variable {access : Access} {now : Instant} {request : Request} {forged : TokenRequest}

/-- A request with a token under the sign key may edit the instance of the token. -/
theorem TokenRequest.mayEdit {rest : List RawText} (datable : forged.Datable)
    (unexpired : now.nanoseconds <
      (forged.issuedAt.nanoseconds + forged.lifetime) / nanosPerSecond * nanosPerSecond)
    (served : forged.instanceID ∈ access.allowedInstances)
    (bearer : request.header authorizationHeader = "Bearer " ++ forged.token access.signKey)
    (path : pathSegments request.path = instancePath forged.instanceID rest) :
    access.MayEdit now request forged.instanceID rest forged.claims where
  carried := ⟨_, token_of_bearer bearer, validateToken_token datable unexpired _⟩
  sameInstance := rfl
  served := served
  path := path

end Forgery

namespace Api

/-- A service whose sign key was never set accepts tokens that anybody can make: no secret goes
into a token under the empty key, which nobody would be issued. Until it expires, such a token
admits its bearer to every served instance, as any user: a save reaches the endpoint that saves
and, if the token says so, a delete the endpoint that deletes. -/
theorem unkeyed_service_admits_forged_tokens {config : ServiceConfig} {environment : Environment}
    (unset : config.signKey = "")
    (unnamed : (environment.value? "MANAGEMENT_USER_JWT_SIGN_KEY").getD "" = "")
    {forged : TokenRequest} (datable : forged.Datable) {now : Instant}
    (unexpired : now.nanoseconds <
      (forged.issuedAt.nanoseconds + forged.lifetime) / nanosPerSecond * nanosPerSecond)
    (served : forged.instanceID ∈ config.allowedInstances.getD []) :
    let api := (config.withSecrets environment).api
    forged.sign "" = .error .keyMissing ∧
    judgeToken (utf8Bytes (forged.token "").toList) (utf8Bytes api.access.signKey.toList) now =
      ⟨some (.read forged.claims), true, none⟩ ∧
    ∀ request : Request,
      request.header authorizationHeader = "Bearer " ++ forged.token "" →
      (request.method = "POST" →
        pathSegments request.path = instancePath forged.instanceID [.ofString "formulas"] →
        request.declaresNoBody = false → request.contentType = "application/json" →
        api.respond now request = tagged (some request.tag)
          (api.saveFormula forged.claims forged.instanceID request.body)) ∧
      ∀ key : RawText, key ≠ .ofString "" → request.method = "DELETE" →
        pathSegments request.path = instancePath forged.instanceID [.ofString "formulas", key] →
        forged.isAdmin = true →
        api.respond now request =
          tagged (some request.tag) (deleteFormula forged.instanceID key) := by
  intro api
  have unkeyed : api.access.signKey = "" := ServiceConfig.signKey_withSecrets unset unnamed
  refine ⟨rfl, ?_, fun request bearer => ⟨?_, ?_⟩⟩
  · rw [unkeyed, TokenRequest.judgeToken_token datable, if_pos unexpired]
  · intro method path present json
    rw [← unkeyed] at bearer
    exact respond_saveFormula method (TokenRequest.mayEdit datable unexpired served bearer path)
      present json
  · intro key named method path admin
    rw [← unkeyed] at bearer
    exact respond_deleteFormula method (TokenRequest.mayEdit datable unexpired served bearer path)
      named admin

/-- A service of `blog` for which no key was ever set. -/
def unkeyedBlog : ServiceConfig := { ServiceConfig.blank with allowedInstances := some ["blog"] }

/-- What somebody else claims to be: an administrator of `blog`, for a minute in 2024. -/
def forgedAdmin : TokenRequest := ⟨"mallory", "blog", true, .ofUnixSeconds 1714521600, 60000000000⟩

/-- A delete of the formula `hot` of `blog` with the forged token. -/
def forgedDelete : Request :=
  ⟨"DELETE", "/v1/instances/blog/formulas/hot",
    [("Authorization", "Bearer " ++ forgedAdmin.token "")], "", false⟩

/-- The forged token is accepted, and the delete reaches its endpoint. -/
theorem unkeyed_blog_admits_forged_delete :
    unkeyedBlog.signKey = "" ∧ forgedAdmin.Datable ∧
      (judgeToken (utf8Bytes (forgedAdmin.token "").toList)
        (utf8Bytes (unkeyedBlog.withSecrets []).api.access.signKey.toList)
        forgedAdmin.issuedAt).valid = true ∧
      (unkeyedBlog.withSecrets []).api.respond forgedAdmin.issuedAt forgedDelete =
        tagged (some forgedDelete.tag) (deleteFormula "blog" (.ofString "hot")) := by
  have datable : forgedAdmin.Datable := TokenRequest.datable_of_words (by decide) (by decide)
  have served : forgedAdmin.instanceID ∈ unkeyedBlog.allowedInstances.getD [] := by decide
  have bearer : forgedDelete.header authorizationHeader = "Bearer " ++ forgedAdmin.token "" := by
    simp [forgedDelete, Request.header, authorizationHeader]
  obtain ⟨-, judged, admits⟩ := @unkeyed_service_admits_forged_tokens unkeyedBlog [] rfl rfl
    forgedAdmin datable forgedAdmin.issuedAt (by decide) served
  refine ⟨rfl, datable, congrArg TokenVerdict.valid judged, ?_⟩
  exact (admits forgedDelete bearer).2 (.ofString "hot") (by decide) rfl (by decide) rfl

end Api
end RankFormula
