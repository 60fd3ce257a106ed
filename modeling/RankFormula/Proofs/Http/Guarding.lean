import RankFormula.Http.Guard
import RankFormula.Proofs.Text.Utf8

/-!
# What guards let through

Each guard accepts a request under a condition on the request, the parameters of its path and
what the guards before it found; `Access.check` is opened here and nowhere else. A chain of
guards lets a request through exactly if each guard accepts what the ones before it left
(`Access.passes_cons`).
-/

namespace RankFormula

/-- The first parameter of a path, by its name. -/
@[simp] theorem parameter_cons_self (name : String) (value : RawText)
    (others : List (String × RawText)) : parameter ((name, value) :: others) name = value := by
  simp [parameter, getField?]

namespace Access

variable {access : Access} {now : Instant} {request : Request}
  {parameters : List (String × RawText)} {pass later : Pass}

/-- A request carries the key of a client. -/
def FromClient (access : Access) (request : Request) : Prop :=
  ∃ client ∈ access.clients, client.key ≠ "" ∧ request.header apiKeyHeader = client.key

/-- A request carries a token with the given claims, which is accepted at the time. -/
def Carries (access : Access) (now : Instant) (request : Request) (claims : Claims) : Prop :=
  ∃ token, request.token = .ok token ∧ validateToken token access.signKey now = .ok claims

/-- A client is found for the requests that carry its key. -/
theorem exists_client?_eq_some :
    (∃ client, access.client? (request.header apiKeyHeader) = some client) ↔
      access.FromClient request := by
  unfold client? FromClient
  rw [← Option.isSome_iff_exists, List.find?_isSome]
  simp only [Bool.and_eq_true, Bool.not_eq_true', String.isEmpty_eq_false_iff, beq_iff_eq,
    ne_eq, eq_comm (a := request.header apiKeyHeader)]

/-- The tag refuses nothing. -/
theorem check_requestTag :
    access.check now request parameters pass .requestTag =
      .ok { pass with tag := some request.tag } := rfl

/-- The key of a client is required, and its name is kept. -/
theorem check_apiKey_eq_ok :
    access.check now request parameters pass .apiKey = .ok later ↔
      ∃ client, access.client? (request.header apiKeyHeader) = some client ∧
        later = { pass with client := some client.name } := by
  rw [check]
  cases access.client? (request.header apiKeyHeader) <;> simp [eq_comm (a := later)]

/-- A payload is required, and it must be JSON. -/
theorem check_payload_eq_ok :
    access.check now request parameters pass .payload = .ok later ↔
      request.declaresNoBody = false ∧ request.contentType = "application/json" ∧
        later = pass := by
  rw [check]
  split
  · next absent => simp [absent]
  · next present =>
    split
    · next json => simp [present, json, eq_comm]
    · next other => simp [other]

/-- A token is required, and its claims are kept. -/
theorem check_token_eq_ok :
    access.check now request parameters pass .token = .ok later ↔
      ∃ claims, access.Carries now request claims ∧
        later = { pass with claims := some claims } := by
  unfold Carries
  rw [check]
  cases found : request.token with
  | error refusal => simp [bind, Except.bind]
  | ok token =>
    simp only [bind, Except.bind, Except.ok.injEq, exists_eq_left']
    cases validateToken token access.signKey now <;> simp [eq_comm]

/-- The instance must be served, and a token must be for it. -/
theorem check_servedInstance_eq_ok :
    access.check now request parameters pass .servedInstance = .ok later ↔
      ∃ instanceID, parameter parameters instanceParameter = .ofString instanceID ∧
        instanceID ∈ access.allowedInstances ∧
        (∀ claims, pass.claims = some claims → claims.instanceID = instanceID) ∧
        later = pass := by
  rw [check]
  simp only [← RawText.string?_eq_some]
  cases (parameter parameters instanceParameter).string? with
  | none => simp
  | some instanceID =>
    by_cases served : instanceID ∈ access.allowedInstances
    · cases pass.claims with
      | none => simp [served, eq_comm (a := later)]
      | some claims =>
        by_cases same : claims.instanceID = instanceID <;>
          simp [served, same, eq_comm (a := later)]
    · simp [served]

/-- The token of an administrator is required. -/
theorem check_admin_eq_ok :
    access.check now request parameters pass .admin = .ok later ↔
      (∃ claims, pass.claims = some claims ∧ claims.isAdmin = true) ∧ later = pass := by
  rw [check]
  cases pass.claims with
  | none => simp
  | some claims => cases admin : claims.isAdmin <;> simp [admin, eq_comm (a := later)]

/-- Guards let a request through as far as all of them accept it. -/
def Passes (access : Access) (now : Instant) (request : Request)
    (parameters : List (String × RawText)) (guards : List Guard) (pass last : Pass) : Prop :=
  access.askGuards now request parameters guards pass = (last, none)

/-- No guards let everything through. -/
theorem passes_nil {last : Pass} :
    access.Passes now request parameters [] pass last ↔ last = pass := by
  simp [Passes, askGuards, eq_comm]

/-- Guards let through what the first accepts and the others accept of it. -/
theorem passes_cons {guard : Guard} {guards : List Guard} {last : Pass} :
    access.Passes now request parameters (guard :: guards) pass last ↔
      ∃ later, access.check now request parameters pass guard = .ok later ∧
        access.Passes now request parameters guards later last := by
  unfold Passes
  rw [askGuards]
  cases access.check now request parameters pass guard with
  | ok later => simp
  | error refusal => simp

/-- One more guard in front that accepts. -/
theorem Passes.cons {guard : Guard} {guards : List Guard} {last : Pass}
    (accepted : access.check now request parameters pass guard = .ok later)
    (passes : access.Passes now request parameters guards later last) :
    access.Passes now request parameters (guard :: guards) pass last :=
  passes_cons.mpr ⟨later, accepted, passes⟩

end Access
end RankFormula
