import RankFormula.Api.Formulas
import RankFormula.Api.Ranking

/-!
# The service

All routes of the service and what their endpoints do. Endpoints that only read
stand behind the key of a client, those that write behind a management token.
-/

namespace RankFormula

/-- What the service offers. -/
inductive Endpoint where
  /-- Says that the service runs. -/
  | health
  /-- Lists what formulas are made of. -/
  | grammar
  /-- Validates an expression. -/
  | validate
  /-- Compiles an expression. -/
  | compile
  /-- Lists the formulas of an instance. -/
  | formulas
  /-- Reads a formula. -/
  | formula
  /-- Ranks the posts of an instance. -/
  | rankedPosts
  /-- Saves a formula. -/
  | saveFormula
  /-- Deletes a formula. -/
  | deleteFormula
  deriving DecidableEq, Repr

namespace Endpoint

/-- The guards in front of an endpoint. -/
def guards : Endpoint → List Guard
  | .health => [.requestTag]
  | .grammar => [.requestTag, .apiKey]
  | .validate => [.requestTag, .apiKey, .payload]
  | .compile => [.requestTag, .apiKey, .payload]
  | .formulas => [.requestTag, .apiKey, .servedInstance]
  | .formula => [.requestTag, .apiKey, .servedInstance]
  | .rankedPosts => [.requestTag, .apiKey, .servedInstance]
  | .saveFormula => [.requestTag, .token, .servedInstance, .payload]
  | .deleteFormula => [.requestTag, .token, .servedInstance, .admin]

/-- The pattern of the paths of one instance, followed by more segments. -/
def instancePattern (rest : Pattern) : Pattern :=
  .exact "v1" :: .exact "instances" :: .parameter instanceParameter :: rest

/-- The pattern of the paths that lead to an endpoint. -/
def pattern : Endpoint → Pattern
  | .health => [.exact ""]
  | .grammar => [.exact "v1", .exact "expressions", .exact "grammar"]
  | .validate => [.exact "v1", .exact "expressions", .exact "validate"]
  | .compile => [.exact "v1", .exact "expressions", .exact "compile"]
  | .formulas => instancePattern [.exact "formulas"]
  | .formula => instancePattern [.exact "formulas", .parameter keyParameter]
  | .rankedPosts => instancePattern [.exact "posts", .exact "ranked"]
  | .saveFormula => instancePattern [.exact "formulas"]
  | .deleteFormula => instancePattern [.exact "formulas", .parameter keyParameter]

/-- The method by which an endpoint is reached. -/
def method : Endpoint → String
  | .validate => "POST"
  | .compile => "POST"
  | .saveFormula => "POST"
  | .deleteFormula => "DELETE"
  | _ => "GET"

/-- All endpoints. -/
def all : List Endpoint :=
  [.health, .grammar, .validate, .compile, .formulas, .formula, .rankedPosts, .saveFormula,
    .deleteFormula]

/-- The route to an endpoint. -/
def route (endpoint : Endpoint) : Route (Guarded Endpoint) :=
  ⟨endpoint.method, endpoint.pattern, ⟨endpoint.guards, endpoint⟩⟩

end Endpoint

/-- The site of the service. -/
def serviceSite : Site Endpoint := ⟨Endpoint.all.map Endpoint.route, [.requestTag]⟩

/-- The list of the service's routes. -/
def serviceRouteList : String :=
  routeList (serviceSite.routes.map fun route => (route.method, route.pattern.render))

namespace Api

/-- Goes on with the claims of the validated token. -/
def withClaims (visit : Visit) (answer : Claims → Session Response) : Session Outcome :=
  match visit.pass.claims with
  | some claims => Outcome.answered <$> answer claims
  | none => .done .unguarded

/-- What an endpoint does with a request. -/
def handle (api : Api) (endpoint : Endpoint) (visit : Visit) : Session Outcome :=
  let instanceID := (visit.parameter instanceParameter).toString
  let key := visit.parameter keyParameter
  match endpoint with
  | .health => .done (.answered (.json 200 (.object [("status", .string "ok")])))
  | .grammar => .done (.answered api.grammar)
  | .validate => .done (.answered (withExpression visit api.validateText))
  | .compile => .done (.answered (withExpression visit api.compileText))
  | .formulas =>
    Outcome.answered <$> listFormulas instanceID (visit.query.text "onlyValid" == .ofString "true")
  | .formula => Outcome.answered <$> readFormula instanceID key
  | .rankedPosts => Outcome.answered <$> api.rankedPosts instanceID visit.query
  | .saveFormula =>
    withClaims visit fun claims => api.saveFormula claims instanceID visit.request.body
  | .deleteFormula => withClaims visit fun _ => deleteFormula instanceID key

/-- Serves a request to the service. -/
def respond (api : Api) (now : Instant) (request : Request) : Session Outcome :=
  serviceSite.serve api.access now api.handle request

end Api
end RankFormula
