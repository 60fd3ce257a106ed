import RankFormula.Http.Guard
import RankFormula.Http.Location
import RankFormula.Http.Query
import RankFormula.Http.Route
import RankFormula.Store.Call

/-!
# Sites

A site is a list of guarded routes. Serving a request finds its route, asks the
guards, and leaves the rest to the endpoint, which may talk to the store.
-/

namespace RankFormula

/-- An endpoint behind guards. -/
structure Guarded (ε : Type) where
  /-- The guards, in the order asked. -/
  guards : List Guard
  /-- The endpoint. -/
  endpoint : ε

/-- A list of guarded routes. -/
structure Site (ε : Type) where
  /-- The routes. -/
  routes : List (Route (Guarded ε))
  /-- The guards of requests that lead nowhere. -/
  strayGuards : List Guard

/-- A request that reached an endpoint. -/
structure Visit where
  /-- The request. -/
  request : Request
  /-- The parameters of its path. -/
  parameters : List (String × RawText)
  /-- What the guards found out. -/
  pass : Pass

namespace Visit

/-- A parameter of the path. -/
def parameter (visit : Visit) (name : String) : RawText :=
  RankFormula.parameter visit.parameters name

/-- The query of the request. -/
def query (visit : Visit) : Query := .read (visit.request.rawQuery?.getD [])

end Visit

/-- How a request ends. -/
inductive Outcome where
  /-- It is answered. -/
  | answered (response : Response)
  /-- An endpoint needs a validated token, and no guard asked for one. -/
  | unguarded

/-- The outcome of a tagged request. -/
def Outcome.withTag (tag : Option RequestTag) : Outcome → Outcome
  | .answered response => .answered (response.withTag tag)
  | .unguarded => .unguarded

/-- The response that sends a caller to another path. Only a `GET` may move for good
and shows a page. -/
def movedResponse (request : Request) (path : RawText) : Response :=
  let location := locationOf (request.forwardedPath path) request.rawQuery?
  let header := some (headerLocation location)
  if request.method = "GET" then ⟨301, .text (movedPage location), none, header⟩
  else ⟨307, .text "", none, header⟩

/-- The response to a request that leads nowhere. -/
def missingResponse : Response := .text 404 "404 page not found"

namespace Site

variable {ε : Type}

/-- Serves a request. -/
def serve (site : Site ε) (access : Access) (now : Instant) (handle : ε → Visit → Session Outcome)
    (request : Request) : Session Outcome :=
  match destination site.routes request.method request.path with
  | .found route parameters =>
    match access.askGuards now request parameters route.endpoint.guards .start with
    | (pass, some refusal) => .done (.answered (refusal.toResponse.withTag pass.tag))
    | (pass, none) =>
      (handle route.endpoint.endpoint ⟨request, parameters, pass⟩).bind fun outcome =>
        .done (outcome.withTag pass.tag)
  | .moved path => .done (.answered (movedResponse request path))
  | .missing =>
    let (pass, _) := access.askGuards now request [] site.strayGuards .start
    .done (.answered (missingResponse.withTag pass.tag))

end Site
end RankFormula
