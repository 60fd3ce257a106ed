import RankFormula.Text.RawText

/-!
# Routes

A route is a method and a pattern of path segments, some of which are parameters.
A parameter takes any segment, but at the end of a path it takes no empty one. A
path with one slash too many at its end is sent to the path without it.
-/

namespace RankFormula

/-- A segment of a pattern. -/
inductive Segment where
  /-- A fixed text. -/
  | exact (text : String)
  /-- Any text, under a name. -/
  | parameter (name : String)
  deriving DecidableEq, Repr

/-- How a segment is listed. -/
def Segment.render : Segment → String
  | .exact text => text
  | .parameter name => ":" ++ name

/-- A pattern of paths. -/
abbrev Pattern := List Segment

namespace Pattern

/-- How a pattern is listed. -/
def render (pattern : Pattern) : String :=
  "/" ++ String.intercalate "/" (pattern.map Segment.render)

/-- The parameters of segments that follow a pattern. -/
def parameters? : Pattern → List RawText → Option (List (String × RawText))
  | [], [] => some []
  | .exact text :: pattern, segment :: segments =>
    if .ofString text = segment then parameters? pattern segments else none
  | .parameter name :: pattern, segment :: segments =>
    (parameters? pattern segments).map ((name, segment) :: ·)
  | _, _ => none

/-- Whether a pattern ends with a parameter. -/
def endsWithParameter (pattern : Pattern) : Bool :=
  match pattern.getLast? with
  | some (.parameter _) => true
  | _ => false

/-- Whether segments follow a pattern, or its beginning up to one of its parameters. -/
def reaches (pattern : Pattern) (segments : List RawText) : Bool :=
  (parameters? pattern segments).isSome ||
    (List.range pattern.length).any fun n =>
      endsWithParameter (pattern.take n) && (parameters? (pattern.take n) segments).isSome

end Pattern

/-- The slash between segments. -/
def slash : Utf8Unit := .char '/'

/-- The segments of a path, which starts with a slash. -/
def pathSegments (path : RawText) : List RawText :=
  ((path.units.drop 1).splitOn slash).map RawText.mk

/-- A method and a pattern, and what happens there. -/
structure Route (ε : Type) where
  /-- The method. -/
  method : String
  /-- The pattern of its paths. -/
  pattern : Pattern
  /-- What happens there. -/
  endpoint : ε

namespace Route

variable {ε : Type}

/-- The parameters of a path on a route; a parameter at the end is never empty. -/
def parameters? (route : Route ε) (path : RawText) : Option (List (String × RawText)) :=
  let segments := pathSegments path
  if route.pattern.endsWithParameter && segments.getLast? == some (.ofString "") then none
  else route.pattern.parameters? segments

end Route

/-- Where a request leads. -/
inductive Destination (ε : Type) where
  /-- To a route, with parameters. -/
  | found (route : Route ε) (parameters : List (String × RawText))
  /-- To the path without its last slash. -/
  | moved (path : RawText)
  /-- Nowhere. -/
  | missing

/-- Whether a path could be mended by leaving out the slash at its end. -/
def hasExtraSlash {ε : Type} (routes : List (Route ε)) (path : RawText) : Bool :=
  path.units != [slash] && path.units.getLast? == some slash &&
    routes.any fun route => route.pattern.reaches (pathSegments path.withoutLast)

/-- Where a method and a path lead. -/
def destination {ε : Type} (routes : List (Route ε)) (method : String) (path : RawText) :
    Destination ε :=
  let candidates := routes.filter fun route => route.method = method
  match candidates.findSome? fun route => (route.parameters? path).map (route, ·) with
  | some (route, parameters) => .found route parameters
  | none => if hasExtraSlash candidates path then .moved path.withoutLast else .missing

/-- Inserts a route's line into lines ordered by path and then by method. -/
def insertLine (line : String × String) : List (String × String) → List (String × String)
  | [] => [line]
  | other :: rest =>
    if other.2 < line.2 ∨ (other.2 = line.2 ∧ other.1 ≤ line.1) then other :: insertLine line rest
    else line :: other :: rest

/-- The list of routes, each given by its method and its path, a line each, ordered by
path and then by method. -/
def routeList (routes : List (String × String)) : String :=
  String.join
    ((routes.foldl (fun sorted line => insertLine line sorted) []).map fun line =>
      line.1 ++ "\t" ++ line.2 ++ "\n")

end RankFormula
