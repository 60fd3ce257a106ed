import RankFormula.Json.Basic
import RankFormula.Text.Percent

/-!
# Requests and responses

A request names a target: a path, percent-encoded, and perhaps a query after the
first question mark. Header names do not depend on case. A response carries a JSON
value or a text, the tag of its request, and for a redirect the new location.
-/

namespace RankFormula

/-- A request. -/
structure Request where
  /-- The method. -/
  method : String
  /-- The path and the query. -/
  target : String
  /-- Names and values of the headers. -/
  headers : List (String × String)
  /-- The payload. -/
  body : String
  /-- Whether the length of the payload was left open. -/
  lengthOpen : Bool

namespace Request

/-- The value of a header; empty if it is not there. -/
def header (request : Request) (name : String) : String :=
  let folded (s : String) := s.toList.map Char.toLower
  ((request.headers.find? fun h => folded h.1 == folded name).map Prod.snd).getD ""

/-- The path as it was sent. -/
def rawPath (request : Request) : List Char := request.target.toList.takeWhile (· != '?')

/-- The query as it was sent, if there is one. -/
def rawQuery? (request : Request) : Option (List Char) :=
  match request.target.toList.dropWhile (· != '?') with
  | [] => none
  | _ :: query => some query

/-- The path without percent encoding. -/
def path (request : Request) : RawText :=
  match percentDecode? request.rawPath with
  | some bytes => .ofBytes bytes
  | none => .ofChars request.rawPath

/-- Whether the request says that it carries nothing. -/
def declaresNoBody (request : Request) : Bool := !request.lengthOpen && request.body.isEmpty

/-- The media type of the payload, without its parameters. -/
def contentType (request : Request) : String :=
  String.ofList ((request.header "Content-Type").toList.takeWhile fun c => c != ' ' && c != ';')

end Request

/-- The tag by which a request is followed through the logs. -/
inductive RequestTag where
  /-- The one the caller chose. -/
  | given (id : String)
  /-- A fresh one. -/
  | fresh
  deriving DecidableEq, Repr

/-- What a response carries. -/
inductive Body where
  /-- A JSON value. -/
  | json (value : Json)
  /-- A text. -/
  | text (value : String)

/-- A response. -/
structure Response where
  /-- The status code. -/
  status : Nat
  /-- What it carries. -/
  body : Body
  /-- The tag of the request, if it was tagged. -/
  tag : Option RequestTag
  /-- Where the caller is sent to. -/
  location : Option String

namespace Response

/-- A response with a JSON value. -/
def json (status : Nat) (value : Json) : Response := ⟨status, .json value, none, none⟩

/-- A response with a text. -/
def text (status : Nat) (value : String) : Response := ⟨status, .text value, none, none⟩

/-- A response with a JSON value if it can be written, and without a body otherwise. -/
def ofJson? (status : Nat) : Option Json → Response
  | some value => json status value
  | none => text status ""

/-- A response that names what is wrong. -/
def failure (status : Nat) (message : String) : Response :=
  json status (.object [("error", .string message)])

/-- The response to a tagged request. -/
def withTag (response : Response) (tag : Option RequestTag) : Response :=
  { response with tag := tag }

end Response
end RankFormula
