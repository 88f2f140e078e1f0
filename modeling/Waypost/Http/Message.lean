import Waypost.Http.Percent
import Waypost.Json.Document
import Waypost.Schema.Check
import Waypost.Service.Basic
import Waypost.Text.Split

/-!
# Requests as they come in

* `HttpRequest` -- method, path, query string, headers and body of a request;
* `Caller.of` -- who sent it;
* `Body` -- its body: JSON when its content type says so, else opaque.
-/

namespace Waypost

open Text

/-- A request as it comes in. -/
structure HttpRequest where
  method : String := "GET"
  path : String
  query : String := ""
  headers : List (String × String) := []
  body : String := ""
  client : Option String := none

namespace HttpRequest

/-- The first header of a name in any letter case. -/
def header? (request : HttpRequest) (name : String) : Option String :=
  (request.headers.find? fun header => lower header.1 == lower name).map (·.2)

/-- The values of the query string by key. -/
def grouped (request : HttpRequest) : Grouped := groupPairs (queryPairs request.query)

/-- The path as an address would hold it. Tabulators and line breaks are dropped, and the marks that
    begin a query and a fragment are escaped. -/
def addressPath (request : HttpRequest) : String :=
  String.ofList (request.path.toList.flatMap fun c =>
    if c == '\t' || c == '\r' || c == '\n' then []
    else if c == '#' || c == '?' then escapeBytes c
    else [c])

/-- The output type that the query string names last. -/
def outputType? (request : HttpRequest) : Option String :=
  (request.grouped.lookup "type").bind (·.getLast?)

end HttpRequest

/-- Who sent a request. -/
def Caller.of (request : HttpRequest) : Caller where
  address := request.client.getD ""
  agent := (request.header? "user-agent").getD ""
  locale := (request.header? "accept-language").getD ""

/-! ## 1. Bodies -/

/-- The body of a request. -/
inductive Body where
  | absent
  | opaqueBytes
  | json (value : Json)
  | malformed (index : Nat)
  | unreadable

/-- Whether a content type is one of JSON. Parameters do not count. -/
def isJsonType (contentType : String) : Bool :=
  let bare := lower (strip (String.ofList (contentType.toList.takeWhile (· != ';'))))
  match splitText '/' bare with
  | [main, sub] => main == "application" && (sub == "json" || sub.endsWith "+json")
  | _ => false

/-- The body of a request. -/
def HttpRequest.readBody (request : HttpRequest) : Body :=
  if request.body.isEmpty then .absent
  else if !((request.header? "content-type").any isJsonType) then .opaqueBytes
  else
    match Json.ofBytes (textBytes request.body) with
    | .ok value => .json value
    | .error (.noValue (.malformed _ index) _) => .malformed index
    | .error _ => .unreadable

/-- A check of the value of a body. -/
def Body.check (check : Json → Check α) : Body → Check α
  | .json value => check value
  | .absent => .violated .missing
  | _ => .violated .notObject

end Waypost
