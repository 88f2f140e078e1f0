import Waypost.Http.Endpoint
import Waypost.Http.Message
import Waypost.Json.Writer
import Waypost.Schema.Body
import Waypost.Schema.Query
import Waypost.Service.Batch
import Waypost.Service.Route

/-!
# The gateway over HTTP

* `Service.answer` -- the answer of an endpoint that needs the service;
* `sendable` -- a response whose content can be written and encoded;
* `settled` -- an answer or, after a fault, its error document; an answer that cannot be sent is a
  fault as well;
* `App`, `App.of` and `App.answer` -- the whole application. A service that was not given is
  started by the first request that needs it and kept.
-/

namespace Waypost

/-! ## 1. Small answers -/

/-- A response that only says why there is no other. -/
def detailResponse (status : Nat) (text : String) : Response :=
  .ofJson status (.obj [("detail", .str text)])

/-- The answer at the root. -/
def rootResponse (settings : Settings) : Response :=
  .ofJson 200 (.obj [("service", .str settings.appName), ("status", .str "running"),
    ("api_prefix", .str settings.apiPrefix), ("health", .str (settings.apiPrefix ++ "/health")),
    ("docs", .str "/docs")])

/-- The answer that the application itself is well. -/
def healthResponse : Response := .ofJson 200 (.obj [("status", .str "ok")])

/-- The answer that sends the caller to the same path with the other ending. -/
def redirectResponse : Response := ⟨307, .text "", none, []⟩

/-! ## 2. Endpoints -/

/-- The value of a check, or a refusal that lists all issues. -/
def checked : Check α → Except Fault α
  | .passed value => .ok value
  | .failed issues => .error (.refused (.invalidInput (issuesText issues)))
  | .broken cause => .error (.unexpected cause)

namespace Service

/-- Whether the engine answers. -/
def engineHealth (service : Service) : Run Response := do
  match ← (checkHealth service.engine).attempt with
  | .ok healthy =>
    return .ofJson 200 (.obj [("service", .str "engine"), ("healthy", .bool healthy)])
  | .error fault =>
    let text ← fault.text
    return .ofJson 200
      (.obj [("service", .str "engine"), ("healthy", .bool false), ("error", .str text)])

/-- Checks and answers a query for one route. -/
def answerQuery (service : Service) (request : HttpRequest) (bound : Members) (clock : Clock) :
    Run Response := do
  let q ← checked (RouteQuery.check ⟨request.grouped, bound⟩)
  service.routeQuery q request.grouped (Caller.of request) clock

/-- Checks and answers a body for one route. -/
def answerBody (service : Service) (request : HttpRequest) (body : Body) (clock : Clock) :
    Run Response := do
  service.routeBody (← checked (body.check (RouteBody.check .byFields))) (Caller.of request) clock

/-- Checks and answers a batch. -/
def answerBulk (service : Service) (request : HttpRequest) (bound : Members) (body : Body)
    (clock : Clock) : Run Response := do
  let (q, bulk) ← checked (Prod.mk <$> BulkQuery.check ⟨request.grouped, bound⟩
    <*> body.check (BulkRequest.check .byFields))
  service.routeBulk bulk q request.grouped clock

/-- The answer of an endpoint to a request whose path binds some names. In what the service tells
    about itself null stands for numbers that JSON cannot express. -/
def answer (service : Service) (endpoint : ServiceEndpoint) (request : HttpRequest)
    (bound : Members) (body : Body) (clock : Clock) : Run Response :=
  match endpoint with
  | .engineHealth => service.engineHealth
  | .info => pure (.ofJson 200 service.info.finiteOnly)
  | .routeQuery => service.answerQuery request bound clock
  | .routeBody => service.answerBody request body clock
  | .bulk => service.answerBulk request bound body clock

end Service

/-! ## 3. Faults -/

/-- The text that a response carries. -/
def Content.written : Content → Except Fault String
  | .document json => json.written
  | .text s => .ok s

/-- A response that can be sent: what it carries can be written, and the text of it encoded. -/
def sendable (response : Response) : Except Fault Response := do
  checkEncoded (← response.content.written)
  return response

/-- The answer to a request that broke down. There is none when not even the breakdown can be
    told. -/
def brokenDown (path : String) (fault : Fault) : Run Response := do
  Run.log .error ("Unhandled error on " ++ path ++ ": " ++ fault.text.toOption.getD "")
  sendable (.ofJson 500 (errorsJsonFrom fault []))

/-- The headers about the origin of a request, where origins are configured. -/
def originHeaders (allowed : List String) (request : HttpRequest) : List (String × String) :=
  if allowed.isEmpty then []
  else
    match request.header? "origin" with
    | none => [("Vary", "Origin")]
    | some origin =>
      let listed := allowed.contains "*" || allowed.contains origin
      [("Vary", "Origin"), ("Access-Control-Allow-Credentials", "true")]
        ++ if listed then [("Access-Control-Allow-Origin", origin)] else []

/-- A response with the headers about the origin of its request. -/
def withOrigin (settings : Settings) (request : HttpRequest) (response : Response) : Response :=
  { response with
    headers := response.headers ++ originHeaders settings.frontendAllowedOrigins request }

/-- The error document of a fault that has a classification of its own. -/
def faultResponse (settings : Settings) (request : HttpRequest) (fault : Fault) :
    Except Fault Response := do
  if !fault.isClassified then throw fault
  sendable (← errorResponse [fault] request.outputType? settings.gpxCreator)

/-- An answer that was given, or the error document of the fault that prevented it. -/
def settled (settings : Settings) (request : HttpRequest) (answer : Run Response) :
    Run Response := do
  match ← (do sendable (← answer) : Run Response).attempt with
  | .ok response => return withOrigin settings request response
  | .error fault =>
    match faultResponse settings request fault with
    | .ok response => return withOrigin settings request response
    | .error cause => brokenDown request.addressPath cause

/-! ## 4. The application -/

/-- The application: its settings, the start of its paths, the service if there is one yet, and how
    to start it. -/
structure App where
  settings : Settings
  paths : PathPattern
  service : Option Service := none
  start : Run Service

namespace App

/-- An application. The start of its paths has to be a pattern. -/
def of (settings : Settings) (service : Option Service) (start : Run Service) : Except Fault App :=
  match startPattern settings.apiPrefix with
  | .ok paths => .ok { settings, paths, service, start }
  | .error why => .error (.unexpected (.pathPattern why))

/-- Whether it is known where the engine is. -/
def configured (app : App) : Bool := app.settings.engineBaseUrl.any fun url => !url.isEmpty

/-- Answers with the service, which is started where there is none yet. -/
def withService (app : App) (answer : Service → Run Response) : Run Response × App :=
  match app.service with
  | some service => (answer service, app)
  | none =>
    if !app.configured then
      (pure (detailResponse 503 "Routing engine is not configured. Set RG_ENGINE_BASE_URL."), app)
    else (app.start >>= answer, { app with service := app.start.result.toOption })

/-- The answer to a body that cannot be read. -/
def unreadableBody? : Body → Option (Run Response)
  | .malformed index =>
    let issue : Issue := ⟨[.index index], .unreadableJson⟩
    some (Run.fail (.refused (.invalidInput issue.text)))
  | .unreadable => some (pure (detailResponse 400 "There was an error parsing the body"))
  | _ => none

/-- The answer of an endpoint. A body is read before the service is looked for. -/
def answerEndpoint (app : App) (endpoint : Endpoint) (request : HttpRequest) (bound : Members)
    (clock : Clock) : Run Response × App :=
  match endpoint with
  | .root => (pure (rootResponse app.settings), app)
  | .health => (pure healthResponse, app)
  | .service e =>
    let body := if e.takesBody then request.readBody else .absent
    match unreadableBody? body with
    | some response => (response, app)
    | none => app.withService fun service => service.answer e request bound body clock

/-- The answer to a request, and the application after it. -/
def answer (app : App) (request : HttpRequest) (clock : Clock) : Run Response × App :=
  let (response, after) :=
    match findEndpoint app.paths request.method request.path with
    | .error fault => (Run.fail fault, app)
    | .ok (.found endpoint bound) => app.answerEndpoint endpoint request bound clock
    | .ok .wrongMethod => (pure (detailResponse 405 "Method Not Allowed"), app)
    | .ok .otherSlash => (pure redirectResponse, app)
    | .ok .nowhere => (pure (detailResponse 404 "Not Found"), app)
  (settled app.settings request response, after)

end App

end Waypost
