import Waypost.Fault.Basic

/-!
# Endpoints

* `Endpoint` -- what can be asked over HTTP; most endpoints need the routing service;
* `Endpoint.all` -- method and path of each;
* `checkParameters` -- refuses a start of paths that binds what a parameter is not taken from;
* `findEndpoint` -- what a method and a path lead to.

All paths but the root stand behind a common start, which is a pattern.
-/

namespace Waypost

/-! ## 1. Endpoints -/

/-- What can be asked of the routing service. -/
inductive ServiceEndpoint where
  | engineHealth
  | info
  | routeQuery
  | routeBody
  | bulk
  deriving DecidableEq, Repr

/-- What can be asked over HTTP. -/
inductive Endpoint where
  | root
  | health
  | service (e : ServiceEndpoint)
  deriving DecidableEq, Repr

/-- Whether an endpoint reads a body. -/
def ServiceEndpoint.takesBody : ServiceEndpoint → Bool
  | .routeBody | .bulk => true
  | _ => false

/-- Method and path of an endpoint, and whether it stands behind the common start. -/
structure Place where
  method : String
  path : String
  afterStart : Bool := true
  endpoint : Endpoint

/-- The places of all endpoints. -/
def Endpoint.all : List Place :=
  [{ method := "GET", path := "/", afterStart := false, endpoint := .root },
    { method := "GET", path := "/health", endpoint := .health },
    { method := "GET", path := "/health/engine", endpoint := .service .engineHealth },
    { method := "GET", path := "/info", endpoint := .service .info },
    { method := "GET", path := "/route", endpoint := .service .routeQuery },
    { method := "POST", path := "/route", endpoint := .service .routeBody },
    { method := "POST", path := "/route/bulk", endpoint := .service .bulk }]

/-- The pattern of the paths of a place. -/
def Place.pattern (start : PathPattern) (place : Place) : PathPattern :=
  if place.afterStart then start.followedBy place.path else place.path.toList.map .fixed

/-! ## 2. The common start -/

/-- The parameters that are taken from the query string and never from a path, in order. -/
def Endpoint.queryParameters : Endpoint → List String
  | .service .routeQuery =>
    ["point", "heading", "point_hint", "curbside", "snap_prevention", "details", "output_type",
      "gpx_route", "gpx_track", "gpx_waypoints", "gpx_trackname", "gpx_millis"]
  | .service .bulk => ["details", "output_type"]
  | _ => []

/-- The name of the body of a request. -/
def bodyParameter : String := "payload"

/-- Refuses a start that binds what an endpoint takes from the query string or from the body. -/
def checkParameters (start : PathPattern) (endpoint : Endpoint) : Except PatternFault Unit := do
  let takesBody :=
    match endpoint with
    | .service e => e.takesBody
    | _ => false
  if takesBody && start.names.contains bodyParameter then throw .bodyParameter
  match endpoint.queryParameters.find? start.names.contains with
  | some name => throw (.queryParameter name)
  | none => return ()

/-- The pattern of a start of paths. It is empty, or begins with a slash and ends without one. -/
def startPattern (text : String) : Except PatternFault PathPattern := do
  let cs := text.toList
  if !cs.isEmpty && cs.head? != some '/' then throw .withoutSlash
  if !cs.isEmpty && cs.getLast? == some '/' then throw .slashAtEnd
  let pattern ← PathPattern.of text (text ++ "/health")
  Endpoint.all.forM fun place => checkParameters pattern place.endpoint
  return pattern

/-! ## 3. Look-up -/

/-- What a method and a path lead to. An endpoint that is found comes with what the path binds. -/
inductive EndpointMatch where
  | found (e : Endpoint) (bound : Members)
  | wrongMethod
  | otherSlash
  | nowhere

/-- A path with a slash added at its end, or with all slashes there dropped. -/
def toggleSlash (path : String) : String :=
  match path.toList.reverse with
  | '/' :: rest => String.ofList (rest.dropWhile (· == '/')).reverse
  | _ => path ++ "/"

/-- The places whose pattern fits a path, with what it binds, up to and with the first one whose
    method fits as well. -/
def placesUntil (start : PathPattern) (method path : String) :
    List Place → Except Fault (List (Place × Members))
  | [] => .ok []
  | place :: rest =>
    match (place.pattern start).bind? path with
    | none => placesUntil start method path rest
    | some (.error digits) => .error (.unexpected (.digitLimit digits))
    | some (.ok bound) =>
      if place.method == method then .ok [(place, bound)]
      else do return (place, bound) :: (← placesUntil start method path rest)

/-- The endpoint of a method and a path. A path that is only known with, or without, a slash at its
    end is sent there. -/
def findEndpoint (start : PathPattern) (method path : String) : Except Fault EndpointMatch := do
  let places ← placesUntil start method path Endpoint.all
  match places.find? fun entry => entry.1.method == method with
  | some (place, bound) => return .found place.endpoint bound
  | none =>
    if !places.isEmpty then return .wrongMethod
    else if path == "/" then return .nowhere
    else
      let others ← placesUntil start method (toggleSlash path) Endpoint.all
      return if others.isEmpty then .nowhere else .otherSlash

end Waypost
