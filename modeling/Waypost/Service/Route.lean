import Waypost.Document.Track
import Waypost.Service.Basic

/-!
# Answers for one route

* `Service.routeQuery` -- the answer to a query: a JSON document, or a track document when the
  output type asks for XML;
* `Service.routeBody` -- the answer to a body, always JSON; what to show is read from the hints.

Both log the request and its outcome before they write the answer. A value that cannot be written
is answered like any other refusal; every other breakdown of the writer is passed on. The time an
answer took is such a value for a body; a query takes it before it writes.
-/

namespace Waypost

/-! ## 1. What to show -/

/-- What a query wants to see of a route document. -/
def RouteQuery.output (q : RouteQuery) : OutputOptions where
  instructions := q.instructions
  calcPoints := q.calcPoints
  elevation := q.elevation
  pointsEncoded := q.pointsEncoded
  multiplier := q.pointsEncodedMultiplier

/-- What a query wants to see of a track document. -/
def RouteQuery.trackOutput (q : RouteQuery) (settings : Settings) : TrackOptions where
  trackName := q.gpxTrackName
  elevation := q.elevation
  route := q.gpxRoute
  track := q.gpxTrack
  waypoints := q.gpxWaypoints
  version := settings.version
  creator := settings.gpxCreator

/-- What the hints of a request want to see of a route document. -/
def Hints.output (h : Hints) : Except Fault OutputOptions := do
  return {
    instructions := (h.flag? Key.instructions).getD true
    calcPoints := (h.flag? Key.calcPoints).getD true
    elevation := (h.flag? Key.elevation).getD false
    pointsEncoded := (h.flag? Key.pointsEncoded).getD true
    multiplier := (← h.float? Key.pointsEncodedMultiplier).getD 1e5 }

/-! ## 2. Writing -/

namespace Service

/-- The response of a writer, or the error response when the writer met a bad value. -/
def written (document : Except Fault Response) (refused : Fault → Except Fault Response) :
    Except Fault Response :=
  match document with
  | .ok response => .ok response
  | .error fault => if fault.isValueFault then refused fault else .error fault

/-- A route document. -/
def routeDocument (service : Service) (output : Except Fault OutputOptions) (outcome : Outcome)
    (took : Int) : Except Fault Response := do
  let json ← routeJson (← output) (service.responseInfo took) outcome
  return .ofJson 200 json [(tookHeader, toString took)]

/-- A track document. -/
def trackDocument (service : Service) (q : RouteQuery) (outcome : Outcome) (took now : Int) :
    Except Fault Response := do
  let text ← outcomeTrack (q.trackOutput service.settings) outcome q.gpxMillis now
  return ⟨200, .text text, some gpxMediaType, [(tookHeader, toString took), attachmentHeader]⟩

/-! ## 3. The two sources -/

/-- Answers a query. -/
def routeQuery (service : Service) (q : RouteQuery) (raw : Grouped) (caller : Caller)
    (clock : Clock) : Run Response := do
  let attempted ← service.run (Request.ofQuery service.options q raw)
  logRequest caller attempted clock
  let failed (faults : List Fault) : Except Fault Response :=
    errorResponse faults (some q.outputType) service.settings.gpxCreator
  let outcome := attempted.outcome
  if outcome.hasFaults then failed outcome.faults
  else do
    let took ← clock.wholeMillis
    if q.writesTrack then
      written (service.trackDocument q outcome took clock.now) fun fault => failed [fault]
    else
      written (service.routeDocument (pure q.output) outcome took) fun fault =>
        errorResponse [fault]

/-- Answers a body. -/
def routeBody (service : Service) (body : RouteBody) (caller : Caller) (clock : Clock) :
    Run Response := do
  let attempted ← service.run (Request.ofBody service.options body)
  logRequest caller attempted clock
  let outcome := attempted.outcome
  if outcome.hasFaults then errorResponse outcome.faults
  else do
    let hints := (attempted.request.map (·.hints)).getD Hints.empty
    let document : Except Fault Response := do
      service.routeDocument hints.output outcome (← clock.wholeMillis)
    written document fun fault => errorResponse [fault]

end Service

end Waypost
