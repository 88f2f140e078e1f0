import Waypost.Decimal.Shortest
import Waypost.Document.Route
import Waypost.Bulk.FanOut
import Waypost.Engine
import Waypost.Json.Shape
import Waypost.Request.Profile
import Waypost.Service.Response
import Waypost.Settings

/-!
# The routing service

The service takes a request from its source to its outcome. Each request is built, transformed,
given its profile, freed from the hints no engine may see, and handed to the engine once.

* `Transformer` -- a last change to a request; what it changed before a failure stays;
* `Service` -- engine, resolver, transformer and settings together;
* `Service.prepare` -- everything between building and the engine;
* `Service.run` -- from a request that may not have been built to an outcome;
* `Service.info` -- what the service tells about itself.
-/

namespace Waypost

open Decimal Text

/-! ## 1. Parts -/

/-- A change to a request before its profile is chosen. A failure keeps what was changed so far. -/
abbrev Transformer := Request → Request × Option Fault

/-- The transformer that changes nothing. -/
def keepRequest : Transformer := fun r => (r, none)

/-- Who sent a request. -/
structure Caller where
  address : String := ""
  agent : String := ""
  locale : String := ""

/-- What the clocks say: the seconds an answer took, and the second in which it is given. -/
structure Clock where
  elapsed : Float := 0.0
  now : Int := 0

/-- The milliseconds an answer took. -/
def Clock.millis (clock : Clock) : Float := clock.elapsed * 1000.0

/-- The whole milliseconds an answer took. -/
def Clock.wholeMillis (clock : Clock) : Except Fault Int := wholeNumber (nearest? clock.millis)

/-- A routing service. The date of the data is the one the engine told when the service began; the
    schedule is the order in which its pool completes the legs of a batch. -/
structure Service where
  engine : Engine
  resolver : Resolver
  transformer : Transformer := keepRequest
  settings : Settings
  dataDate : Json := .null
  schedule : Schedule := List.range

/-- A service over an engine, which is asked for the date of its data. -/
def Service.start (engine : Engine) (resolver : Resolver) (settings : Settings)
    (transformer : Transformer := keepRequest) : Run Service := do
  let properties ← engine.properties
  return {
    dataDate := Members.getD properties dataDateProperty .null
    engine, resolver, transformer, settings }

namespace Service

/-- What the server decides for every request. -/
def options (service : Service) : ServerOptions where
  snapDefault := service.settings.snapPreventionsDefault
  hasElevation := service.settings.hasElevation

/-! ## 2. From a request to its outcome -/

/-- Transforms a request, chooses its profile and drops the hints no engine may see. After a
    failure the request is as far as it came. -/
def prepare (service : Service) (r : Request) : Request × Option Fault :=
  match service.transformer r with
  | (changed, some fault) => (changed, some fault)
  | (changed, none) =>
    match resolveProfile service.resolver changed with
    | .error fault => (changed, some fault)
    | .ok resolved => ({ resolved with hints := resolved.hints.removeLegacy }, none)

/-- The outcome of a request that did not reach the engine. Anything but a refusal or a bad value
    is logged. -/
def stopped (fault : Fault) : Run Outcome := do
  match fault with
  | .unexpected cause =>
    if !fault.isValueFault then
      Run.log .error ("Routing request failed before reaching the engine: " ++ cause.text)
  | _ => pure ()
  return .failure fault

/-- A request as far as it came, if it could be built at all, and its outcome. -/
structure Attempted where
  request : Option Request
  outcome : Outcome

/-- Takes a request to its outcome. -/
def run (service : Service) (built : Except Fault Request) : Run Attempted := do
  match built with
  | .error fault => return ⟨none, ← stopped fault⟩
  | .ok r =>
    match service.prepare r with
    | (changed, some fault) => return ⟨some changed, ← stopped fault⟩
    | (prepared, none) => return ⟨some prepared, ← invokeEngine service.engine prepared⟩

/-- Takes a request to its outcome where a failure ends the run. -/
def dispatch (service : Service) (r : Request) : Run Outcome :=
  match service.prepare r with
  | (_, some fault) => Run.fail fault
  | (prepared, none) => invokeEngine service.engine prepared

/-! ## 3. What is told -/

/-- The part of the log line of a request that does not depend on its outcome. -/
def logSummary (caller : Caller) (request : Option Request) (clock : Clock) : String :=
  let points := (request.map (·.points.length)).getD 0
  let algorithm := (request.map (·.algorithm)).getD ""
  let profile := (request.map (·.profile)).getD ""
  s!"{caller.address} {caller.locale} {caller.agent} points: {points}, "
    ++ s!"took: {fixed 1 clock.millis}ms, algo: {algorithm}, profile: {profile}"

/-- The part of the log line of a request that tells its outcome. -/
def logOutcome (outcome : Outcome) : Except Fault String := do
  if outcome.hasFaults then
    return ", errors: " ++ quoteList (← outcome.faults.mapM Fault.text)
  let best ← outcome.best
  let minutes ← wholeNumber (nearest? ((← floatOfInt best.time) / 60000.0))
  return s!", alternatives: {outcome.paths.length}, distance0: {floatText best.distance}, "
    ++ s!"weight0: {floatText best.weight}, time0: {minutes}min, points0: {best.points.length}"

/-- Logs a request and its outcome. -/
def logRequest (caller : Caller) (attempted : Attempted) (clock : Clock) : Run Unit := do
  let outcome ← logOutcome attempted.outcome
  Run.log .info (logSummary caller attempted.request clock ++ outcome)

/-- What is said about an answer as a whole. -/
def responseInfo (service : Service) (took : Int) : ResponseInfo where
  copyrights := service.settings.copyrights
  took := took
  roadDataTimestamp := service.dataDate

/-- What the service tells about itself. -/
def info (service : Service) : Json :=
  let settings := service.settings
  .obj [("version", .str settings.version),
    ("profiles", .arr (settings.profiles.map fun name => .obj [("name", .str name)])),
    ("elevation", .bool settings.hasElevation), ("data_date", service.dataDate)]

end Service

end Waypost
