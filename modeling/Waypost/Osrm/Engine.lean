import Waypost.Engine
import Waypost.Http.Exchange
import Waypost.Json.Document
import Waypost.Osrm.Answer
import Waypost.Osrm.Call

/-!
# The engine behind an OSRM service

* `osrmRoute` -- the outcome of a request: exactly one call, unless its details or parameters
  cannot be asked for;
* `osrmProperties` -- the version of the data, where the service tells it;
* `osrmEngine` -- both as an engine.
-/

namespace Waypost

/-! ## 1. Routes -/

/-- The outcome of a call that did not reach the service or was not served. -/
def unreachable (message : String) : Run Outcome := do
  Run.log .warning ("Routing engine request failed: " ++ message)
  return .failure (.engineFailure ("Routing engine is not reachable: " ++ message))

/-- The outcome of an answer. Content that is JSON counts whatever the status is. -/
def outcomeOfAnswer (r : Request) (call : Call) (answer : Answer) : Run Outcome :=
  match Json.ofBytes answer.bytes with
  | .ok content => Outcome.ofAnswer content r
  | .error (.noValue (.tooDeep object) _) => Run.fail (.unexpected (.tooDeep object))
  | .error _ =>
    if answer.isSuccess then
      return .failure (.engineFailure "Routing engine returned a non-JSON response")
    else unreachable (answer.failure call)

/-- The outcome of a request. -/
def osrmRoute (config : OsrmConfig) (transport : Transport) (r : Request) : Run Outcome := do
  let unknown := r.pathDetails.filter fun name => !supportedDetails.contains name
  if !unknown.isEmpty then
    return .failure (.refused (.unsupportedDetails unknown supportedDetails))
  let call ← routeCall config r
  match ← exchange transport call with
  | .ok answer => outcomeOfAnswer r call answer
  | .error reason => unreachable reason

/-! ## 2. Properties -/

/-- What content tells about the data. -/
def propertiesOfContent : Json → Except Fault Members
  | .obj members => do
    let version := Members.getD members "data_version" .null
    if version.truthy then return [(dataDateProperty, .str (← version.text))] else return []
  | _ => .ok []

/-- Asks for the content that tells the properties; the reason why there is none is handed on in
    words. -/
def askProperties (config : OsrmConfig) (transport : Transport) : Run (Except String Json) := do
  match ← exchange transport (← nearestCall config) with
  | .error reason => return .error reason
  | .ok answer =>
    match Json.ofBytes answer.bytes with
    | .ok content => return .ok content
    | .error (.noValue (.tooDeep object) _) => Run.fail (.unexpected (.tooDeep object))
    | .error why => return .error why.message

/-- Properties that could not be read. -/
def withoutProperties (reason : String) : Run Members := do
  Run.log .warning ("Could not read routing engine properties: " ++ reason)
  return []

/-- The properties that the service tells. A fault over a value means that there are none. -/
def osrmProperties (config : OsrmConfig) (transport : Transport) : Run Members := do
  match ← (askProperties config transport).attempt with
  | .ok (.ok content) => propertiesOfContent content
  | .ok (.error reason) => withoutProperties reason
  | .error fault =>
    if fault.isValueFault then withoutProperties (← fault.text) else Run.fail fault

/-- The engine behind a service. -/
def osrmEngine (config : OsrmConfig) (transport : Transport) : Engine where
  threadSafe := config.threadSafe
  properties := osrmProperties config transport
  route := osrmRoute config transport

end Waypost
