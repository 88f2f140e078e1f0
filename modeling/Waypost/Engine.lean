import Waypost.Outcome
import Waypost.Run

/-!
# Engines

* `Engine` -- computes the outcome of a request and tells properties of its data;
* `Engine.ask` -- hands a request over, visibly;
* `invokeEngine` -- the same, and every end becomes an outcome with paths or faults;
* `checkHealth` -- whether an engine answers a sample request.
-/

namespace Waypost

/-- Computes outcomes. A thread-safe engine may be asked from several places at once. -/
structure Engine where
  threadSafe : Bool
  properties : Run Members
  route : Request → Run Outcome

/-- The property that holds the date of the data. -/
def dataDateProperty : String := "datareader.data.date"

/-- Hands a request to an engine. Whom the engine asks in turn is its own affair. -/
def Engine.ask (engine : Engine) (r : Request) : Run Outcome := do
  Run.emit (.dispatched r)
  (engine.route r).withoutHandOvers

/-- The fault of an outcome without paths and without faults. -/
def emptyOutcome : Fault := .engineFailure "Engine returned neither paths nor errors"

/-- The outcome of an engine that ended with a fault. A classified fault stays what it is; any
    other one is a failure of the engine. -/
def failedOutcome (fault : Fault) : Run Outcome :=
  match fault with
  | .unexpected cause => do
    Run.log .error ("Routing engine raised an unexpected error: " ++ cause.text)
    return .failure (.reported .engineFailure fault.message [])
  | _ => return .failure fault

/-- Asks an engine once. The outcome holds paths or faults. -/
def invokeEngine (engine : Engine) (r : Request) : Run Outcome := do
  match ← (engine.ask r).attempt with
  | .error fault => failedOutcome fault
  | .ok outcome =>
    return if !outcome.hasFaults && outcome.paths.isEmpty then .failure emptyOutcome else outcome

/-- The sample request: two points in one town, without instructions. -/
def sampleRequest : Except Fault Request := do
  return {
    points := [← Point.ofFloats 52.517037 13.38886, ← Point.ofFloats 52.496891 13.385983]
    hints := Hints.empty.set Key.instructions (.flag false) }

/-- Whether an engine answers the sample request without faults. -/
def checkHealth (engine : Engine) : Run Bool := do
  let outcome ← engine.ask (← sampleRequest)
  return !outcome.hasFaults

end Waypost
