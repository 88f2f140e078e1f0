import Waypost.Decimal.Rounding
import Waypost.Json.Shape
import Waypost.Number
import Waypost.Outcome

/-!
# Path details of an OSRM answer

The annotations of the legs give one value for each segment. Neighbouring segments with equal
values are one run.

* `AnnotationSeries` -- the values of all legs, one list for each kind;
* `roundDistance`, `roundMillis`, `roundSpeed` -- the value of a segment as it goes out;
* `mergeRuns` -- maximal runs of equal values;
* `pathDetails` -- the runs of the requested details.
-/

namespace Waypost

open Decimal

/-! ## 1. Values -/

/-- The values of all legs as the service gave them. -/
structure AnnotationSeries where
  distances : List Json := []
  durations : List Json := []
  speeds : List Json := []

/-- Adds the values of one leg. -/
def AnnotationSeries.addLeg (series : AnnotationSeries) (leg : Json) :
    Except Fault AnnotationSeries := do
  let values ← ((← leg.members).getD "annotation" .null |>.orElse (.obj [])).members
  let distances ← (values.getD "distance" (.arr [])).items
  let durations ← (values.getD "duration" (.arr [])).items
  let speeds ← (values.getD "speed" (.arr [])).items
  return ⟨series.distances ++ distances, series.durations ++ durations, series.speeds ++ speeds⟩

/-- A distance with three decimal places. -/
def roundDistance : Json → Except Fault Number
  | .bool b => .ok (.int b.toNat)
  | .int n => .ok (.int n)
  | .float x => .ok (.float (roundPlaces 3 x))
  | other => .error (.mismatch (.notRoundable other.kindName))

/-- A duration in seconds as whole milliseconds. -/
def roundMillis : Json → Except Fault Number
  | .bool b => .ok (.int (b.toNat * 1000))
  | .int n => .ok (.int (n * 1000))
  | .float x => .int <$> wholeNumber (nearest? (x * 1000.0))
  | .null => .error (.mismatch (.noProduct "NoneType" "int"))
  | .obj _ => .error (.mismatch (.noProduct "dict" "int"))
  | other => .error (.mismatch (.notRoundable other.kindName))

/-- A speed in meters per second as kilometers per hour with one decimal place. -/
def roundSpeed : Json → Except Fault Number
  | .bool b => .ok (.float (roundPlaces 1 ((if b then 1.0 else 0.0) * 3.6)))
  | .int n => do return .float (roundPlaces 1 ((← floatOfInt n) * 3.6))
  | .float x => .ok (.float (roundPlaces 1 (x * 3.6)))
  | .null => .error (.mismatch (.noProduct "NoneType" "float"))
  | .obj _ => .error (.mismatch (.noProduct "dict" "float"))
  | _ => .error (.mismatch .noRepetition)

/-! ## 2. Runs -/

/-- A value that holds from one index up to, not including, another. -/
structure ValueRun where
  first : Nat
  stop : Nat
  value : Number

/-- Maximal runs of equal values, with the run that is still open. -/
def mergeFrom (first stop : Nat) (value : Number) : List Number → List ValueRun
  | [] => [⟨first, stop, value⟩]
  | next :: rest =>
    if value.equal next then mergeFrom first (stop + 1) value rest
    else ⟨first, stop, value⟩ :: mergeFrom stop (stop + 1) next rest

/-- Maximal runs of equal values; a run keeps its first value. -/
def mergeRuns : List Number → List ValueRun
  | [] => []
  | value :: rest => mergeFrom 0 1 value rest

/-! ## 3. Details -/

/-- The details that can be asked for. -/
def supportedDetails : List String := ["distance", "time", "average_speed"]

/-- The runs of some values as they stand in a path. -/
def detailRuns (values : List Number) : List DetailRun :=
  (mergeRuns values).map fun run => ⟨run.first, run.stop, run.value.toJson⟩

/-- The requested details of some legs, each once. All three series are computed whatever is
    requested. -/
def pathDetails (legs : Json) (names : List String) :
    Except Fault (List (String × List DetailRun)) := do
  if names.isEmpty then return []
  let series ← (← legs.items).foldlM AnnotationSeries.addLeg {}
  let distances ← series.distances.mapM roundDistance
  let times ← series.durations.mapM roundMillis
  let speeds ← series.speeds.mapM roundSpeed
  let known := supportedDetails.zip [distances, times, speeds]
  names.eraseDups.mapM fun name =>
    match known.lookup name with
    | some values => .ok (name, detailRuns values)
    | none => .error (.mismatch (.missingKey name))

end Waypost
