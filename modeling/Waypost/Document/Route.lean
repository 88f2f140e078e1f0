import Waypost.Geo.Distance
import Waypost.Geo.Polyline
import Waypost.Outcome

/-!
# Route documents

The JSON document of a successful outcome: one object for each path, in order. Coordinates stand
with the longitude first.

* `OutputOptions` -- what a caller wants to see;
* `ResponseInfo` -- what is said about the answer as a whole;
* `pathJson` and `routeJson` -- the objects of a path and of an outcome.
-/

namespace Waypost

open Decimal

/-- What a caller wants to see of a path. -/
structure OutputOptions where
  instructions : Bool := true
  calcPoints : Bool := true
  elevation : Bool := false
  pointsEncoded : Bool := true
  multiplier : Float := 1e5
  deriving DecidableEq

/-- What is said about an answer as a whole. -/
structure ResponseInfo where
  copyrights : List String := []
  took : Int := 0
  roadDataTimestamp : Json := .null

/-- Texts as a JSON list. -/
def jsonTexts (texts : List String) : Json := .arr (texts.map .str)

/-- The object about the answer as a whole. -/
def ResponseInfo.toJson (info : ResponseInfo) : Json :=
  .obj ([("copyrights", jsonTexts info.copyrights), ("took", .int info.took)]
    ++ if info.roadDataTimestamp.truthy then [("road_data_timestamp", info.roadDataTimestamp)]
      else [])

/-! ## 1. Geometry -/

/-- One coordinate of a plain geometry. -/
def coordinateJson (point : Point) (elevation : Option Float) : Json :=
  .arr ([point.lon.toJson, point.lat.toJson] ++ (elevation.map Json.float).toList)

/-- Points as one encoded text, or as a line of coordinates. -/
def pointsJson (options : OutputOptions) (points : List Point)
    (elevations : Option (List Float)) : Except Fault Json :=
  if options.pointsEncoded then
    .str <$> encodePolyline points elevations options.multiplier
  else
    .ok (.obj [("type", .str "LineString"),
      ("coordinates", .arr ((withElevations points elevations).map fun (p, e) =>
        coordinateJson p e))])

/-- The members about the geometry of a path. -/
def geometryMembers (options : OutputOptions) (path : Path) : Except Fault Members := do
  let elevations :=
    if options.elevation && path.hasElevation then some path.elevations else none
  let points ← pointsJson options path.points elevations
  let snapped ←
    if path.snapped.isEmpty then pure []
    else do pure [("snapped_waypoints", ← pointsJson options path.snapped none)]
  let multiplier :=
    if options.pointsEncoded then [("points_encoded_multiplier", .float options.multiplier)]
    else []
  let box :=
    if path.points.isEmpty then []
    else [("bbox", Json.arr ((boundingBox path.points).map Number.toJson))]
  return [("points_encoded", .bool options.pointsEncoded)] ++ multiplier ++ box
    ++ [("points", points)] ++ snapped

/-! ## 2. Instructions -/

/-- A heading with two decimal places, where only numbers have any. -/
def roundHeading : Json → Except Fault Json
  | .float x => .ok (.float (roundPlaces 2 x))
  | .int n => .ok (.int n)
  | .bool b => .ok (.int b.toNat)
  | other => .error (.mismatch (.notRoundable other.kindName))

/-- The object of an instruction. -/
def instructionJson (i : Instruction) : Except Fault Json := do
  let heading ←
    match i.heading with
    | some value => do pure [("heading", ← roundHeading value)]
    | none => pure []
  return .obj ([("distance", .float (roundPlaces 3 i.distance)), ("sign", .int i.sign),
    ("interval", .arr [.int i.first, .int i.last]), ("text", .str i.text), ("time", .int i.time),
    ("street_name", i.streetName)] ++ heading)

/-- The member with the instructions of a path, when it has any list of them. -/
def instructionMembers (path : Path) : Except Fault Members :=
  match path.instructions with
  | some list => do return [("instructions", .arr (← list.mapM instructionJson))]
  | none => .ok []

/-! ## 3. Paths -/

/-- A run of a detail as first point, last point and value. -/
def DetailRun.toJson (run : DetailRun) : Json := .arr [.int run.first, .int run.last, run.value]

/-- The details of a path by name. -/
def detailsJson (details : List (String × List DetailRun)) : Json :=
  .obj (details.map fun (name, runs) => (name, .arr (runs.map DetailRun.toJson)))

/-- The object of a path. -/
def pathJson (options : OutputOptions) (path : Path) : Except Fault Json := do
  let geometry ← if options.calcPoints then geometryMembers options path else pure []
  let instructions ← if options.instructions then instructionMembers path else pure []
  let heights :=
    if options.elevation then [("ascend", .float path.ascend), ("descend", .float path.descend)]
    else []
  return .obj ([("distance", .float (roundPlaces 3 path.distance)),
    ("weight", .float (roundPlaces 6 path.weight)), ("time", .int path.time),
    ("transfers", .int 0)] ++ geometry ++ instructions
    ++ [("legs", .arr []), ("details", detailsJson path.details)] ++ heights)

/-- The document of an outcome. -/
def routeJson (options : OutputOptions) (info : ResponseInfo) (outcome : Outcome) :
    Except Fault Json := do
  let paths ← outcome.paths.mapM (pathJson options)
  return .obj [("hints", .obj outcome.debug), ("info", info.toJson), ("paths", .arr paths)]

end Waypost
