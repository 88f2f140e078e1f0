import Waypost.Osrm.Details
import Waypost.Osrm.Instructions
import Waypost.Text.Digit
import Waypost.Request.Basic

/-!
# Answers of an OSRM service

* `answerFault` -- the fault behind a code other than `Ok`;
* `routePath` -- one route of an answer as a path;
* `Outcome.ofAnswer` -- an answer as an outcome.

Coordinates stand with the longitude first.
-/

namespace Waypost

open Decimal Text

/-! ## 1. Faults -/

/-- The codes that blame the request. -/
def invalidInputCodes : List String :=
  ["InvalidUrl", "InvalidService", "InvalidVersion", "InvalidOptions", "InvalidQuery",
    "InvalidValue", "TooBig"]

/-- The digits behind the first place where the word stands directly in front of one. -/
def digitsBehind? (word : List Char) : List Char → Option (List Char)
  | [] => none
  | c :: rest =>
    let found := ((c :: rest).drop word.length).takeWhile isDigit
    if word.isPrefixOf (c :: rest) && !found.isEmpty then some found
    else digitsBehind? word rest

/-- The number of the coordinate that a message names. -/
def coordinateIndex (message : String) : Except Fault (Option Int) :=
  match digitsBehind? "coordinate ".toList message.toList with
  | none => .ok none
  | some digits =>
    match boundedInteger false (asciiDigits digits) with
    | .ok n => .ok (some n)
    | .error count => .error (.unexpected (.digitLimit count))

/-- The fault of a point that could not be found. -/
def pointNotFound (message : Json) : Except Fault Fault :=
  match message with
  | .str s => do
    let details :=
      match ← coordinateIndex s with
      | some index => [("point_index", Json.int index)]
      | none => []
    return .reported .pointNotFound (.str ("Cannot find point: " ++ s)) details
  | other => .error (.mismatch (.notText other.kindName))

/-- The fault behind a code other than `Ok`. A list or an object is no code that could be looked
    up. -/
def answerFault (code message : Json) : Except Fault Fault :=
  match code with
  | .str "NoSegment" => pointNotFound message
  | .str "NoRoute" => do
    return .engineFailure ("Connection between locations not found: " ++ (← message.text))
  | .str name =>
    if invalidInputCodes.contains name then .ok (.reported .invalidArgument message [])
    else .ok (.reported .engineFailure message [])
  | .arr items => .error (.mismatch (.notHashable (Json.arr items).kindName))
  | .obj members => .error (.mismatch (.notHashable (Json.obj members).kindName))
  | _ => .ok (.reported .engineFailure message [])

/-! ## 2. Routes -/

/-- The point of a coordinate pair. The second number is looked at first. -/
def coordinatePoint (pair : Json) : Except Fault Point := do
  let lat ← pair.itemAtIndex 1
  let lon ← pair.itemAtIndex 0
  Point.of lat lon

/-- The points to which the ends and stops of a request were moved. -/
def snappedPoints (waypoints : Json) : Except Fault (List Point) := do
  let locations ← (← waypoints.items).filterMapM fun waypoint => do
    let location := (← waypoint.members).getD "location" .null
    if location.truthy then return some (← coordinatePoint location) else return none
  return locations

/-- One route as a path. -/
def routePath (r : Request) (snapped : List Point) (route : Json) : Except Fault Path := do
  let members ← route.members
  let geometry ← ((members.getD "geometry" .null).orElse (.obj [])).members
  let points ← (← (geometry.getD "coordinates" (.arr [])).items).mapM coordinatePoint
  let legs := (members.getD "legs" .null).orElse (.arr [])
  let instructions ←
    if (r.hints.flag? Key.instructions).getD true then
      some <$> turnInstructions legs points.length
    else pure none
  let duration := members.getD "duration" (.float 0.0)
  return {
    distance := ← (members.getD "distance" (.float 0.0)).toReal
    time := ← millisOf duration
    weight := ← (members.getD "weight" duration).toReal
    points, instructions
    details := ← pathDetails legs r.pathDetails
    snapped }

/-! ## 3. Answers -/

/-- What an answer says besides its routes. -/
def answerDebug (members : Members) : Members :=
  let version := members.getD "data_version" .null
  if version.truthy then [("data_version", version)] else []

/-- An answer as an outcome. -/
def Outcome.ofAnswer (answer : Json) (r : Request) : Except Fault Outcome := do
  let members ← answer.members
  let code := members.getD "code" (.str "")
  let message := ((members.getD "message" .null).orElse code).orElse
    (.str "Unknown routing engine error")
  if !code.isText "Ok" then return .failure (← answerFault code message)
  let routes := members.getD "routes" .null
  if !routes.truthy then
    return .failure (.engineFailure "Connection between locations not found")
  let snapped ← snappedPoints (members.getD "waypoints" (.arr []))
  let paths ← (← routes.items).mapM (routePath r snapped)
  return { paths, debug := answerDebug members }

end Waypost
