import Waypost.Geo.Point
import Waypost.Hints.Basic

/-!
# Routing requests

* `Request` -- what an engine is asked: points, profile, typed restrictions for each point, and
  hints;
* `Request.validate` -- the conditions every request meets before it goes on: at least one point,
  and lists of headings, point hints and curbsides that are empty or as long as the points;
* the keys of the hints that this library writes or drops itself.
-/

namespace Waypost

/-- A question to a routing engine. No snap preventions at all means that the caller did not say;
    an empty list means that there are none. -/
structure Request where
  points : List Point
  profile : String := ""
  algorithm : String := ""
  locale : String := "en"
  headings : List Float := []
  pointHints : List String := []
  curbsides : List String := []
  snapPreventions : Option (List String) := none
  pathDetails : List String := []
  hints : Hints := Hints.empty
  customModel : Option Members := none

/-! ## 1. Keys -/

namespace Key

def calcPoints : String := "calc_points"

def instructions : String := "instructions"

def wayPointMaxDistance : String := "way_point_max_distance"

def elevationWayPointMaxDistance : String := "elevation_way_point_max_distance"

def elevation : String := "elevation"

def snapPrevention : String := "snap_prevention"

def pointsEncoded : String := "points_encoded"

def pointsEncodedMultiplier : String := "points_encoded_multiplier"

def profile : String := "profile"

def vehicle : String := "vehicle"

def hasCurbsides : String := "has_curbsides"

def maxPaths : String := "alternative_route.max_paths"

/-- Query keys that are typed fields of a request and therefore never hints. -/
def structural : List String :=
  ["point", "profile", "type", "algorithm", "locale", "heading", "point_hint", "curbside",
    snapPrevention, "details", "gpx.route", "gpx.track", "gpx.waypoints", "gpx.trackname",
    "gpx.millis"]

/-- Keys that only help to choose a profile; an engine never sees them. -/
def legacy : List String := ["weighting", vehicle, "edge_based", "turn_costs"]

end Key

/-- The distance in meters by which a simplified path may deviate, unless the caller says. -/
def defaultWayPointMaxDistance : Float := 0.5

/-- Drops the hints that no engine may see. -/
def Hints.removeLegacy (h : Hints) : Hints := Key.legacy.foldl Hints.remove h

/-! ## 2. Validation -/

/-- Whether a list holds nothing, or one item for each point. -/
def aligned (values : List α) (points : List Point) : Bool :=
  values.isEmpty || values.length == points.length

/-- Refuses a request without points or with a list of the wrong length. -/
def Request.validate (r : Request) : Except Fault Request :=
  if r.points.isEmpty then .error (.refused .noPoints)
  else if !aligned r.headings r.points then .error (.refused (.misaligned "heading"))
  else if !aligned r.pointHints r.points then .error (.refused (.misaligned "point_hint"))
  else if !aligned r.curbsides r.points then .error (.refused (.misaligned "curbside"))
  else .ok r

/-- Refuses elevation where there is no elevation data. -/
def ensureElevation (requested hasElevation : Bool) : Except Fault Unit :=
  if requested && !hasElevation then .error (.refused .elevationUnsupported) else .ok ()

end Waypost
