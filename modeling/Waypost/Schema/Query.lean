import Waypost.Bulk.Basic
import Waypost.Schema.Scalar

/-!
# Checks of parameters

The typed view of the parameters of a request: the query string, and the names that its path binds.
A parameter with one value takes the last one that was sent; a parameter with several takes all. An
empty value counts as sent. Where the path binds a parameter with one value, the query string does
not count for it.

* `Parameters` -- what was sent;
* `RouteQuery.check` -- the parameters for one route;
* `BulkQuery.check` -- the parameters for a batch.

Issues with the path come first.
-/

namespace Waypost

open Check

/-! ## 1. Parameters -/

/-- The parameters of a request: the values of the query string by key, and those that its path
    binds. -/
structure Parameters where
  query : Grouped
  bound : Members := []

/-- The step on the way to what is wrong with a value that a path binds. -/
def pathStep : Step := .name "path"

namespace Parameters

/-- The values that were sent for a parameter. -/
def values (ps : Parameters) (key : String) : List String := (ps.query.lookup key).getD []

/-- A parameter with one value that only the query string may hold. -/
def unbound (ps : Parameters) (key : String) (fallback : α) (check : Json → Check α) : Check α :=
  match (ps.values key).getLast? with
  | some value => (check (.str value)).under key
  | none => .passed fallback

/-- A parameter with one value. -/
def one (ps : Parameters) (key : String) (fallback : α) (check : Json → Check α) : Check α :=
  match ps.bound.lookup key with
  | some value => ((check value).under key).inside pathStep
  | none => ps.unbound key fallback check

/-- A parameter with several values. -/
def many (ps : Parameters) (key : String) (check : Json → Check α) : Check (List α) :=
  (each check ((ps.values key).map Json.str)).under key

end Parameters

/-- A check whose issues with the path come first. -/
def pathFirst : Check α → Check α
  | .failed issues =>
    let (path, query) := issues.partition fun issue => issue.place.head? == some pathStep
    .failed (path ++ query)
  | check => check

/-! ## 2. The two queries -/

/-- The parameters for one route. -/
def RouteQuery.check (ps : Parameters) : Check RouteQuery :=
  pathFirst <| RouteQuery.mk
    <$> ps.many "point" text
    <*> ps.one "profile" none (optional text)
    <*> ps.one "algorithm" "" text
    <*> ps.one "locale" "en" text
    <*> ps.one "instructions" true flag
    <*> ps.one "calc_points" true flag
    <*> ps.one "elevation" false flag
    <*> ps.many "heading" real
    <*> ps.many "point_hint" text
    <*> ps.many "curbside" text
    <*> ps.many "snap_prevention" text
    <*> ps.many "details" text
    <*> ps.one "way_point_max_distance" defaultWayPointMaxDistance real
    <*> ps.one "elevation_way_point_max_distance" none (optional real)
    <*> ps.unbound "type" "json" text
    <*> ps.one "points_encoded" true flag
    <*> ps.one "points_encoded_multiplier" 1e5 real
    <*> ps.unbound "gpx.route" true flag
    <*> ps.unbound "gpx.track" true flag
    <*> ps.unbound "gpx.waypoints" false flag
    <*> ps.unbound "gpx.trackname" "GraphHopper Track" text
    <*> ps.unbound "gpx.millis" none (optional text)

/-- The parameters for a batch. -/
def BulkQuery.check (ps : Parameters) : Check BulkQuery :=
  pathFirst <| BulkQuery.mk
    <$> ps.one "profile" defaultBulkProfile text
    <*> ps.one "algorithm" "" text
    <*> ps.one "locale" "en" text
    <*> ps.one "instructions" true flag
    <*> ps.one "calc_points" true flag
    <*> ps.one "way_point_max_distance" defaultWayPointMaxDistance real
    <*> ps.many "details" text
    <*> ps.unbound "type" "json" text

end Waypost
