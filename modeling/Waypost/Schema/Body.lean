import Waypost.Bulk.Basic
import Waypost.Schema.Scalar

/-!
# Checks of bodies

* `Check.point` -- a point, as an object with latitude and longitude or as a list with the
  longitude first;
* `RouteBody.check` -- the body for one route; members it does not know are kept;
* `BulkRequest.check` -- the body for a batch; members it does not know are dropped.

How a value that is no object is refused depends on the place of the check: `Wording` says how.
-/

namespace Waypost

open Check

/-- How a value is refused where an object belongs: by the name of what it should be, or as
    something without fields. -/
inductive Wording where
  | byModel
  | byFields
  deriving DecidableEq, Repr

/-- The violation of a value that is no object. -/
def Wording.violation (wording : Wording) (model : String) : Violation :=
  match wording with
  | .byModel => .notModel model
  | .byFields => .notObject

/-! ## 1. Members -/

/-- The members of an object. -/
def Check.object (wording : Wording) (model : String) : Json → Check Members
  | .obj members => .passed members
  | _ => .violated (wording.violation model)

/-- A member that has to be there. -/
def Members.required (members : Members) (key : String) (check : Json → Check α) : Check α :=
  match members.get? key with
  | some value => (check value).under key
  | none => (Check.violated .missing).under key

/-- A member that may be absent. -/
def Members.defaulted (members : Members) (key : String) (fallback : α)
    (check : Json → Check α) : Check α :=
  match members.get? key with
  | some value => (check value).under key
  | none => .passed fallback

/-- The first of two names under which there is a member, else the first of them. -/
def Members.nameOf (members : Members) (name other : String) : String :=
  if (members.get? name).isNone && (members.get? other).isSome then other else name

/-! ## 2. Points -/

/-- A coordinate list as an object. -/
def pointMembers (wording : Wording) : Json → Check Members
  | .arr (lon :: lat :: _) => .passed [("lon", lon), ("lat", lat)]
  | .arr _ => .violated (.badValue "A point array needs [longitude, latitude]")
  | value => Check.object wording "PointModel" value

/-- The point of two doubles within their limits. -/
def pointWithin (lat lon : Float) : Check Point :=
  match Point.ofNumbers? (.float lat) (.float lon) with
  | some point => .passed point
  | none => .violated .notObject

/-- A point. -/
def Check.point (wording : Wording) (value : Json) : Check Point :=
  (pointMembers wording value).andThen fun members =>
    let coordinates := Prod.mk
      <$> members.required "lat" (fun v => (real v).andThen (between 90))
      <*> members.required "lon" (fun v => (real v).andThen (between 180))
    coordinates.andThen fun (lat, lon) => pointWithin lat lon

/-! ## 3. Bodies -/

/-- The members that the body for one route knows. -/
def routeBodyKeys : List String :=
  ["points", "profile", "algorithm", "locale", "headings", "point_hints", "curbsides",
    "snap_preventions", "details", "custom_model"]

/-- The body for one route. -/
def RouteBody.check (wording : Wording) (value : Json) : Check RouteBody :=
  (Check.object wording "RouteRequestBody" value).andThen fun members =>
    RouteBody.mk
      <$> members.defaulted "points" [] (list (Check.point wording))
      <*> members.defaulted "profile" none (optional text)
      <*> members.defaulted "algorithm" "" text
      <*> members.defaulted "locale" "en" text
      <*> members.defaulted "headings" [] (list real)
      <*> members.defaulted "point_hints" [] (list text)
      <*> members.defaulted "curbsides" [] (list text)
      <*> members.defaulted "snap_preventions" none (optional (list text))
      <*> members.defaulted "details" [] (list text)
      <*> members.defaulted "custom_model" none (optional dictionary)
      <*> pure (members.filter fun member => !routeBodyKeys.contains member.1)

/-- The name of a destination, which may be sent as any value but null. -/
def destinationId : Json → Check String
  | .null => .violated (.badValue "Destination id is required")
  | value =>
    match value.text? with
    | some id => .passed id
    | none => .violated (.badValue Breakdown.longInteger.text)

/-- A destination of a batch. -/
def Destination.check (wording : Wording) (value : Json) : Check Destination :=
  (Check.object wording "DestinationModel" value).andThen fun members =>
    Destination.mk
      <$> members.required "id" destinationId
      <*> members.required (members.nameOf "destinationPoint" "destination_point")
        (Check.point wording)

/-- The body for a batch. -/
def BulkRequest.check (wording : Wording) (value : Json) : Check BulkRequest :=
  (Check.object wording "BulkRouteRequestBody" value).andThen fun members =>
    BulkRequest.mk
      <$> members.defaulted (members.nameOf "originPoint" "origin_point") none
        (optional (Check.point wording))
      <*> members.defaulted "destinations" [] (list (Destination.check wording))

end Waypost
