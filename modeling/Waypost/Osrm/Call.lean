import Waypost.Decimal.Shortest
import Waypost.Http.Percent
import Waypost.Run
import Waypost.Text.Case

/-!
# Calls to an OSRM service

* `OsrmConfig` -- where the service is, and under which name it knows a profile;
* `routeParams` -- the parameters of a route call;
* `routeCall` and `nearestCall` -- the two calls that are made.

Headings become bearings with a tolerance of 90 degrees, curbsides become approaches; a NaN
heading restricts nothing. Point hints and snap preventions have no counterpart.
-/

namespace Waypost

open Decimal Text

/-! ## 1. Configuration -/

/-- The service to call. -/
structure OsrmConfig where
  baseUrl : String
  profilePaths : List (String × String)
  threadSafe : Bool
  sampleProfile : String

/-- The names under which the service knows the customary profiles. -/
def defaultProfilePaths : List (String × String) :=
  [("car", "driving"), ("bike", "cycling"), ("foot", "walking")]

/-- The configuration for a base address, of which slashes at the end do not count. -/
def OsrmConfig.of? (baseUrl : String) (profilePaths : Option (List (String × String)))
    (threadSafe : Bool) (sampleProfile : String) : Except Fault OsrmConfig :=
  let trimmed := dropEnd '/' baseUrl
  if trimmed.isEmpty then .error (.unexpected .engineNotConfigured)
  else .ok ⟨trimmed, profilePaths.getD defaultProfilePaths, threadSafe, sampleProfile⟩

/-- The name of a profile inside an address. A profile without a name of its own goes by itself,
    and none at all means driving. -/
def OsrmConfig.profilePath (config : OsrmConfig) (profile : String) : String :=
  (config.profilePaths.lookup profile).getD (if profile.isEmpty then "driving" else profile)

/-! ## 2. Addresses -/

/-- The address of a text with parameters behind it. It stands on its own: a text without scheme or
    host is a path from the root. -/
def calledAddress (url : String) (params : List (String × String)) :
    Except AddressFault Address := do
  let address ← (← Address.of url).standalone
  address.withQuery (← (encodeQuery params).mapError .unwritable)

/-- The call of an address with parameters. -/
def Call.of (url : String) (params : List (String × String)) : Except Fault Call := do
  let address ← (calledAddress url params).mapError fun why => .unexpected (.address why)
  let host ← address.shownHost.mapError fun why => .unexpected (.hostName why)
  return { address, host, params }

/-! ## 3. Parameters -/

/-- The tolerance of a bearing in degrees. -/
def bearingTolerance : Nat := 90

/-- The bearing of a heading: its rounded angle within a full turn, or nothing for a NaN. -/
def bearingText (heading : Float) : Except Fault String := do
  if heading.isNaN then return ""
  let angle ← wholeNumber (nearest? heading)
  return toString (angle % 360) ++ "," ++ toString bearingTolerance

/-- The approach of a curbside in any letter case. -/
def approachOf (curbside : String) : String :=
  let side := lower curbside
  if side == "right" || side == "left" then "curb" else "unrestricted"

/-- The algorithm that asks for more than one path. -/
def alternativeRoute : String := "alternative_route"

/-- How many further paths an algorithm asks for: at least one. -/
def alternativesText (hints : Hints) : Except Fault String := do
  let maxPaths ← wholeNumber (truncate? ((← hints.float? Key.maxPaths).getD 2.0))
  return toString (max (maxPaths - 1) 1)

/-- A truth value inside an address. -/
def flagText (b : Bool) : String := if b then "true" else "false"

/-- The parameters of a route call, in order. -/
def routeParams (r : Request) : Except Fault (List (String × String)) := do
  let alternatives ←
    if r.algorithm == alternativeRoute then do
      pure [("alternatives", ← alternativesText r.hints)]
    else pure []
  let bearings ←
    if r.headings.isEmpty then pure []
    else do pure [("bearings", ";".intercalate (← r.headings.mapM bearingText))]
  let approaches :=
    if r.curbsides.isEmpty then []
    else [("approaches", ";".intercalate (r.curbsides.map approachOf))]
  return [("overview", if (r.hints.flag? Key.calcPoints).getD true then "full" else "false"),
    ("geometries", "geojson"),
    ("steps", flagText ((r.hints.flag? Key.instructions).getD true)),
    ("annotations", flagText !r.pathDetails.isEmpty)]
    ++ alternatives ++ bearings ++ approaches

/-! ## 4. Calls -/

/-- The coordinates of some points inside an address, longitude first. -/
def coordinatesText (points : List Point) : String :=
  ";".intercalate (points.map fun p => p.lon.text ++ "," ++ p.lat.text)

/-- The call for the routes of a request. -/
def routeCall (config : OsrmConfig) (r : Request) : Except Fault Call := do
  let params ← routeParams r
  Call.of (config.baseUrl ++ "/route/v1/" ++ config.profilePath r.profile ++ "/"
    ++ coordinatesText r.points) params

/-- The call that only asks for the version of the data. -/
def nearestCall (config : OsrmConfig) : Except Fault Call :=
  Call.of (config.baseUrl ++ "/nearest/v1/" ++ config.profilePath config.sampleProfile ++ "/0,0")
    [("number", "1")]

end Waypost
