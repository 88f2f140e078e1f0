import Waypost.Geo.Point

/-!
# Distances and directions on the globe

* `distanceMeters` -- the length of the great circle between two points, by the haversine formula;
* `bearingDegrees` -- the direction at the first of two points, from 0 up to 360 degrees;
* `compassPoint` -- the nearest of the eight names of directions;
* `boundingBox` -- the smallest box around some points.
-/

namespace Waypost

open Decimal

/-! ## 1. Distance -/

/-- The radius of the globe in meters. -/
def earthRadius : Float := 6371000.0

/-- The circle number as a double. -/
def pi : Float := 3.141592653589793

/-- Degrees as radians. -/
def radians (degrees : Float) : Float := degrees * (pi / 180.0)

/-- Radians as degrees. -/
def degrees (radians : Float) : Float := radians * (180.0 / pi)

/-- The square of a double. -/
def square (x : Float) : Float := Float.pow x 2.0

/-- The distance in meters between two coordinate pairs. Infinite angles have none. Where the pairs
    lie beyond the globe the squared half chord may be negative, and rounding may push that of two
    opposite points above one; then there is no distance either. -/
def distanceMeters (lat₁ lon₁ lat₂ lon₂ : Float) : Except Fault Float :=
  let φ₁ := radians lat₁
  let φ₂ := radians lat₂
  let dLat := radians (lat₂ - lat₁)
  let dLon := radians (lon₂ - lon₁)
  let chord := square (dLat / 2.0).sin + φ₁.cos * φ₂.cos * square (dLon / 2.0).sin
  if [φ₁, φ₂, dLat, dLon].any (·.isInf) || chord < 0.0 || 1.0 - chord < 0.0 then
    .error (.unexpected .outsideDomain)
  else
    let angle := 2.0 * Float.atan2 chord.sqrt (1.0 - chord).sqrt
    .ok (earthRadius * angle)

/-- The distance in meters between two points. -/
def Point.distanceTo (p q : Point) : Except Fault Float :=
  distanceMeters p.lat.toFloat p.lon.toFloat q.lat.toFloat q.lon.toFloat

/-! ## 2. Direction -/

/-- An angle between 0 and 720 degrees, brought below 360. -/
def wrapDegrees (x : Float) : Float := if x < 360.0 then x else x - 360.0

/-- The direction in which the great circle to the second coordinate pair leaves the first. -/
def bearingDegrees (lat₁ lon₁ lat₂ lon₂ : Float) : Float :=
  let φ₁ := radians lat₁
  let φ₂ := radians lat₂
  let dLon := radians (lon₂ - lon₁)
  let y := dLon.sin * φ₂.cos
  let x := φ₁.cos * φ₂.sin - φ₁.sin * φ₂.cos * dLon.cos
  wrapDegrees (degrees (Float.atan2 y x) + 360.0)

/-- The direction from one point to another. -/
def Point.bearingTo (p q : Point) : Float :=
  bearingDegrees p.lat.toFloat p.lon.toFloat q.lat.toFloat q.lon.toFloat

/-- The names of the eight directions, from north on clockwise. -/
def compassNames : List String := ["N", "NE", "E", "SE", "S", "SW", "W", "NW"]

/-- The name of the direction nearest to an angle: each owns the eighth of the circle around it. -/
def compassPoint (azimuth : Float) : String :=
  match Exact.ofFloat (wrapDegrees (azimuth + 22.5)) with
  | .finite _ m q =>
    let (num, den) := fraction m q 0
    compassNames.getD (num / (45 * den)) ""
  | _ => ""

/-! ## 3. Boxes -/

/-- The first smallest number of a list that begins with the given one. -/
def smallest (first : Number) (rest : List Number) : Number :=
  rest.foldl (fun best n => if n.toFloat < best.toFloat then n else best) first

/-- The first largest number of a list that begins with the given one. -/
def largest (first : Number) (rest : List Number) : Number :=
  rest.foldl (fun best n => if best.toFloat < n.toFloat then n else best) first

/-- Least longitude and latitude, then greatest longitude and latitude; nothing for no points. -/
def boundingBox : List Point → List Number
  | [] => []
  | p :: rest =>
    let lons := rest.map (·.lon)
    let lats := rest.map (·.lat)
    [smallest p.lon lons, smallest p.lat lats, largest p.lon lons, largest p.lat lats]

end Waypost
