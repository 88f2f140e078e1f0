import Waypost.Number
import Waypost.Text.Split

/-!
# Points

A point is a latitude between -90 and 90 and a longitude between -180 and 180 degrees; the bounds
are part of the type.

* `Point.of` -- a point from two JSON values, or the reason why they are none;
* `Point.parse` -- a point from a text `"lat,lon"`;
* `Point.text` -- the text of a point.
-/

namespace Waypost

open Text Decimal

/-- A coordinate pair on the globe. -/
structure Point where
  lat : Number
  lon : Number
  lat_within : lat.within 90 = true
  lon_within : lon.within 180 = true

/-- Whether a value is a finite number, where only numbers have an answer. -/
def Json.isFiniteReal : Json → Except Fault Bool
  | .bool _ => .ok true
  | .int n => do
    let _ ← floatOfInt n
    return true
  | .float x => .ok x.isFinite
  | other => .error (.mismatch (.notReal other.kindName))

namespace Point

/-- The point of two numbers, if they are in range. -/
def ofNumbers? (lat lon : Number) : Option Point :=
  if h : lat.within 90 = true ∧ lon.within 180 = true then some ⟨lat, lon, h.1, h.2⟩ else none

/-- Refuses two values that are no point; both are named. -/
def refuse (reason : String → String → Refusal) (lat lon : Json) : Except Fault α := do
  throw (.refused (reason (← lat.text) (← lon.text)))

/-- Whether two values are finite numbers. A latitude that is not finite settles the matter. -/
def bothFinite (lat lon : Json) : Except Fault Bool := do
  if ← lat.isFiniteReal then lon.isFiniteReal else return false

/-- The point of two JSON values. Finiteness is checked before the range. -/
def of (lat lon : Json) : Except Fault Point := do
  match ← bothFinite lat lon, Number.ofJson? lat, Number.ofJson? lon with
  | true, some latitude, some longitude =>
    match ofNumbers? latitude longitude with
    | some point => return point
    | none => refuse .pointOutOfRange lat lon
  | _, _, _ => refuse .nonFinitePoint lat lon

/-- The point of two doubles. -/
def ofFloats (lat lon : Float) : Except Fault Point := Point.of (.float lat) (.float lon)

/-- Reads `"lat,lon"`. What follows a second comma is ignored. -/
def parse (value : String) : Except Fault Point :=
  match (splitText ',' value).map strip with
  | lat :: lon :: _ =>
    match looseFloat? lat, looseFloat? lon with
    | some latitude, some longitude => ofFloats latitude longitude
    | _, _ => .error (.refused (.unreadablePoint value))
  | _ => .error (.refused (.unreadablePoint value))

/-- The text of a point: latitude and longitude with a comma between them. -/
def text (p : Point) : String := p.lat.text ++ "," ++ p.lon.text

end Point

end Waypost
