import Waypost.Geo.Point

/-!
# Encoded polylines

A path of points as one compact text. Each coordinate becomes a whole number, each whole number is
written as its difference to the one before in groups of five bits, the lowest group first, and
each group is one printable character.

* `zigzag` -- signed numbers as numbers without sign, small ones first;
* `groups` -- the five-bit groups of a number, all but the last with the continuation bit;
* `quantize` -- the whole numbers of a path;
* `encodePolyline` -- the text of a path.
-/

namespace Waypost

open Decimal

/-! ## 1. Numbers as characters -/

/-- Signed numbers as natural ones: `0, -1, 1, -2, …` become `0, 1, 2, 3, …`. -/
def zigzag : Int → Nat
  | .ofNat n => 2 * n
  | .negSucc n => 2 * n + 1

/-- The five-bit groups of a number, lowest first. A group that another one follows carries the
    continuation bit. -/
def groups (n : Nat) : List Nat :=
  if n < 32 then [n] else (32 + n % 32) :: groups (n / 32)
termination_by n
decreasing_by omega

/-- The character of a group. -/
def groupChar (group : Nat) : Char := Char.ofNat (group + 63)

/-- The characters of a signed number. -/
def encodeNumber (value : Int) : List Char := (groups (zigzag value)).map groupChar

/-! ## 2. Paths as numbers -/

/-- The whole number nearest to a double, a half going up. -/
def roundHalfUp (x : Float) : Except Fault Int := wholeNumber (floor? (x + 0.5))

/-- The whole numbers of one point, with its elevation in hundredths when there is one. -/
def quantizePoint (multiplier : Float) (point : Point) (elevation : Option Float) :
    Except Fault (List Int) := do
  let lat ← roundHalfUp (point.lat.toFloat * multiplier)
  let lon ← roundHalfUp (point.lon.toFloat * multiplier)
  match elevation with
  | none => return [lat, lon]
  | some e => return [lat, lon, ← roundHalfUp (e * 100.0)]

/-- Each point with its elevation, when there are as many elevations as points. -/
def withElevations (points : List Point) (elevations : Option (List Float)) :
    List (Point × Option Float) :=
  match elevations with
  | some heights =>
    if heights.length = points.length then points.zip (heights.map some)
    else points.map (·, none)
  | none => points.map (·, none)

/-- The whole numbers of a path, one row for each point. -/
def quantize (points : List Point) (elevations : Option (List Float)) (multiplier : Float) :
    Except Fault (List (List Int)) :=
  (withElevations points elevations).mapM fun (point, elevation) =>
    quantizePoint multiplier point elevation

/-! ## 3. The text -/

/-- The differences of each row to the one before. -/
def differences (before : List Int) : List (List Int) → List (List Int)
  | [] => []
  | row :: rest => List.zipWith (· - ·) row before :: differences row rest

/-- The characters of rows of whole numbers. -/
def encodeRows (rows : List (List Int)) : List Char :=
  (differences [0, 0, 0] rows).flatMap (·.flatMap encodeNumber)

/-- The polyline of a path whose coordinates are scaled by a multiplier of at least one. -/
def encodePolyline (points : List Point) (elevations : Option (List Float)) (multiplier : Float) :
    Except Fault String := do
  if multiplier < 1.0 then throw (.unexpected .multiplierBelowOne)
  return String.ofList (encodeRows (← quantize points elevations multiplier))

end Waypost
