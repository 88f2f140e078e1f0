import Waypost.Geo.Distance
import Waypost.Outcome

/-!
# Times along a track

Each instruction of a path spreads its time over the segments it covers, in proportion to their
lengths; a path without instructions is one stretch that covers all points.

* `Stretch` -- the points from `first` to `last` and the time they take;
* `shares` -- the part of the time that each segment gets;
* `pointTimes` -- one time for each point, in milliseconds.

The length of a segment is any function of its two points.
-/

namespace Waypost

/-- A part of a path and the time it takes. -/
structure Stretch where
  first : Int
  last : Int
  duration : Int

/-- The stretches of a path. -/
def Path.stretches (path : Path) : List Stretch :=
  match path.instructions with
  | some (i :: rest) => (i :: rest).map fun i => ⟨i.first, i.last, i.time⟩
  | _ => [⟨0, (path.points.length : Int) - 1, path.time⟩]

/-- The place of an index in a list of a given length; a negative index counts from the end. -/
def place? (length : Nat) (index : Int) : Option Nat :=
  match index with
  | .ofNat i => if i < length then some i else none
  | .negSucc i => if i < length then some (length - 1 - i) else none

/-- The item at an index. -/
def itemAt (items : List α) (index : Int) : Except Fault α :=
  match (place? items.length index).bind (items[·]?) with
  | some item => .ok item
  | none => .error (.mismatch (.indexOutOfRange "list"))

/-- The part of the whole that each length has; equal parts when there is no length at all. -/
def shares (lengths : List Float) : List Float :=
  let total := lengths.foldl (· + ·) 0.0
  lengths.map fun length =>
    if 0.0 < total then length / total else 1.0 / Float.ofNat lengths.length

/-- The length of the segment that begins at an index. -/
def segmentLength (lengthOf : Point → Point → Except Fault Float) (points : List Point)
    (index : Int) : Except Fault Float := do
  lengthOf (← itemAt points index) (← itemAt points (index + 1))

/-- The lengths of so many segments, the first of which begins at an index. -/
def segmentLengths (lengthOf : Point → Point → Except Fault Float) (points : List Point)
    (index : Int) : Nat → Except Fault (List Float)
  | 0 => .ok []
  | count + 1 => do
    let length ← segmentLength lengthOf points index
    return length :: (← segmentLengths lengthOf points (index + 1) count)

/-- The time so far and the times of all points. -/
structure Stamps where
  elapsed : Float
  times : List Float

/-- Adds one part of a duration and stamps the point behind it. -/
def Stamps.advance (duration : Float) (s : Stamps) (step : Int × Float) : Stamps :=
  let elapsed := s.elapsed + duration * step.2
  match place? s.times.length (step.1 + 1) with
  | some i => ⟨elapsed, s.times.set i elapsed⟩
  | none => ⟨elapsed, s.times⟩

/-- Stamps the points of one stretch behind its first. A stretch without a segment is skipped. -/
def Stamps.cover (lengthOf : Point → Point → Except Fault Float) (points : List Point)
    (s : Stamps) (stretch : Stretch) : Except Fault Stamps := do
  let last := min stretch.last ((points.length : Int) - 1)
  if last ≤ stretch.first then return s
  let lengths ← segmentLengths lengthOf points stretch.first (last - stretch.first).toNat
  let duration ← floatOfInt stretch.duration
  let parts := (shares lengths).zipIdx.map fun (share, i) => (stretch.first + (i : Int), share)
  return parts.foldl (Stamps.advance duration) s

/-- One time for each point of a path that begins at the given moment. -/
def pointTimes (lengthOf : Point → Point → Except Fault Float) (path : Path) (start : Int) :
    Except Fault (List Float) := do
  if path.points.isEmpty then return []
  let origin ← floatOfInt start
  let stamps ← path.stretches.foldlM (Stamps.cover lengthOf path.points)
    ⟨origin, List.replicate path.points.length origin⟩
  return stamps.times

end Waypost
