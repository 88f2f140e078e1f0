import Waypost.Geo.Point

/-!
# Outcomes

* `Instruction`, `DetailRun` and `Path` -- what an engine says about one way to go;
* `Outcome` -- the answer of an engine: paths, the best one first, or faults.
-/

namespace Waypost

/-- A turn instruction for the points from `first` to `last`. Street name and heading are passed on
    in the form in which the engine gave them. -/
structure Instruction where
  sign : Int
  text : String
  distance : Float
  time : Int
  first : Int
  last : Int
  streetName : Json := .str ""
  heading : Option Json := none

/-- A stretch of points over which a detail has one value. -/
structure DetailRun where
  first : Int
  last : Int
  value : Json

/-- One way to go. Times are in milliseconds. -/
structure Path where
  distance : Float
  time : Int
  weight : Float
  points : List Point
  elevations : List Float := []
  instructions : Option (List Instruction) := none
  details : List (String × List DetailRun) := []
  snapped : List Point := []
  ascend : Float := 0.0
  descend : Float := 0.0

/-- A path has elevation when every point has one. -/
def Path.hasElevation (p : Path) : Bool :=
  !p.elevations.isEmpty && p.elevations.length == p.points.length

/-- What an engine answers: paths, the best one first, or faults. -/
structure Outcome where
  paths : List Path := []
  faults : List Fault := []
  debug : Members := []

namespace Outcome

/-- The outcome of a failure. -/
def failure (fault : Fault) : Outcome := { faults := [fault] }

/-- Whether an outcome holds faults. -/
def hasFaults (o : Outcome) : Bool := !o.faults.isEmpty

/-- The first path. -/
def best (o : Outcome) : Except Fault Path :=
  match o.paths with
  | path :: _ => .ok path
  | [] => .error (.unexpected .noPaths)

theorem hasFaults_eq_true {o : Outcome} : o.hasFaults = true ↔ o.faults ≠ [] := by
  unfold hasFaults
  cases o.faults <;> simp

theorem hasFaults_eq_false {o : Outcome} : o.hasFaults = false ↔ o.faults = [] := by
  unfold hasFaults
  cases o.faults <;> simp

@[simp] theorem hasFaults_failure (fault : Fault) : (failure fault).hasFaults = true := rfl

@[simp] theorem paths_failure (fault : Fault) : (failure fault).paths = [] := rfl

end Outcome

end Waypost
