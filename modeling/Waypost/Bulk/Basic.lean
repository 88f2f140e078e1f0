import Waypost.Document.Route
import Waypost.Request.Build

/-!
# Batches

A batch asks for the way from one origin to each of many destinations.

* `Destination` and `BulkRequest` -- what is asked, and `BulkRequest.checkedOrigin`, which turns an
  incomplete batch down;
* `BulkQuery` and `Hints.shared` -- what all legs have in common;
* `BulkResult` and `BulkEntry` -- what is answered for one destination;
* `bulkJson` -- the document of a batch.
-/

namespace Waypost

open Decimal

/-! ## 1. Questions -/

/-- A place to go to, under a name of the caller. Names may repeat. -/
structure Destination where
  id : String
  point : Point

/-- One origin and many destinations, as they were sent. -/
structure BulkRequest where
  origin : Option Point
  destinations : List Destination

/-- The origin of a batch that has one and that has a destination. -/
def BulkRequest.checkedOrigin (bulk : BulkRequest) : Except Fault Point :=
  match bulk.origin with
  | none => .error (.refused .noPoints)
  | some origin =>
    if bulk.destinations.isEmpty then .error (.refused .noDestinations) else .ok origin

/-- The profile of a batch that names none. -/
def defaultBulkProfile : String := "car"

/-- The typed view of a query string for a batch. -/
structure BulkQuery where
  profile : String := defaultBulkProfile
  algorithm : String := ""
  locale : String := "en"
  instructions : Bool := true
  calcPoints : Bool := true
  wayPointMaxDistance : Float := defaultWayPointMaxDistance
  pathDetails : List String := []
  outputType : String := "json"

/-- The hints that all legs of a batch share: those of the query, then its typed switches. -/
def Hints.shared (q : BulkQuery) (raw : Grouped) : Except Fault Hints := do
  let hints ← Hints.ofQuery raw Key.structural
  return ((hints.set Key.calcPoints (.flag q.calcPoints)).set Key.instructions
    (.flag q.instructions)).set Key.wayPointMaxDistance (.float q.wayPointMaxDistance)

/-! ## 2. Answers -/

/-- What came of one leg: distance and time of the best path, or what went wrong. -/
inductive BulkResult where
  | reached (distance : Float) (time : Int)
  | failed (error : Json)

/-- What came of the leg to one destination. -/
structure BulkEntry where
  id : String
  result : BulkResult

/-- Whether a leg has a path. -/
def BulkEntry.ok (entry : BulkEntry) : Bool :=
  match entry.result with
  | .reached _ _ => true
  | .failed _ => false

/-- The message of the fault at an index, where only a text can be joined. -/
def joinablePart (index : Nat) (fault : Fault) : Except Fault String :=
  match fault.message with
  | .str s => .ok s
  | other => .error (.mismatch (.partNotText index other.kindName))

/-- The messages of some faults as one text. -/
def joinedMessages (faults : List Fault) : Except Fault String := do
  return "; ".intercalate (← (faults.zipIdx).mapM fun (fault, index) => joinablePart index fault)

/-- What came of a leg with this outcome. An outcome without faults needs a path. -/
def BulkResult.ofOutcome (outcome : Outcome) : Except Fault BulkResult := do
  if outcome.hasFaults then
    return .failed (.str (← joinedMessages outcome.faults))
  let best ← outcome.best
  return .reached (roundPlaces 3 best.distance) best.time

/-- The object of an entry. -/
def BulkEntry.toJson (entry : BulkEntry) : Json :=
  match entry.result with
  | .failed error => .obj [("id", .str entry.id), ("error", error)]
  | .reached distance time =>
    .obj [("id", .str entry.id), ("distance", .float distance), ("time", .int time)]

/-- The document of a batch. -/
def bulkJson (entries : List BulkEntry) (copyrights : List String) : Json :=
  .obj [("info", .obj [("copyrights", jsonTexts copyrights)]),
    ("data", .arr (entries.map BulkEntry.toJson))]

end Waypost
