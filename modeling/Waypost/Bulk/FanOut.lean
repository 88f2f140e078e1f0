import Waypost.Bulk.Basic
import Waypost.Run

/-!
# Routing the legs of a batch

Each leg is routed on its own: whatever goes wrong on it becomes the entry of its destination and
touches no other entry.

* `Leg` -- a destination together with the run that routes it;
* `routeOne` -- one leg, which never fails;
* `routeInOrder` -- the legs one after another;
* `routePooled` -- the legs by a pool of workers that completes them in any order; the entries are
  then collected in the order of the destinations, each into the slot of its own;
* `routeLegs` -- the first way or the second, as the limit allows;
* `routeDestinations` -- the same for a way of routing that depends on the destination alone.
-/

namespace Waypost

/-- A destination of a batch together with the run that routes it. -/
structure Leg where
  destination : Destination
  route : Run Outcome

/-- How a leg of a batch is routed. -/
abbrev LegRoute := Destination → Run Outcome

/-- The order in which a pool of workers completes a number of tasks, as a list of their indexes. -/
abbrev Schedule := Nat → List Nat

/-- The entry of a leg that ended this way. -/
def BulkEntry.ofEnd (id : String) : Except Fault BulkResult → BulkEntry
  | .ok result => ⟨id, result⟩
  | .error fault => ⟨id, .failed fault.message⟩

/-- Logs an entry of failure. An error is a text or a value of an answer that was read, and has a
    text as such, for no whole number in it is too long to be written. -/
def BulkEntry.logFailure (entry : BulkEntry) : Run Unit :=
  match entry.result with
  | .failed error =>
    Run.log .info ("Bulk destination '" ++ entry.id ++ "' failed: " ++ error.text.toOption.getD "")
  | .reached _ _ => pure ()

/-- One leg. -/
def routeOne (leg : Leg) : Run BulkEntry := do
  let ending ← (do BulkResult.ofOutcome (← leg.route) : Run BulkResult).attempt
  let entry := BulkEntry.ofEnd leg.destination.id ending
  entry.logFailure
  return entry

/-- The legs one after another. -/
def routeInOrder (legs : List Leg) : Run (List BulkEntry) := legs.mapM routeOne

/-- The entries of the tasks that a pool has completed, by the index of the task. -/
abbrev Completed := List (Nat × BulkEntry)

/-- Completes the task with one index. -/
def completeTask (legs : List Leg) (completed : Completed) (index : Nat) : Run Completed := do
  match legs[index]? with
  | none => return completed
  | some leg => return completed ++ [(index, ← routeOne leg)]

/-- A slot for each of a number of tasks, filled with their entries in the order of the tasks. -/
def fillSlots (completed : Completed) (tasks : Nat) : List (Option BulkEntry) :=
  (List.range tasks).foldl (fun slots index => slots.set index (completed.lookup index))
    (List.replicate tasks none)

/-- The legs in the order in which a pool completes them. -/
def routePooled (order : List Nat) (legs : List Leg) : Run (List BulkEntry) := do
  let completed ← order.foldlM (completeTask legs) []
  return (fillSlots completed legs.length).filterMap id

/-- The entries of all legs. A pool is used when the limit allows more than one worker and there is
    more than one leg. -/
def routeLegs (maxParallel : Int) (schedule : Schedule) (legs : List Leg) :
    Run (List BulkEntry) :=
  if maxParallel ≤ 1 || legs.length ≤ 1 then routeInOrder legs
  else routePooled (schedule legs.length) legs

/-- The entries of all destinations. -/
def routeDestinations (maxParallel : Int) (schedule : Schedule) (leg : LegRoute)
    (destinations : List Destination) : Run (List BulkEntry) :=
  routeLegs maxParallel schedule (destinations.map fun d => ⟨d, leg d⟩)

@[simp] theorem BulkEntry.id_ofEnd (id : String) (ending : Except Fault BulkResult) :
    (BulkEntry.ofEnd id ending).id = id := by
  cases ending <;> rfl

end Waypost
