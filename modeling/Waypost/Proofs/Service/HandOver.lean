import Mathlib.Data.List.Basic
import Waypost.Proofs.Bulk.Isolation
import Waypost.Proofs.Service.Attempt
import Waypost.Service.Batch
import Waypost.Service.Route

/-!
# What the service hands to its engine

A request goes to the engine when it is ready, and then once.

* `handed_routeQuery`, `handed_routeBody` -- an answer to one request hands over that request, and
  nothing while it is logged and written;
* `handed_routeBulk` -- a batch hands over the requests of its legs, in any order.
-/

namespace Waypost

namespace Service

/-- The request of one leg of a batch as it is built. -/
def builtLeg (service : Service) (bulk : BulkRequest) (q : BulkQuery) (raw : Grouped)
    (destination : Destination) : Except Fault Request := do
  let origin ← bulk.checkedOrigin
  let hints ← Hints.shared q raw
  Request.ofLeg (service.legOptions q hints) origin destination.point

/-! ## 1. Answers to one request -/

theorem handed_logRequest (caller : Caller) (attempted : Attempted) (clock : Clock) :
    (logRequest caller attempted clock).handed = [] := by
  unfold logRequest
  rw [Run.liftM_eq_ofExcept, Run.handed_bind_of_nil _ fun _ => Run.handed_log _ _,
    Run.handed_ofExcept]

theorem handed_routeQuery (service : Service) (q : RouteQuery) (raw : Grouped) (caller : Caller)
    (clock : Clock) :
    (service.routeQuery q raw caller clock).handed =
      (service.ready (Request.ofQuery service.options q raw)).toList := by
  unfold routeQuery
  rw [Run.handed_bind_of_nil, handed_run]
  intro attempted
  rw [Run.handed_bind_of_nil, handed_logRequest]
  intro _
  dsimp only
  split
  · rfl
  · rw [Run.liftM_eq_ofExcept, Run.handed_bind_of_nil, Run.handed_ofExcept]
    intro took
    split <;> rfl

theorem handed_routeBody (service : Service) (body : RouteBody) (caller : Caller) (clock : Clock) :
    (service.routeBody body caller clock).handed =
      (service.ready (Request.ofBody service.options body)).toList := by
  unfold routeBody
  rw [Run.handed_bind_of_nil, handed_run]
  intro attempted
  rw [Run.handed_bind_of_nil, handed_logRequest]
  intro _
  dsimp only
  split <;> rfl

/-! ## 2. Batches -/

theorem handed_legRoute (service : Service) (q : BulkQuery) (hints : Hints) (origin : Point)
    (destination : Destination) :
    (service.legRoute q hints origin destination).handed =
      (service.ready
        (Request.ofLeg (service.legOptions q hints) origin destination.point)).toList := by
  unfold legRoute
  rw [Run.liftM_eq_ofExcept, Run.handed_ofExcept_bind]
  cases Request.ofLeg (service.legOptions q hints) origin destination.point with
  | ok r => exact handed_dispatch service r
  | error fault => rfl

theorem handed_bulkEntries (service : Service) (hfair : service.schedule.Fair) (q : BulkQuery)
    (hints : Hints) (origin : Point) (destinations : List Destination) :
    (service.bulkEntries q hints origin destinations).handed.Perm
      (destinations.flatMap fun d => (service.legRoute q hints origin d).handed) := by
  unfold bulkEntries routeDestinations
  refine (handed_routeLegs service.maxParallel hfair _).trans (List.Perm.of_eq ?_)
  rw [List.flatMap_map]

/-- **A batch hands over, for each destination, the request of its leg if that is ready.** -/
theorem handed_routeBulk (service : Service) (hfair : service.schedule.Fair) (bulk : BulkRequest)
    (q : BulkQuery) (raw : Grouped) (clock : Clock) :
    (service.routeBulk bulk q raw clock).handed.Perm
      (bulk.destinations.filterMap fun d => service.ready (service.builtLeg bulk q raw d)) := by
  have hnone : (bulk.destinations.filterMap fun _ => (none : Option Request)) = [] :=
    List.filterMap_eq_nil_iff.mpr fun _ _ => rfl
  unfold routeBulk builtLeg
  cases bulk.checkedOrigin with
  | error fault =>
    show List.Perm [] (bulk.destinations.filterMap fun _ => none)
    rw [hnone]
  | ok origin =>
    dsimp only
    rw [Run.liftM_eq_ofExcept, Run.handed_ofExcept_bind]
    cases Hints.shared q raw with
    | error fault =>
      show List.Perm [] (bulk.destinations.filterMap fun _ => none)
      rw [hnone]
    | ok hints =>
      dsimp only
      rw [Run.handed_bind_of_nil]
      · refine (handed_bulkEntries service hfair q hints origin _).trans (List.Perm.of_eq ?_)
        simp only [handed_legRoute]
        exact (List.filterMap_eq_flatMap_toList _ _).symm
      · intro entries
        rw [Run.handed_bind_of_nil, Run.handed_log]
        intro _
        rw [Run.liftM_eq_ofExcept, Run.handed_bind_of_nil _ fun _ => Run.handed_pure _,
          Run.handed_ofExcept]

end Service

end Waypost
