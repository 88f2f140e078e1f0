import Waypost.Service.Basic

/-!
# Answers for a batch

* `Service.legRoute` -- one leg of a batch: built from the shared hints, then taken to its outcome
  like a single route;
* `Service.routeBulk` -- the answer to a batch: one entry for each destination, in order. Only an
  incomplete batch is refused as a whole.
-/

namespace Waypost

open Decimal

namespace Service

/-- What all legs of a batch have in common. -/
def legOptions (service : Service) (q : BulkQuery) (hints : Hints) : LegOptions where
  profile := q.profile
  algorithm := q.algorithm
  locale := q.locale
  pathDetails := q.pathDetails
  snapPreventions := service.settings.snapPreventionsDefault
  hints := hints

/-- How the service routes a leg. -/
def legRoute (service : Service) (q : BulkQuery) (hints : Hints) (origin : Point) : LegRoute :=
  fun destination => do
    let r ← Request.ofLeg (service.legOptions q hints) origin destination.point
    service.dispatch r

/-- How many legs may be under way at once. -/
def maxParallel (service : Service) : Int :=
  if service.engine.threadSafe then service.settings.bulkMaxParallel else 1

/-- The log line of a batch. -/
def bulkSummary (service : Service) (entries : List BulkEntry) (clock : Clock) : String :=
  let failures := (entries.filter fun entry => !entry.ok).length
  s!"bulk destinations: {entries.length}, failed: {failures}, "
    ++ s!"took: {fixed 1 clock.millis}ms, parallel: {service.maxParallel}"

/-- The entries of a batch. -/
def bulkEntries (service : Service) (q : BulkQuery) (hints : Hints) (origin : Point)
    (destinations : List Destination) : Run (List BulkEntry) :=
  routeDestinations service.maxParallel service.schedule (service.legRoute q hints origin)
    destinations

/-- Answers a batch. -/
def routeBulk (service : Service) (bulk : BulkRequest) (q : BulkQuery) (raw : Grouped)
    (clock : Clock) : Run Response := do
  match bulk.checkedOrigin with
  | .error fault => errorResponse [fault] (some q.outputType) service.settings.gpxCreator
  | .ok origin => do
    let hints ← Hints.shared q raw
    let entries ← service.bulkEntries q hints origin bulk.destinations
    Run.log .info (service.bulkSummary entries clock)
    let took ← clock.wholeMillis
    return .ofJson 200 (bulkJson entries service.settings.bulkCopyrights)
      [(tookHeader, toString took)]

end Service

end Waypost
