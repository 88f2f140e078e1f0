import Waypost.Hints.Query
import Waypost.Request.Basic
import Waypost.Text.Blank
import Waypost.Text.Case

/-!
# Building requests

Three sources lead to a request: a query string, a JSON body, and one leg of a batch.

* `RouteQuery` and `Request.ofQuery` -- the typed view of a query string together with the whole
  multi-valued map, which feeds the hints;
* `RouteBody` and `Request.ofBody` -- a validated body; its unknown members are hints;
* `Request.ofLeg` -- destination and origin with the hints that all legs share.

A query writes its typed switches over the hints, a body only fills in the ones that are missing;
both end in the same defaults.
-/

namespace Waypost

open Text

/-- What the server decides for every request. -/
structure ServerOptions where
  snapDefault : List String := []
  hasElevation : Bool := false

/-! ## 1. Shared rules -/

/-- Whether an output type, in any letter case, asks for a track document. -/
def isXmlType (outputType : String) : Bool :=
  let name := lower outputType
  name == "gpx" || name == "xml"

/-- The snap preventions of a request: the default when none were sent, no restriction for a single
    empty value, and otherwise what was sent. -/
def resolveSnapPreventions (present : Bool) (values defaults : List String) : List String :=
  if !present then defaults
  else if values == [""] then []
  else values

/-! ## 2. Query strings -/

/-- The typed view of a query string for one route. -/
structure RouteQuery where
  points : List String := []
  profile : Option String := none
  algorithm : String := ""
  locale : String := "en"
  instructions : Bool := true
  calcPoints : Bool := true
  elevation : Bool := false
  headings : List Float := []
  pointHints : List String := []
  curbsides : List String := []
  snapPreventions : List String := []
  pathDetails : List String := []
  wayPointMaxDistance : Float := defaultWayPointMaxDistance
  elevationWayPointMaxDistance : Option Float := none
  outputType : String := "json"
  pointsEncoded : Bool := true
  pointsEncodedMultiplier : Float := 1e5
  gpxRoute : Bool := true
  gpxTrack : Bool := true
  gpxWaypoints : Bool := false
  gpxTrackName : String := "GraphHopper Track"
  gpxMillis : Option String := none

/-- Whether the answer is to be a track document. -/
def RouteQuery.writesTrack (q : RouteQuery) : Bool := isXmlType q.outputType

/-- The switches that a query writes over the hints. A track document needs instructions. -/
def RouteQuery.switches (q : RouteQuery) (h : Hints) : Hints :=
  let h :=
    match q.elevationWayPointMaxDistance with
    | some d => h.set Key.elevationWayPointMaxDistance (.float d)
    | none => h
  ((h.set Key.calcPoints (.flag q.calcPoints)).set Key.instructions
    (.flag (q.writesTrack || q.instructions))).set Key.wayPointMaxDistance
      (.float q.wayPointMaxDistance)

/-- An empty text counts as absent. -/
def orDefault (s fallback : String) : String := if s.isEmpty then fallback else s

/-- The request of a query string. -/
def Request.ofQuery (options : ServerOptions) (q : RouteQuery) (raw : Grouped) :
    Except Fault Request := do
  ensureElevation q.elevation options.hasElevation
  let hints ← Hints.ofQuery raw Key.structural
  let points ← q.points.mapM Point.parse
  Request.validate {
    points
    profile := q.profile.getD ""
    algorithm := q.algorithm
    locale := orDefault q.locale "en"
    headings := q.headings
    pointHints := q.pointHints
    curbsides := q.curbsides
    snapPreventions :=
      some (resolveSnapPreventions (raw.has Key.snapPrevention) q.snapPreventions
        options.snapDefault)
    pathDetails := q.pathDetails
    hints := q.switches hints }

/-! ## 3. Bodies -/

/-- A validated body for one route. Members it does not know are kept as they came. -/
structure RouteBody where
  points : List Point := []
  profile : Option String := none
  algorithm : String := ""
  locale : String := "en"
  headings : List Float := []
  pointHints : List String := []
  curbsides : List String := []
  snapPreventions : Option (List String) := none
  details : List String := []
  customModel : Option Members := none
  extra : Members := []

/-- Whether a value is an object or a list. -/
def Json.isContainer : Json → Bool
  | .arr _ | .obj _ => true
  | _ => false

/-- Whether a member of a body can be a hint: a scalar, or a list of scalars. -/
def isHintable : Json → Bool
  | .null => false
  | .obj _ => false
  | .arr items => !items.any Json.isContainer
  | _ => true

/-- The hints of a body: its unknown members, then the defaults for what is missing. -/
def Hints.ofBody (extra : Members) : Except Fault Hints := do
  let h ← Hints.empty.putAll (extra.filter fun member => isHintable member.2)
  let h ← h.putDefault Key.calcPoints (.bool true)
  let h ← h.putDefault Key.instructions (.bool true)
  h.putDefault Key.wayPointMaxDistance (.float defaultWayPointMaxDistance)

/-- The request of a body. -/
def Request.ofBody (options : ServerOptions) (b : RouteBody) : Except Fault Request := do
  let hints ← Hints.ofBody b.extra
  ensureElevation ((hints.flag? Key.elevation).getD false) options.hasElevation
  Request.validate {
    points := b.points
    profile := b.profile.getD ""
    algorithm := b.algorithm
    locale := orDefault b.locale "en"
    headings := b.headings
    pointHints := b.pointHints
    curbsides := b.curbsides
    snapPreventions :=
      some (resolveSnapPreventions b.snapPreventions.isSome (b.snapPreventions.getD [])
        options.snapDefault)
    pathDetails := b.details
    hints
    customModel := b.customModel }

/-! ## 4. Legs of a batch -/

/-- What all legs of a batch have in common. -/
structure LegOptions where
  profile : String
  algorithm : String
  locale : String
  pathDetails : List String
  snapPreventions : List String := []
  hints : Hints

/-- The request of one leg; the destination comes first. -/
def Request.ofLeg (options : LegOptions) (origin destination : Point) : Except Fault Request :=
  Request.validate {
    points := [destination, origin]
    profile := options.profile
    algorithm := options.algorithm
    locale := options.locale
    snapPreventions := some options.snapPreventions
    pathDetails := options.pathDetails
    hints := options.hints }

end Waypost
