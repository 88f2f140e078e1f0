import Waypost.Decimal.Reader
import Waypost.Decimal.Shortest
import Waypost.Document.Moment
import Waypost.Document.TrackTimes
import Waypost.Document.Xml
import Waypost.Text.Blank

/-!
# Track documents

One path as a GPX 1.1 document: waypoints for its two ends, a route point for each instruction,
and a track point with a time for each point.

* `TrackOptions` -- what goes into the document;
* `trackXml` -- the document of a path that begins at a given moment;
* `outcomeTrack` -- the document of an outcome, which must hold exactly one path.
-/

namespace Waypost

open Text Decimal

/-- What goes into a track document. -/
structure TrackOptions where
  trackName : String := "GraphHopper Track"
  elevation : Bool := false
  route : Bool := true
  track : Bool := true
  waypoints : Bool := false
  version : String := ""
  creator : String := "GraphHopper"

/-! ## 1. Parts -/

/-- An element that holds a text. -/
def textElement (name text : String) : Xml := .leaf name [] text

/-- The attributes of a point, with six decimal places. -/
def positionAttributes (p : Point) : List (String × String) :=
  [("lat", fixed 6 p.lat.toFloat), ("lon", fixed 6 p.lon.toFloat)]

/-- The moment at which a path begins, as the document states it. -/
def startText (start : Int) : Except Fault String := do momentText (← floatOfInt start)

/-- The element about the document itself. -/
def metadataElement (time : String) : Xml :=
  .node "metadata" [] [
    .leaf "copyright" [("author", "OpenStreetMap contributors")] "",
    .node "link" [("href", "http://graphhopper.com")] [textElement "text" "GraphHopper GPX"],
    textElement "time" time]

/-- The two ends of a path. -/
def waypointElements (points : List Point) : List Xml :=
  match points.head?, points.getLast? with
  | some first, some last =>
    [.node "wpt" (positionAttributes first) [textElement "name" "start"],
      .node "wpt" (positionAttributes last) [textElement "name" "end"]]
  | _, _ => []

/-- Direction and azimuth of an instruction that leads from one point to a later one. -/
def directionElements (point target : Point) : List Xml :=
  let azimuth := point.bearingTo target
  [textElement "gh:direction" (compassPoint azimuth),
    textElement "gh:azimuth" (floatText (roundPlaces 2 azimuth))]

/-- The direction from a point to the one at a later index. An index that is not later has none. -/
def leadingElements (points : List Point) (point : Point) (index next : Int) :
    Except Fault (List Xml) :=
  if index < next then directionElements point <$> itemAt points next else .ok []

/-- The route point of an instruction. Indexes beyond the path mean its last point. -/
def routePoint (points : List Point) (i : Instruction) : Except Fault Xml := do
  let final := (points.length : Int) - 1
  let index := min i.first final
  let next := min i.last final
  let point ← itemAt points index
  let time ← integerText i.time
  let direction ← leadingElements points point index next
  let sign ← integerText i.sign
  return .node "rtept" (positionAttributes point) [
    textElement "desc" i.text,
    .node "extensions" [] ([
      textElement "gh:distance" (floatText (roundPlaces 1 i.distance)),
      textElement "gh:time" time]
      ++ direction ++ [textElement "gh:sign" sign])]

/-- The route of a path: nothing without instructions or without points. -/
def routeElements (path : Path) : Except Fault (List Xml) :=
  match path.instructions with
  | some (i :: rest) =>
    if path.points.isEmpty then .ok []
    else do return [.node "rte" [] (← (i :: rest).mapM (routePoint path.points))]
  | _ => .ok []

/-- A point of the track with its elevation, if it has one, and its time. -/
def trackPoint (point : Point) (elevation : Option Float) (millis : Float) : Except Fault Xml := do
  let height :=
    match elevation with
    | some e => [textElement "ele" (floatText (roundPlaces 2 e))]
    | none => []
  let time := textElement "time" (← momentText millis)
  return .node "trkpt" (positionAttributes point) (height ++ [time])

/-- The elevation of each point, when the document shows it and the path has it. -/
def shownElevations (options : TrackOptions) (path : Path) : List (Option Float) :=
  if options.elevation && path.hasElevation then path.elevations.map some
  else path.points.map fun _ => none

/-- The track of a path. -/
def trackElement (options : TrackOptions) (path : Path) (start : Int) : Except Fault Xml := do
  let times ← pointTimes Point.distanceTo path start
  let stamped := (path.points.zip (shownElevations options path)).zip times
  let points ← stamped.mapM fun ((point, elevation), millis) => trackPoint point elevation millis
  return .node "trk" [] [textElement "name" options.trackName, .node "trkseg" [] points]

/-! ## 2. Documents -/

/-- The attributes of a track document. -/
def trackAttributes (options : TrackOptions) : List (String × String) :=
  let schema := "http://www.topografix.com/GPX/1/1"
  [("xmlns", schema), ("xmlns:xsi", "http://www.w3.org/2001/XMLSchema-instance"),
    ("xmlns:gh", "https://graphhopper.com/public/schema/gpx-1.1"),
    ("xsi:schemaLocation", schema ++ " http://www.topografix.com/GPX/1/1/gpx.xsd"),
    ("creator", strip (options.creator ++ " " ++ options.version)), ("version", "1.1")]

/-- The document of a path that begins at the given moment. -/
def trackXml (options : TrackOptions) (path : Path) (start : Int) : Except Fault Xml := do
  let time ← startText start
  let waypoints := if options.waypoints then waypointElements path.points else []
  let route ← if options.route then routeElements path else pure []
  let track ← if options.track then do pure [← trackElement options path start] else pure []
  return .node "gpx" (trackAttributes options) (metadataElement time :: waypoints ++ route ++ track)

/-- The moment that a caller named. -/
def namedMillis (text : String) : Except Fault Int :=
  match looseInteger? text with
  | some n => .ok n
  | none => .error (.refused (.unreadableMillis text))

/-- The document of an outcome. It cannot carry alternatives. Its path begins at the moment that a
    caller named, or now, in whole seconds. -/
def outcomeTrack (options : TrackOptions) (outcome : Outcome) (millis : Option String)
    (now : Int) : Except Fault String := do
  if 1 < outcome.paths.length then throw (.refused .alternativesInTrack)
  let named ← millis.mapM namedMillis
  let path ← outcome.best
  let start ← named.elim (clockMillis now) pure
  return xmlDocument (← trackXml options path start)

end Waypost
