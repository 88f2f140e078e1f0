import Waypost.Proofs.Document.Markup
import Waypost.Proofs.Document.TrackTimes

/-!
# The parts of a track document

The lists that a track document is made of are of independent lengths: points, elevations,
instructions and times. Instructions may lie beyond the path and over one another.

* `Xml.named` -- the children of an element by their name;
* `Path.Forward` -- no instruction begins or ends at a negative index;
* `Stretch.Shareable`, `exists_pointTimes_of_forward` -- when the times of a path can be told;
* `Path.StampsPoints` -- the clock of a path stays on the path;
* `IsRoutePoint`, `IsRoute`, `isRoute_of_shownRoute` -- a route has a point for each instruction;
* `IsTrackPoint`, `IsTrack`, `isTrack_of_trackElement` -- a track has a point for each point.
-/

namespace Waypost

open Decimal

/-! ## 1. Elements by name -/

/-- The name of an element. -/
def Xml.name : Xml → String
  | .leaf name _ _ => name
  | .node name _ _ => name

/-- The attributes of an element. -/
def Xml.attributes : Xml → List (String × String)
  | .leaf _ attributes _ => attributes
  | .node _ attributes _ => attributes

/-- The child elements of an element. -/
def Xml.children : Xml → List Xml
  | .leaf _ _ _ => []
  | .node _ _ children => children

/-- The child elements of an element that have a name. -/
def Xml.named (name : String) (x : Xml) : List Xml := x.children.filter (·.name == name)

/-! ## 2. Forward paths -/

/-- A path no instruction of which begins or ends at a negative index. -/
def Path.Forward (path : Path) : Prop :=
  ∀ list, path.instructions = some list → ∀ i ∈ list, 0 ≤ i.first ∧ 0 ≤ i.last

/-- The place of a point that an instruction names: beyond the path it is the last one. -/
def pointIndex (points : List Point) (index : Int) : Nat :=
  (min index ((points.length : Int) - 1)).toNat

/-- The time of a stretch can be shared out: if it covers a segment, its time has a double, and each
    segment that it covers has a length. -/
def Stretch.Shareable (lengthOf : Point → Point → Except Fault Float) (points : List Point)
    (stretch : Stretch) : Prop :=
  let last := min stretch.last ((points.length : Int) - 1)
  stretch.first < last → (∃ x, floatOfInt stretch.duration = .ok x) ∧
    ∀ k : Nat, stretch.first ≤ k → (k : Int) < last →
      ∀ p q, points[k]? = some p → points[k + 1]? = some q → ∃ length, lengthOf p q = .ok length

theorem forward_stretches {path : Path} (h : path.Forward) :
    ∀ stretch ∈ path.stretches, 0 ≤ stretch.first := by
  by_cases hnone : ∀ list, path.instructions = some list → list = []
  · rw [stretches_of_none hnone]
    intro stretch hmem
    rw [List.mem_singleton.mp hmem]
  · push Not at hnone
    obtain ⟨list, hlist, hne⟩ := hnone
    rw [stretches_of_instructions hlist hne]
    intro stretch hmem
    obtain ⟨i, hi, rfl⟩ := List.mem_map.mp hmem
    exact (h list hlist i hi).1

theorem forward_turns {path : Path} (h : path.Forward) :
    ∀ i ∈ path.turns, 0 ≤ i.first ∧ 0 ≤ i.last := by
  unfold Path.turns
  cases hlist : path.instructions with
  | none => nofun
  | some list => exact h list hlist

section Times

variable {lengthOf : Point → Point → Except Fault Float} {points : List Point}

/-- So many segments have lengths exactly when each of them has. -/
theorem exists_segmentLengths {first count : Nat} (hfits : first + count < points.length) :
    (∃ lengths, segmentLengths lengthOf points first count = .ok lengths) ↔
      ∀ k, first ≤ k → k < first + count →
        ∀ p q, points[k]? = some p → points[k + 1]? = some q →
          ∃ length, lengthOf p q = .ok length := by
  induction count generalizing first with
  | zero => exact iff_of_true ⟨[], rfl⟩ fun k hlow hhigh => by omega
  | succ count ih =>
    have hp := List.getElem?_eq_getElem (show first < points.length by omega)
    have hq := List.getElem?_eq_getElem (show first + 1 < points.length by omega)
    have hnext : itemAt points ((first : Int) + 1) = .ok points[first + 1] :=
      itemAt_of_getElem? hq
    have hhere : segmentLength lengthOf points first =
        lengthOf points[first] points[first + 1] := by
      unfold segmentLength
      rw [itemAt_of_getElem? hp, ok_bind, hnext, ok_bind]
    have hrest := @ih (first + 1) (by omega)
    unfold segmentLengths
    rw [hhere]
    constructor
    · intro h k hlow hhigh p q hk hk'
      obtain ⟨lengths, h⟩ := h
      obtain ⟨length, hlength, h⟩ := bind_eq_ok.mp h
      obtain ⟨others, hothers, -⟩ := bind_eq_ok.mp h
      by_cases hfirst : k = first
      · subst hfirst
        rw [hp] at hk
        rw [hq] at hk'
        cases hk
        cases hk'
        exact ⟨length, hlength⟩
      · exact hrest.mp ⟨others, hothers⟩ k (by omega) (by omega) p q hk hk'
    · intro h
      obtain ⟨length, hlength⟩ := h first (Nat.le_refl first) (by omega) _ _ hp hq
      obtain ⟨others, hothers⟩ := hrest.mpr fun k hlow hhigh => h k (by omega) (by omega)
      have hmore : segmentLengths lengthOf points ((first : Int) + 1) count = .ok others := hothers
      rw [hlength, ok_bind, hmore]
      exact ⟨_, rfl⟩

/-- A stretch that begins on no negative index can be stamped exactly when its time can be shared
    out. -/
theorem exists_cover_of_forward {stretch : Stretch} (hfirst : 0 ≤ stretch.first) (s : Stamps) :
    (∃ s', s.cover lengthOf points stretch = .ok s') ↔ stretch.Shareable lengthOf points := by
  obtain ⟨first, hat⟩ := Int.eq_ofNat_of_zero_le hfirst
  unfold Stamps.cover Stretch.Shareable
  dsimp only
  rw [hat]
  split
  · rename_i hempty
    exact iff_of_true ⟨s, rfl⟩ fun hsome => absurd hsome (by omega)
  · rename_i hcovers
    have hlengths := @exists_segmentLengths lengthOf points first
      (min stretch.last ((points.length : Int) - 1) - first).toNat (by omega)
    constructor
    · intro h _
      obtain ⟨s', h⟩ := h
      obtain ⟨lengths, htold, h⟩ := bind_eq_ok.mp h
      obtain ⟨duration, hduration, -⟩ := bind_eq_ok.mp h
      refine ⟨⟨duration, hduration⟩, fun k hlow hhigh => ?_⟩
      exact hlengths.mp ⟨lengths, htold⟩ k (by omega) (by omega)
    · intro h
      obtain ⟨⟨duration, hduration⟩, hsegments⟩ := h (by omega)
      obtain ⟨lengths, htold⟩ := hlengths.mpr fun k hlow hhigh =>
        hsegments k (by omega) (by omega)
      rw [htold, ok_bind, hduration]
      exact ⟨_, rfl⟩

/-- **The times of a forward path can be told** exactly when its start has a double and the time of
    each of its stretches can be shared out. -/
theorem exists_pointTimes_of_forward {path : Path} (h : path.Forward) (hpoints : path.points ≠ [])
    {start : Int} :
    (∃ times, pointTimes lengthOf path start = .ok times) ↔
      (∃ x, floatOfInt start = .ok x) ∧
        ∀ stretch ∈ path.stretches, stretch.Shareable lengthOf path.points := by
  have hrow : ∀ s, (∃ s', path.stretches.foldlM (Stamps.cover lengthOf path.points) s = .ok s') ↔
      ∀ stretch ∈ path.stretches, stretch.Shareable lengthOf path.points :=
    exists_foldlM fun s stretch hmem =>
      exists_cover_of_forward (forward_stretches h stretch hmem) s
  constructor
  · intro h
    obtain ⟨times, htimes⟩ := h
    obtain ⟨origin, horigin, s, hs, -⟩ := (pointTimes_eq_ok hpoints).mp htimes
    exact ⟨⟨origin, horigin⟩, (hrow _).mp ⟨s, hs⟩⟩
  · intro h
    obtain ⟨⟨origin, horigin⟩, hshareable⟩ := h
    obtain ⟨s, hs⟩ := (hrow (path.begun origin)).mpr hshareable
    exact ⟨s.times, (pointTimes_eq_ok hpoints).mpr ⟨origin, horigin, s, hs, rfl⟩⟩

end Times

/-- The clock of a path never stamps a point that is not there: each segment that it goes along has
    a point behind it. -/
def Path.StampsPoints (path : Path) : Prop :=
  ∀ stretch ∈ path.stretches, ∀ lengths,
    segmentLengths Point.distanceTo path.points stretch.first
        (min stretch.last ((path.points.length : Int) - 1) - stretch.first).toNat = .ok lengths →
      ∀ step ∈ stepsFrom stretch.first (shares lengths),
        0 ≤ step.1 ∧ step.1 + 1 < path.points.length

theorem stampsPoints_of_forward {path : Path} (h : path.Forward) : path.StampsPoints := by
  intro stretch hmem lengths hlengths step hstep
  have hfirst := forward_stretches h stretch hmem
  have hcount := length_segmentLengths hlengths
  obtain ⟨⟨share, i⟩, hi, rfl⟩ := List.mem_map.mp hstep
  have hlt := (List.mem_zipIdx' hi).1
  rw [length_shares] at hlt
  dsimp only
  omega

/-! ## 3. Breakdowns -/

theorem IsDistanceFault.numeric {fault : Fault} (h : IsDistanceFault fault) : fault.Numeric := by
  rw [h]
  trivial

theorem numeric_pointTimes {path : Path} (h : path.Forward) (start : Int) :
    FailsOnly Fault.Numeric (pointTimes Point.distanceTo path start) := by
  refine failsOnly_times (fun _ => IsDistanceFault.numeric) (numeric_floatOfInt start)
    fun stretch hmem => ?_
  have hfirst := forward_stretches h stretch hmem
  exact ⟨by omega, numeric_floatOfInt stretch.duration⟩

/-! ## 4. Route points -/

/-- The element of an instruction: it stands at the first point of the instruction, and names a
    direction exactly when the last one lies behind that. -/
def IsRoutePoint (points : List Point) (i : Instruction) (element : Xml) : Prop :=
  ∃ point target extensions,
    points[pointIndex points i.first]? = some point ∧
    points[pointIndex points i.last]? = some target ∧
    element.name = "rtept" ∧ element.attributes = positionAttributes point ∧
    element.named "extensions" = [extensions] ∧
    extensions.named "gh:direction" ++ extensions.named "gh:azimuth" =
      if pointIndex points i.first < pointIndex points i.last then directionElements point target
      else []

theorem exists_pointIndex {points : List Point} (hne : points ≠ []) {index : Int}
    (hlow : 0 ≤ index) :
    ∃ point, points[pointIndex points index]? = some point ∧
      itemAt points (min index ((points.length : Int) - 1)) = .ok point := by
  have hpos : 0 < points.length := List.length_pos_iff.mpr hne
  have hlt : pointIndex points index < points.length := by
    unfold pointIndex
    omega
  have hat : min index ((points.length : Int) - 1) = (pointIndex points index : Int) := by
    unfold pointIndex
    omega
  refine ⟨points[pointIndex points index], List.getElem?_eq_getElem hlt, ?_⟩
  rw [hat]
  exact itemAt_of_getElem? (List.getElem?_eq_getElem hlt)

/-- The instructions of a forward path lead from its points to its points. -/
theorem onPath_of_forward {path : Path} (h : path.Forward) (hne : path.points ≠ []) :
    ∀ i ∈ path.turns, i.OnPath path.points := by
  intro i hi
  obtain ⟨hfirst, hlast⟩ := forward_turns h i hi
  obtain ⟨point, -, hread⟩ := exists_pointIndex hne hfirst
  obtain ⟨target, -, hread'⟩ := exists_pointIndex hne hlast
  exact ⟨⟨point, hread⟩, fun _ => ⟨target, hread'⟩⟩

/-- **The route point of an instruction** that begins and ends at no negative index. -/
theorem isRoutePoint_of_routePoint {points : List Point} (hne : points ≠ []) {i : Instruction}
    (hfirst : 0 ≤ i.first) (hlast : 0 ≤ i.last) {element : Xml}
    (h : routePoint points i = .ok element) : IsRoutePoint points i element := by
  obtain ⟨point, hpoint, hread⟩ := exists_pointIndex hne hfirst
  obtain ⟨target, htarget, hread'⟩ := exists_pointIndex hne hlast
  have hpos : 0 < points.length := List.length_pos_iff.mpr hne
  have hleads : min i.first ((points.length : Int) - 1) < min i.last ((points.length : Int) - 1) ↔
      pointIndex points i.first < pointIndex points i.last := by
    unfold pointIndex
    omega
  obtain ⟨-, point', direction, hpoint', hleading, rfl⟩ := routePoint_eq_ok h
  cases hread.symm.trans hpoint'
  refine ⟨point, target, _, hpoint, htarget, rfl, rfl, rfl, ?_⟩
  unfold leadingElements at hleading
  by_cases hdirection : pointIndex points i.first < pointIndex points i.last
  · rw [if_pos (hleads.mpr hdirection), hread'] at hleading
    cases hleading
    rw [if_pos hdirection]
    rfl
  · rw [if_neg (mt hleads.mp hdirection)] at hleading
    cases hleading
    rw [if_neg hdirection]
    rfl

/-- The route of a path: one route point for each instruction, in order, if there are instructions
    and points and the route is asked for, and nothing else. -/
def IsRoute (options : TrackOptions) (path : Path) (route : List Xml) : Prop :=
  if options.route = true ∧ path.turns ≠ [] ∧ path.points ≠ [] then
    ∃ elements, route = [.node "rte" [] elements] ∧
      List.Forall₂ (IsRoutePoint path.points) path.turns elements
  else route = []

/-- **The route of a forward path** that is shown is its route. -/
theorem isRoute_of_shownRoute {options : TrackOptions} {path : Path} (h : path.Forward)
    {route : List Xml} (hroute : path.shownRoute options = .ok route) :
    IsRoute options path route := by
  unfold Path.shownRoute at hroute
  unfold IsRoute
  split at hroute
  · rename_i hon
    rw [routeElements_eq] at hroute
    split at hroute
    · rename_i hnone
      cases hroute
      rw [if_neg fun hall => (not_or.mpr hall.2) hnone]
    · rename_i hsome
      obtain ⟨elements, helements, rfl⟩ := map_eq_ok.mp hroute
      rw [if_pos ⟨hon, not_or.mp hsome⟩]
      have hall := (List.forall₂_and_left _ _).mpr ⟨forward_turns h, forall₂_of_mapM helements⟩
      refine ⟨elements, rfl, hall.imp fun i element hi => ?_⟩
      exact isRoutePoint_of_routePoint (not_or.mp hsome).2 hi.1.1 hi.1.2 hi.2
  · rename_i hoff
    cases hroute
    rw [if_neg fun hall => hoff hall.1]

/-! ## 5. Track points -/

/-- The element of a point of the track: it has the position and the time of its own point, and its
    elevation exactly when elevations are asked for and there are as many as points. -/
def IsTrackPoint (options : TrackOptions) (path : Path) (times : List Float) (k : Nat)
    (element : Xml) : Prop :=
  ∃ point millis time,
    path.points[k]? = some point ∧ times[k]? = some millis ∧ momentText millis = .ok time ∧
    element.name = "trkpt" ∧ element.attributes = positionAttributes point ∧
    element.named "time" = [textElement "time" time] ∧
    if options.elevation = true ∧ path.elevations.length = path.points.length then
      ∃ height, path.elevations[k]? = some height ∧
        element.named "ele" = [textElement "ele" (floatText (roundPlaces 2 height))]
    else element.named "ele" = []

/-- The track of a path: one track point for each point, in order, if the track is asked for, and
    nothing else. -/
def IsTrack (options : TrackOptions) (path : Path) (start : Int) (track : List Xml) : Prop :=
  if options.track = true then
    ∃ times elements, pointTimes Point.distanceTo path start = .ok times ∧
      track = [.node "trk" []
        [textElement "name" options.trackName, .node "trkseg" [] elements]] ∧
      elements.length = path.points.length ∧
      ∀ k element, elements[k]? = some element → IsTrackPoint options path times k element
  else track = []

/-- The elevation that is shown of a point is its own. -/
theorem getElem?_shownElevations {options : TrackOptions} {path : Path} {k : Nat} {point : Point}
    {elevation : Option Float} (hpoint : path.points[k]? = some point)
    (h : (shownElevations options path)[k]? = some elevation) :
    if options.elevation = true ∧ path.elevations.length = path.points.length then
      ∃ height, path.elevations[k]? = some height ∧ elevation = some height
    else elevation = none := by
  unfold shownElevations at h
  by_cases hshown : options.elevation = true ∧ path.elevations.length = path.points.length
  · obtain ⟨hon, hlength⟩ := hshown
    have hlt : k < path.elevations.length := by
      rw [hlength]
      exact (List.getElem?_eq_some_iff.mp hpoint).1
    have hsome : path.elevations ≠ [] := List.length_pos_iff.mp (by omega)
    have hasked : (options.elevation && path.hasElevation) = true := by
      simp [Path.hasElevation, hon, hlength, hsome]
    rw [if_pos hasked, List.getElem?_map, List.getElem?_eq_getElem hlt] at h
    cases h
    rw [if_pos ⟨hon, hlength⟩]
    exact ⟨_, List.getElem?_eq_getElem hlt, rfl⟩
  · have hnot : ¬ (options.elevation && path.hasElevation) = true := by
      intro hasked
      simp only [Path.hasElevation, Bool.and_eq_true, beq_iff_eq] at hasked
      exact hshown ⟨hasked.1, hasked.2.2⟩
    rw [if_neg hnot, List.getElem?_map, hpoint] at h
    cases h
    rw [if_neg hshown]

theorem isTrackPoint_of_trackPoint {options : TrackOptions} {path : Path} {times : List Float}
    {k : Nat} {point : Point} {elevation : Option Float} {millis : Float} {element : Xml}
    (hpoint : path.points[k]? = some point)
    (helevation : (shownElevations options path)[k]? = some elevation)
    (hmillis : times[k]? = some millis) (h : trackPoint point elevation millis = .ok element) :
    IsTrackPoint options path times k element := by
  obtain ⟨time, htime, h⟩ := bind_eq_ok.mp h
  cases h
  have hheight := getElem?_shownElevations hpoint helevation
  refine ⟨point, millis, time, hpoint, hmillis, htime, rfl, rfl, ?_, ?_⟩
  · cases elevation <;> rfl
  · split at hheight
    · rename_i hshown
      obtain ⟨height, hat, rfl⟩ := hheight
      rw [if_pos hshown]
      exact ⟨height, hat, rfl⟩
    · rename_i hshown
      rw [if_neg hshown, hheight]
      rfl

/-- **The track that is written** holds the points of the path, each with its own data. -/
theorem isTrack_of_trackElement {options : TrackOptions} (hon : options.track = true) {path : Path}
    {start : Int} {element : Xml} (h : trackElement options path start = .ok element) :
    IsTrack options path start [element] := by
  obtain ⟨times, htimes, h⟩ := bind_eq_ok.mp h
  obtain ⟨elements, helements, h⟩ := bind_eq_ok.mp h
  cases h
  have hall := forall₂_of_mapM helements
  have hlength : elements.length = path.points.length := by
    rw [← hall.length_eq, List.length_zip, List.length_zip, length_shownElevations,
      length_pointTimes htimes, Nat.min_self, Nat.min_self]
  unfold IsTrack
  rw [if_pos hon]
  refine ⟨times, elements, htimes, rfl, hlength, fun k element hk => ?_⟩
  obtain ⟨hlt, rfl⟩ := List.getElem?_eq_some_iff.mp hk
  have hinside : k < ((path.points.zip (shownElevations options path)).zip times).length := by
    rw [hall.length_eq]
    exact hlt
  have hpoint := hall.get hinside hlt
  have hstamped := List.getElem?_eq_getElem hinside
  obtain ⟨hplace, hmillis⟩ := List.getElem?_zip_eq_some.mp hstamped
  obtain ⟨hat, helevation⟩ := List.getElem?_zip_eq_some.mp hplace
  exact isTrackPoint_of_trackPoint hat helevation hmillis hpoint

/-- The track of a path can be written exactly when its times can be told and have texts. -/
theorem exists_trackElement {options : TrackOptions} {path : Path} {start : Int} :
    (∃ element, trackElement options path start = .ok element) ↔
      ∃ times, pointTimes Point.distanceTo path start = .ok times ∧
        ∀ millis ∈ times, ∃ text, momentText millis = .ok text := by
  constructor
  · intro h
    obtain ⟨element, h⟩ := h
    obtain ⟨times, htimes, -⟩ := bind_eq_ok.mp h
    have hnone := fault?_eq_none.mpr ⟨element, h⟩
    rw [fault?_trackElement htimes, fault?_eq_none, exists_mapM] at hnone
    exact ⟨times, htimes, hnone⟩
  · intro h
    obtain ⟨times, htimes, htexts⟩ := h
    rw [← fault?_eq_none, fault?_trackElement htimes, fault?_eq_none, exists_mapM]
    exact htexts

end Waypost
