import Waypost.Proofs.Document.TrackParts

/-!
# What stands in a track document

Five options meet the lists of a path: a document shows the ends, the route and the track of a path,
each only if it is asked for.

* `IsTrackDocument` -- what a document holds;
* `Path.Representable`, `exists_trackXml` -- when it can be written;
* `numeric_trackXml` -- the ways in which it cannot;
* `plainNames_trackXml` -- its names are plain, so that its text can be read back;
* `trackXml_structure` -- **a track document reads no index beyond its lists, and holds what the
  options ask for**.
-/

namespace Waypost

open Decimal

/-! ## 1. Documents -/

/-- What the document of a path holds, besides what it says about itself: the two ends of the path
    if they are asked for and it has points, then its route and its track. -/
structure IsTrackDocument (options : TrackOptions) (path : Path) (start : Int) (document : Xml) :
    Prop where
  name : document.name = "gpx"
  children : ∀ child ∈ document.children, child.name ∈ ["metadata", "wpt", "rte", "trk"]
  ends : (document.named "wpt").map Xml.attributes =
    if options.waypoints then
      (path.points.head?.toList ++ path.points.getLast?.toList).map positionAttributes
    else []
  route : IsRoute options path (document.named "rte")
  track : IsTrack options path start (document.named "trk")

/-- All moments and whole numbers of the document of a path can be told and have texts: its start,
    if the route is asked for the time and the sign of each instruction and, if the track is asked
    for, the time of each point. -/
structure Path.Representable (path : Path) (options : TrackOptions) (start : Int) : Prop where
  origin : ∃ text, startText start = .ok text
  turns : options.route = true → path.points ≠ [] → ∀ i ∈ path.turns, i.Told
  shareable : options.track = true → path.points ≠ [] →
    ∀ stretch ∈ path.stretches, stretch.Shareable Point.distanceTo path.points
  texts : options.track = true → ∀ times, pointTimes Point.distanceTo path start = .ok times →
    ∀ millis ∈ times, ∃ text, momentText millis = .ok text

/-- The times of a forward path with representable moments can be told. -/
theorem Path.Representable.exists_pointTimes {path : Path} {options : TrackOptions} {start : Int}
    (h : path.Representable options start) (hforward : path.Forward) (hon : options.track = true) :
    ∃ times, pointTimes Point.distanceTo path start = .ok times := by
  by_cases hpoints : path.points = []
  · refine ⟨[], ?_⟩
    unfold pointTimes
    rw [hpoints]
    rfl
  · obtain ⟨text, hstart⟩ := h.origin
    obtain ⟨origin, horigin, -⟩ := bind_eq_ok.mp hstart
    exact (exists_pointTimes_of_forward hforward hpoints).mpr
      ⟨⟨origin, horigin⟩, h.shareable hon hpoints⟩

theorem shownTrack_of_off {options : TrackOptions} (hoff : options.track = false) {path : Path}
    {start : Int} : path.shownTrack options start = .ok [] := by
  unfold Path.shownTrack
  rw [hoff]
  rfl

theorem shownTrack_of_on {options : TrackOptions} (hon : options.track = true) {path : Path}
    {start : Int} :
    path.shownTrack options start = ([·]) <$> trackElement options path start := by
  unfold Path.shownTrack
  rw [if_pos hon]
  cases trackElement options path start <;> rfl

theorem numeric_shownTrack (options : TrackOptions) {path : Path} (h : path.Forward)
    (start : Int) : FailsOnly Fault.Numeric (path.shownTrack options start) := by
  cases hasked : options.track with
  | false =>
    rw [shownTrack_of_off hasked]
    exact failsOnly_of_ok ⟨[], rfl⟩
  | true =>
    rw [shownTrack_of_on hasked, failsOnly_map]
    refine (numeric_pointTimes h start).bind fun times _ => ?_
    refine FailsOnly.bind (FailsOnly.mapM fun stamped _ => ?_) fun elements _ =>
      failsOnly_of_ok ⟨_, rfl⟩
    exact (numeric_momentText stamped.2).bind fun text _ => failsOnly_of_ok ⟨_, rfl⟩

/-- **A forward path breaks no index.** Its document fails with breakdowns over numbers only. -/
theorem numeric_trackXml (options : TrackOptions) {path : Path} (h : path.Forward) (start : Int) :
    FailsOnly Fault.Numeric (trackXml options path start) := by
  have hstart : FailsOnly Fault.Numeric (startText start) :=
    (numeric_floatOfInt start).bind fun origin _ => numeric_momentText origin
  have hroute : FailsOnly Fault.Numeric (path.shownRoute options) := by
    refine (failsOnly_shownRoute (onPath_of_forward h) options).mono ?_
    rintro _ rfl
    trivial
  rw [trackXml_eq]
  exact hstart.bind fun time _ => hroute.bind fun route _ =>
    (numeric_shownTrack options h start).bind fun track _ => failsOnly_of_ok ⟨_, rfl⟩

theorem isTrack_of_shownTrack {options : TrackOptions} {path : Path} {start : Int}
    {track : List Xml} (h : path.shownTrack options start = .ok track) :
    IsTrack options path start track := by
  cases hasked : options.track with
  | false =>
    rw [shownTrack_of_off hasked] at h
    cases h
    unfold IsTrack
    rw [if_neg (ne_true_of_eq_false hasked)]
  | true =>
    rw [shownTrack_of_on hasked] at h
    obtain ⟨element, helement, rfl⟩ := map_eq_ok.mp h
    exact isTrack_of_trackElement hasked helement

/-- A document can be written exactly when all its moments and whole numbers can be told and have
    texts. -/
theorem exists_trackXml {options : TrackOptions} {path : Path} (h : path.Forward) {start : Int} :
    (∃ document, trackXml options path start = .ok document) ↔
      path.Representable options start := by
  have hroutes : (∃ route, path.shownRoute options = .ok route) ↔
      (options.route = true → path.points ≠ [] → ∀ i ∈ path.turns, i.Told) :=
    exists_shownRoute (onPath_of_forward h)
  rw [trackXml_eq]
  constructor
  · intro hdocument
    obtain ⟨document, hdocument⟩ := hdocument
    obtain ⟨text, htext, hdocument⟩ := bind_eq_ok.mp hdocument
    obtain ⟨route, hroute, hdocument⟩ := bind_eq_ok.mp hdocument
    obtain ⟨track, htrack, -⟩ := bind_eq_ok.mp hdocument
    have htimes : options.track = true →
        ∃ times, pointTimes Point.distanceTo path start = .ok times ∧
          ∀ millis ∈ times, ∃ text, momentText millis = .ok text := by
      intro hon
      rw [shownTrack_of_on hon] at htrack
      obtain ⟨element, helement, -⟩ := map_eq_ok.mp htrack
      exact exists_trackElement.mp ⟨element, helement⟩
    refine ⟨⟨text, htext⟩, hroutes.mp ⟨route, hroute⟩, fun hon hpoints => ?_,
      fun hon times htold => ?_⟩
    · obtain ⟨times, htold, -⟩ := htimes hon
      exact ((exists_pointTimes_of_forward h hpoints).mp ⟨times, htold⟩).2
    · obtain ⟨_, hsame, htexts⟩ := htimes hon
      cases htold.symm.trans hsame
      exact htexts
  · intro hmoments
    obtain ⟨text, htext⟩ := hmoments.origin
    obtain ⟨route, hroute⟩ := hroutes.mpr hmoments.turns
    have htrack : ∃ track, path.shownTrack options start = .ok track := by
      cases hasked : options.track with
      | false => exact ⟨[], shownTrack_of_off hasked⟩
      | true =>
        obtain ⟨times, htold⟩ := hmoments.exists_pointTimes h hasked
        obtain ⟨element, helement⟩ :=
          exists_trackElement.mpr ⟨times, htold, hmoments.texts hasked times htold⟩
        rw [shownTrack_of_on hasked, helement]
        exact ⟨[element], rfl⟩
    obtain ⟨track, htrack⟩ := htrack
    rw [htext, ok_bind, hroute, ok_bind, htrack]
    exact ⟨_, rfl⟩

/-! ## 2. What a document holds -/

/-- Of elements that all have one name, all or none have a given one. -/
theorem filter_name {elements : List Xml} {own : String} (h : ∀ x ∈ elements, x.name = own)
    (name : String) :
    elements.filter (·.name == name) = if own = name then elements else [] := by
  split
  · rename_i hsame
    rw [List.filter_eq_self]
    intro x hx
    rw [h x hx, hsame, beq_self_eq_true]
  · rename_i hother
    rw [List.filter_eq_nil_iff]
    intro x hx
    rw [h x hx, beq_iff_eq]
    exact hother

theorem name_waypointElements (points : List Point) :
    ∀ x ∈ waypointElements points, x.name = "wpt" := by
  unfold waypointElements
  split
  · intro x hx
    simp only [List.mem_cons, List.not_mem_nil, or_false] at hx
    rcases hx with rfl | rfl <;> rfl
  · exact fun x hx => absurd hx List.not_mem_nil

theorem attributes_waypointElements (points : List Point) :
    (waypointElements points).map Xml.attributes =
      (points.head?.toList ++ points.getLast?.toList).map positionAttributes := by
  unfold waypointElements
  cases points with
  | nil => rfl
  | cons point rest =>
    rw [List.head?_cons, List.getLast?_cons]
    rfl

theorem name_of_isRoute {options : TrackOptions} {path : Path} {route : List Xml}
    (h : IsRoute options path route) : ∀ x ∈ route, x.name = "rte" := by
  unfold IsRoute at h
  split at h
  · obtain ⟨elements, rfl, -⟩ := h
    intro x hx
    rw [List.mem_singleton.mp hx]
    rfl
  · rw [h]
    exact fun x hx => absurd hx List.not_mem_nil

theorem name_of_isTrack {options : TrackOptions} {path : Path} {start : Int} {track : List Xml}
    (h : IsTrack options path start track) : ∀ x ∈ track, x.name = "trk" := by
  unfold IsTrack at h
  split at h
  · obtain ⟨times, elements, -, rfl, -⟩ := h
    intro x hx
    rw [List.mem_singleton.mp hx]
    rfl
  · rw [h]
    exact fun x hx => absurd hx List.not_mem_nil

/-- **The document that is written** of a forward path holds what it should. -/
theorem isTrackDocument_of_trackXml {options : TrackOptions} {path : Path} (h : path.Forward)
    {start : Int} {document : Xml} (hdocument : trackXml options path start = .ok document) :
    IsTrackDocument options path start document := by
  rw [trackXml_eq] at hdocument
  obtain ⟨time, -, hdocument⟩ := bind_eq_ok.mp hdocument
  obtain ⟨route, hroute, hdocument⟩ := bind_eq_ok.mp hdocument
  obtain ⟨track, htrack, hdocument⟩ := bind_eq_ok.mp hdocument
  cases hdocument
  have isRoute := isRoute_of_shownRoute h hroute
  have isTrack := isTrack_of_shownTrack htrack
  have hends : ∀ x ∈ path.shownEnds options, x.name = "wpt" := by
    unfold Path.shownEnds
    split
    · exact name_waypointElements path.points
    · exact fun x hx => absurd hx List.not_mem_nil
  have hnamed : ∀ name, name ≠ "metadata" →
      Xml.named name (.node "gpx" (trackAttributes options)
        (metadataElement time :: path.shownEnds options ++ route ++ track)) =
        (if "wpt" = name then path.shownEnds options else []) ++
          (if "rte" = name then route else []) ++ if "trk" = name then track else [] := by
    intro name hname
    have hmetadata : ((metadataElement time).name == name) = false :=
      beq_eq_false_iff_ne.mpr hname.symm
    unfold Xml.named Xml.children
    rw [List.filter_append, List.filter_append, List.filter_cons, hmetadata,
      if_neg Bool.false_ne_true, filter_name hends, filter_name (name_of_isRoute isRoute),
      filter_name (name_of_isTrack isTrack)]
  refine ⟨rfl, ?_, ?_, ?_, ?_⟩
  · intro child hchild
    simp only [Xml.children, List.mem_append, List.mem_cons] at hchild
    rcases hchild with ((rfl | hchild) | hchild) | hchild
    · exact List.mem_cons_self
    · rw [hends child hchild]
      decide
    · rw [name_of_isRoute isRoute child hchild]
      decide
    · rw [name_of_isTrack isTrack child hchild]
      decide
  · rw [hnamed "wpt" (by decide), if_pos rfl, if_neg (by decide), if_neg (by decide),
      List.append_nil, List.append_nil]
    unfold Path.shownEnds
    split
    · exact attributes_waypointElements path.points
    · rfl
  · rw [hnamed "rte" (by decide), if_neg (by decide), if_pos rfl, if_neg (by decide),
      List.append_nil]
    exact isRoute
  · rw [hnamed "trk" (by decide), if_neg (by decide), if_neg (by decide), if_pos rfl]
    exact isTrack

/-! ## 3. The text of a document -/

theorem plainNames_textElement {name : String} (h : PlainName name) (text : String) :
    (textElement name text).PlainNames :=
  ⟨h, nofun⟩

theorem plainNames_positionAttributes (p : Point) :
    ∀ entry ∈ positionAttributes p, PlainName entry.1 := by
  simp only [positionAttributes, List.forall_mem_cons]
  exact ⟨by decide, by decide, nofun⟩

theorem plainNames_directionElements (point target : Point) :
    ∀ x ∈ directionElements point target, x.PlainNames := by
  simp only [directionElements, List.forall_mem_cons]
  exact ⟨plainNames_textElement (by decide) _, plainNames_textElement (by decide) _, nofun⟩

theorem plainNames_routePoint {points : List Point} {i : Instruction} {element : Xml}
    (h : routePoint points i = .ok element) : element.PlainNames := by
  obtain ⟨-, point, direction, -, hleading, rfl⟩ := routePoint_eq_ok h
  have hdirection : ∀ x ∈ direction, x.PlainNames := by
    unfold leadingElements at hleading
    split at hleading
    · obtain ⟨target, -, rfl⟩ := map_eq_ok.mp hleading
      exact plainNames_directionElements point target
    · cases hleading
      nofun
  refine ⟨⟨by decide, plainNames_positionAttributes point⟩, plainNames_textElement (by decide) _,
    ⟨⟨by decide, nofun⟩, allPlainNames_iff.mpr ?_⟩, trivial⟩
  simp only [List.forall_mem_append, List.forall_mem_cons]
  exact ⟨⟨⟨plainNames_textElement (by decide) _, plainNames_textElement (by decide) _, nofun⟩,
    hdirection⟩, plainNames_textElement (by decide) _, nofun⟩

theorem plainNames_route {options : TrackOptions} {path : Path} {route : List Xml}
    (h : path.shownRoute options = .ok route) : ∀ x ∈ route, x.PlainNames := by
  unfold Path.shownRoute at h
  split at h
  · rw [routeElements_eq] at h
    split at h
    · cases h
      nofun
    · obtain ⟨elements, helements, rfl⟩ := map_eq_ok.mp h
      intro x hx
      rw [List.mem_singleton.mp hx]
      refine ⟨⟨by decide, nofun⟩, allPlainNames_iff.mpr fun element helement => ?_⟩
      obtain ⟨i, -, hi⟩ := exists_mem_of_forall₂ (forall₂_of_mapM helements) helement
      exact plainNames_routePoint hi
  · cases h
    nofun

theorem plainNames_trackPoint {point : Point} {elevation : Option Float} {millis : Float}
    {element : Xml} (h : trackPoint point elevation millis = .ok element) :
    element.PlainNames := by
  obtain ⟨time, -, h⟩ := bind_eq_ok.mp h
  cases h
  have htime := plainNames_textElement (by decide : PlainName "time") time
  refine ⟨⟨by decide, plainNames_positionAttributes point⟩, ?_⟩
  cases elevation with
  | none => exact ⟨htime, trivial⟩
  | some height => exact ⟨plainNames_textElement (by decide) _, htime, trivial⟩

theorem plainNames_track {options : TrackOptions} {path : Path} {start : Int} {track : List Xml}
    (h : path.shownTrack options start = .ok track) : ∀ x ∈ track, x.PlainNames := by
  cases hasked : options.track with
  | false =>
    rw [shownTrack_of_off hasked] at h
    cases h
    nofun
  | true =>
    rw [shownTrack_of_on hasked] at h
    obtain ⟨element, helement, rfl⟩ := map_eq_ok.mp h
    obtain ⟨times, -, helement⟩ := bind_eq_ok.mp helement
    obtain ⟨elements, helements, helement⟩ := bind_eq_ok.mp helement
    cases helement
    intro x hx
    rw [List.mem_singleton.mp hx]
    refine ⟨⟨by decide, nofun⟩, plainNames_textElement (by decide) _,
      ⟨⟨by decide, nofun⟩, allPlainNames_iff.mpr fun point hpoint => ?_⟩, trivial⟩
    obtain ⟨stamped, -, hstamped⟩ := exists_mem_of_forall₂ (forall₂_of_mapM helements) hpoint
    exact plainNames_trackPoint hstamped

theorem plainNames_waypointElements (points : List Point) :
    ∀ x ∈ waypointElements points, x.PlainNames := by
  have hend : ∀ point text, (Xml.node "wpt" (positionAttributes point)
      [textElement "name" text]).PlainNames := fun point text =>
    ⟨⟨by decide, plainNames_positionAttributes point⟩, plainNames_textElement (by decide) _,
      trivial⟩
  unfold waypointElements
  split
  · exact List.forall_mem_cons.mpr ⟨hend _ _, List.forall_mem_cons.mpr ⟨hend _ _, nofun⟩⟩
  · nofun

theorem plainNames_trackAttributes (options : TrackOptions) :
    ∀ entry ∈ trackAttributes options, PlainName entry.1 := by
  simp only [trackAttributes, List.forall_mem_cons]
  exact ⟨by decide, by decide, by decide, by decide, by decide, by decide, nofun⟩

theorem plainNames_metadataElement (time : String) : (metadataElement time).PlainNames := by
  have hauthor : ∀ entry ∈ [("author", "OpenStreetMap contributors")], PlainName entry.1 :=
    List.forall_mem_cons.mpr ⟨by decide, nofun⟩
  have hlink : ∀ entry ∈ [("href", "http://graphhopper.com")], PlainName entry.1 :=
    List.forall_mem_cons.mpr ⟨by decide, nofun⟩
  exact ⟨⟨by decide, nofun⟩, ⟨by decide, hauthor⟩,
    ⟨⟨by decide, hlink⟩, plainNames_textElement (by decide) _, trivial⟩,
    plainNames_textElement (by decide) _, trivial⟩

/-- The names in a document are plain. -/
theorem plainNames_trackXml {options : TrackOptions} {path : Path} {start : Int} {document : Xml}
    (hdocument : trackXml options path start = .ok document) : document.PlainNames := by
  rw [trackXml_eq] at hdocument
  obtain ⟨time, -, hdocument⟩ := bind_eq_ok.mp hdocument
  obtain ⟨route, hroute, hdocument⟩ := bind_eq_ok.mp hdocument
  obtain ⟨track, htrack, hdocument⟩ := bind_eq_ok.mp hdocument
  cases hdocument
  have hends : ∀ x ∈ path.shownEnds options, x.PlainNames := by
    unfold Path.shownEnds
    split
    · exact plainNames_waypointElements path.points
    · nofun
  refine ⟨⟨by decide, plainNames_trackAttributes options⟩, allPlainNames_iff.mpr ?_⟩
  simp only [List.forall_mem_append, List.forall_mem_cons]
  exact ⟨⟨⟨plainNames_metadataElement time, hends⟩, plainNames_route hroute⟩,
    plainNames_track htrack⟩

/-- **A track document reads no index beyond its lists, and holds what the options ask for.**
    However the instructions of a path lie on it or beyond it, as long as none begins or ends at a
    negative index: its document breaks down over numbers only, and every point that its clock
    stamps is there. It can be written exactly when all its moments and whole numbers can be told
    and have texts, which takes that each segment that its clock goes along has a length. The
    document that is written then holds the ends, the route and the track that are asked for, each
    point of them with its own data, and its text is read as these elements, whatever texts they
    carry. -/
theorem trackXml_structure (options : TrackOptions) {path : Path} (h : path.Forward)
    (start : Int) :
    FailsOnly Fault.Numeric (trackXml options path start) ∧ path.StampsPoints ∧
    ((∃ document, trackXml options path start = .ok document) ↔
      path.Representable options start) ∧
    ∀ document, trackXml options path start = .ok document →
      IsTrackDocument options path start document ∧
      tokens (xmlDocument document) = declarationTokens ++ document.tokens := by
  refine ⟨numeric_trackXml options h start, stampsPoints_of_forward h, exists_trackXml h,
    fun document hdocument => ⟨isTrackDocument_of_trackXml h hdocument, ?_⟩⟩
  exact tokens_xmlDocument (plainNames_trackXml hdocument)

/-- A way with elevations along which no instruction covers a segment: two lie beyond its end, and
    one of them goes back. -/
def overrunWay : Path where
  distance := 250.0
  time := 60000
  weight := 1.0
  points := [⟨.int 46, .int 7, rfl, rfl⟩, ⟨.int 47, .int 7, rfl, rfl⟩]
  elevations := [31.5, 40.25]
  instructions := some
    [{ sign := 0, text := "on", distance := 250.0, time := 60000, first := 1, last := 7 },
      { sign := 4, text := "back", distance := 0.0, time := 10 ^ 400, first := 10 ^ 30, last := 0 }]

theorem forward_overrunWay : overrunWay.Forward := by
  rintro list ⟨⟩
  decide

theorem trackXml_structure_overrunWay :
    overrunWay.Forward ∧
    overrunWay.Representable { elevation := true, waypoints := true } 1700000000000 ∧
    ∃ document,
      trackXml { elevation := true, waypoints := true } overrunWay 1700000000000 = .ok document ∧
      IsTrackDocument { elevation := true, waypoints := true } overrunWay 1700000000000
        document ∧
      tokens (xmlDocument document) = declarationTokens ++ document.tokens := by
  obtain ⟨-, -, written, holds⟩ := trackXml_structure { elevation := true, waypoints := true }
    forward_overrunWay 1700000000000
  have hdocument : ∃ document, trackXml { elevation := true, waypoints := true } overrunWay
      1700000000000 = .ok document := isSome_toOption.mp (by decide +kernel)
  obtain ⟨document, hdocument⟩ := hdocument
  exact ⟨forward_overrunWay, written.mp ⟨document, hdocument⟩, document, hdocument,
    holds document hdocument⟩

end Waypost
