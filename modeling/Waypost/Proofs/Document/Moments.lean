import Waypost.Document.Track
import Waypost.Proofs.Document.Sound
import Waypost.Proofs.Fault.First

/-!
# When a track document cannot be written

A track document states the moment at which it begins and a moment for each point of its track. The
calendar does not reach every moment.

* `failsOnly_pointTimes` -- the times of a sound path can be told, unless a distance cannot;
* `length_pointTimes` -- there is one for each point;
* `exists_shownRoute`, `failsOnly_shownRoute` -- a route can be written exactly when its whole
  numbers can, and fails over one of them only;
* `Path.moments`, `RunsOut` -- the moments of a document, and that the first of them without a text
  is out of reach;
* `failsOnly_outcomeTrack` -- **a track document fails with a value fault only, exactly when its
  moments do not run out** and its start has a double.
-/

namespace Waypost

open Decimal

/-! ## 1. Indexes -/

theorem exists_itemAt {α : Type} {items : List α} {index : Int}
    (hlow : -(items.length : Int) ≤ index) (hhigh : index < items.length) :
    ∃ item, itemAt items index = .ok item := by
  have hplace : ∃ i, place? items.length index = some i ∧ i < items.length := by
    cases index with
    | ofNat i =>
      have hi : i < items.length := by
        rw [Int.ofNat_eq_natCast] at hhigh
        omega
      exact ⟨i, if_pos hi, hi⟩
    | negSucc i =>
      have hi : i < items.length := by omega
      exact ⟨items.length - 1 - i, if_pos hi, by omega⟩
  obtain ⟨i, hi, hlt⟩ := hplace
  unfold itemAt
  rw [hi, Option.bind_some, List.getElem?_eq_getElem hlt]
  exact ⟨_, rfl⟩

/-! ## 2. Times -/

/-- The fault of two points between which no distance can be told. -/
def IsDistanceFault (fault : Fault) : Prop := fault = .unexpected .outsideDomain

theorem failsOnly_distanceTo (p q : Point) : FailsOnly IsDistanceFault (p.distanceTo q) := by
  unfold Point.distanceTo distanceMeters
  dsimp only
  split
  · exact failsOnly_error rfl
  · exact failsOnly_of_ok ⟨_, rfl⟩

theorem failsOnly_segmentLengths {points : List Point} {index : Int} {count : Nat}
    (hlow : -(points.length : Int) ≤ index) (hhigh : index + count < points.length) :
    FailsOnly IsDistanceFault (segmentLengths Point.distanceTo points index count) := by
  induction count generalizing index with
  | zero => exact failsOnly_of_ok ⟨[], rfl⟩
  | succ count ih =>
    obtain ⟨p, hp⟩ := exists_itemAt hlow (show index < points.length by omega)
    obtain ⟨q, hq⟩ := exists_itemAt (show -(points.length : Int) ≤ index + 1 by omega)
      (show index + 1 < points.length by omega)
    have hlength : FailsOnly IsDistanceFault (segmentLength Point.distanceTo points index) := by
      unfold segmentLength
      rw [hp, ok_bind, hq, ok_bind]
      exact failsOnly_distanceTo p q
    refine hlength.bind fun length _ => (ih (by omega) (by omega)).bind fun lengths _ => ?_
    exact failsOnly_of_ok ⟨length :: lengths, rfl⟩

/-- A stretch that begins at an index of the path fails over a distance or over its time. -/
theorem failsOnly_cover {P : Fault → Prop} (hdistance : ∀ fault, IsDistanceFault fault → P fault)
    {points : List Point} (s : Stamps) {stretch : Stretch}
    (hfirst : -(points.length : Int) ≤ stretch.first)
    (hduration : FailsOnly P (floatOfInt stretch.duration)) :
    FailsOnly P (Stamps.cover Point.distanceTo points s stretch) := by
  unfold Stamps.cover
  dsimp only
  split
  · exact failsOnly_of_ok ⟨s, rfl⟩
  · have hlengths : FailsOnly IsDistanceFault (segmentLengths Point.distanceTo points stretch.first
        (min stretch.last ((points.length : Int) - 1) - stretch.first).toNat) :=
      failsOnly_segmentLengths hfirst (by omega)
    exact (hlengths.mono hdistance).bind fun lengths _ => hduration.bind fun duration _ =>
      failsOnly_of_ok ⟨_, rfl⟩

/-- The times of a path fail over a distance, over its start or over the time of a stretch, if its
    stretches begin at indexes of the path. -/
theorem failsOnly_times {P : Fault → Prop} (hdistance : ∀ fault, IsDistanceFault fault → P fault)
    {path : Path} {start : Int} (hstart : FailsOnly P (floatOfInt start))
    (hstretches : ∀ stretch ∈ path.stretches, -(path.points.length : Int) ≤ stretch.first ∧
      FailsOnly P (floatOfInt stretch.duration)) :
    FailsOnly P (pointTimes Point.distanceTo path start) := by
  unfold pointTimes
  split
  · exact failsOnly_of_ok ⟨[], rfl⟩
  · refine hstart.bind fun origin _ => ?_
    refine FailsOnly.bind (FailsOnly.foldlM fun s stretch hmem => ?_) fun stamps _ =>
      failsOnly_of_ok ⟨stamps.times, rfl⟩
    obtain ⟨hfirst, hduration⟩ := hstretches stretch hmem
    exact failsOnly_cover hdistance s hfirst hduration

/-- The stretches of a sound path begin on it, and their times have doubles. -/
theorem stretches_of_sound {path : Path} (h : path.Sound) :
    ∀ stretch ∈ path.stretches,
      -(path.points.length : Int) ≤ stretch.first ∧ ∃ x, floatOfInt stretch.duration = .ok x := by
  have hwhole : ∀ stretch ∈ [Stretch.mk 0 ((path.points.length : Int) - 1) path.time],
      -(path.points.length : Int) ≤ stretch.first ∧ ∃ x, floatOfInt stretch.duration = .ok x := by
    intro stretch hs
    rw [List.mem_singleton.mp hs]
    exact ⟨by dsimp only; omega, h.time⟩
  unfold Path.stretches
  cases hlist : path.instructions with
  | none => exact hwhole
  | some list =>
    cases list with
    | nil => exact hwhole
    | cons i rest =>
      intro stretch hs
      obtain ⟨j, hj, rfl⟩ := List.mem_map.mp hs
      have hsound := h.instructions _ hlist j hj
      exact ⟨hsound.first, hsound.time⟩

/-- **The times of a sound path can be told**, unless a distance cannot. -/
theorem failsOnly_pointTimes {path : Path} (h : path.Sound) {start : Int} {origin : Float}
    (hstart : floatOfInt start = .ok origin) :
    FailsOnly IsDistanceFault (pointTimes Point.distanceTo path start) := by
  refine failsOnly_times (fun _ => id) (failsOnly_of_ok ⟨origin, hstart⟩) fun stretch hmem => ?_
  obtain ⟨hfirst, hduration⟩ := stretches_of_sound h stretch hmem
  exact ⟨hfirst, failsOnly_of_ok hduration⟩

theorem length_advance (duration : Float) (s : Stamps) (step : Int × Float) :
    (s.advance duration step).times.length = s.times.length := by
  unfold Stamps.advance
  dsimp only
  split
  · exact List.length_set
  · rfl

theorem length_foldl_advance (duration : Float) (steps : List (Int × Float)) (s : Stamps) :
    (steps.foldl (Stamps.advance duration) s).times.length = s.times.length := by
  induction steps generalizing s with
  | nil => rfl
  | cons step rest ih => exact (ih _).trans (length_advance duration s step)

section Lengths

variable {lengthOf : Point → Point → Except Fault Float}

theorem length_cover {points : List Point} {s s' : Stamps} {stretch : Stretch}
    (h : Stamps.cover lengthOf points s stretch = .ok s') : s'.times.length = s.times.length := by
  unfold Stamps.cover at h
  dsimp only at h
  split at h
  · cases h
    rfl
  · obtain ⟨lengths, _, h⟩ := bind_eq_ok.mp h
    obtain ⟨duration, _, h⟩ := bind_eq_ok.mp h
    cases h
    exact length_foldl_advance _ _ _

/-- There is one time for each point of a path. -/
theorem length_pointTimes {path : Path} {start : Int} {times : List Float}
    (h : pointTimes lengthOf path start = .ok times) : times.length = path.points.length := by
  unfold pointTimes at h
  split at h
  · rename_i hnone
    cases h
    exact (congrArg List.length (List.isEmpty_iff.mp hnone)).symm
  · obtain ⟨origin, _, h⟩ := bind_eq_ok.mp h
    obtain ⟨stamps, hstamps, h⟩ := bind_eq_ok.mp h
    cases h
    refine foldlM_keeps (I := fun s => s.times.length = path.points.length)
      (fun s stretch s' hs hcover => ?_) List.length_replicate hstamps
    exact (length_cover hcover).trans hs

end Lengths

/-! ## 3. Routes -/

/-- The instructions of a path. -/
def Path.turns (path : Path) : List Instruction := path.instructions.getD []

/-- An instruction that leads from a point of a path to one. -/
structure Instruction.OnPath (points : List Point) (i : Instruction) : Prop where
  first : ∃ point, itemAt points (min i.first ((points.length : Int) - 1)) = .ok point
  last : min i.first ((points.length : Int) - 1) < min i.last ((points.length : Int) - 1) →
    ∃ target, itemAt points (min i.last ((points.length : Int) - 1)) = .ok target

/-- The direction of an instruction can be told. -/
theorem Instruction.OnPath.exists_leading {points : List Point} {i : Instruction}
    (h : i.OnPath points) (point : Point) :
    ∃ direction, leadingElements points point (min i.first ((points.length : Int) - 1))
      (min i.last ((points.length : Int) - 1)) = .ok direction := by
  unfold leadingElements
  split
  · rename_i hleads
    obtain ⟨target, htarget⟩ := h.last hleads
    rw [htarget]
    exact ⟨_, rfl⟩
  · exact ⟨[], rfl⟩

/-- The only fault of a route point is that of a whole number with too many digits. -/
theorem failsOnly_routePoint {points : List Point} {i : Instruction} (h : i.OnPath points) :
    FailsOnly (· = .unexpected .longInteger) (routePoint points i) := by
  have hlong : ∀ n, FailsOnly (· = .unexpected .longInteger) (integerText n) :=
    fun n fault hfault => (writtenText_eq_error.mp hfault).2
  exact (failsOnly_of_ok h.first).bind fun point _ => (hlong i.time).bind fun time _ =>
    (failsOnly_of_ok (h.exists_leading point)).bind fun direction _ =>
      (hlong i.sign).bind fun sign _ => failsOnly_of_ok ⟨_, rfl⟩

/-- What a route point that was written holds. -/
theorem routePoint_eq_ok {points : List Point} {i : Instruction} {element : Xml}
    (h : routePoint points i = .ok element) :
    i.Told ∧ ∃ point direction,
      itemAt points (min i.first ((points.length : Int) - 1)) = .ok point ∧
      leadingElements points point (min i.first ((points.length : Int) - 1))
        (min i.last ((points.length : Int) - 1)) = .ok direction ∧
      element = .node "rtept" (positionAttributes point) [textElement "desc" i.text,
        .node "extensions" [] ([textElement "gh:distance" (floatText (roundPlaces 1 i.distance)),
          textElement "gh:time" (toString i.time)] ++ direction ++
          [textElement "gh:sign" (toString i.sign)])] := by
  obtain ⟨point, hpoint, h⟩ := bind_eq_ok.mp h
  obtain ⟨time, htime, h⟩ := bind_eq_ok.mp h
  obtain ⟨direction, hdirection, h⟩ := bind_eq_ok.mp h
  obtain ⟨sign, hsign, h⟩ := bind_eq_ok.mp h
  obtain ⟨hfewTime, rfl⟩ := integerText_eq_ok.mp htime
  obtain ⟨hfewSign, rfl⟩ := integerText_eq_ok.mp hsign
  cases h
  exact ⟨⟨hfewTime, hfewSign⟩, point, direction, hpoint, hdirection, rfl⟩

/-- The route point of an instruction can be written exactly when its whole numbers can. -/
theorem exists_routePoint {points : List Point} {i : Instruction} (h : i.OnPath points) :
    (∃ element, routePoint points i = .ok element) ↔ i.Told := by
  constructor
  · rintro ⟨element, helement⟩
    exact (routePoint_eq_ok helement).1
  · rintro ⟨htime, hsign⟩
    obtain ⟨point, hpoint⟩ := h.first
    obtain ⟨direction, hdirection⟩ := h.exists_leading point
    have htime' : integerText i.time = .ok (toString i.time) := integerText_eq_ok.mpr ⟨htime, rfl⟩
    have hsign' : integerText i.sign = .ok (toString i.sign) := integerText_eq_ok.mpr ⟨hsign, rfl⟩
    unfold routePoint
    dsimp only
    rw [hpoint, ok_bind, htime', ok_bind, hdirection, ok_bind, hsign']
    exact ⟨_, rfl⟩

/-- The route of a path has a route point for each instruction, if there are instructions and
    points. -/
theorem routeElements_eq (path : Path) : routeElements path =
    if path.turns = [] ∨ path.points = [] then .ok []
    else ([.node "rte" [] ·]) <$> path.turns.mapM (routePoint path.points) := by
  unfold routeElements Path.turns
  cases path.instructions with
  | none => rfl
  | some list =>
    cases list with
    | nil => rfl
    | cons i rest =>
      dsimp only [Option.getD_some]
      by_cases hpoints : path.points = []
      · rw [if_pos (Or.inr hpoints), hpoints]
        rfl
      · rw [if_neg (not_or.mpr ⟨List.cons_ne_nil i rest, hpoints⟩),
          if_neg (mt List.isEmpty_iff.mp hpoints)]
        exact bind_pure_comp _ _

/-- The route of a path, if it is asked for. -/
def Path.shownRoute (path : Path) (options : TrackOptions) : Except Fault (List Xml) :=
  if options.route then routeElements path else .ok []

section ShownRoute

variable {path : Path} (h : path.points ≠ [] → ∀ i ∈ path.turns, i.OnPath path.points)
include h

/-- The only fault of a route is that of a whole number with too many digits. -/
theorem failsOnly_shownRoute (options : TrackOptions) :
    FailsOnly (· = .unexpected .longInteger) (path.shownRoute options) := by
  unfold Path.shownRoute
  split
  · rw [routeElements_eq]
    split
    · exact failsOnly_of_ok ⟨_, rfl⟩
    · rename_i hsome
      rw [failsOnly_map]
      exact FailsOnly.mapM fun i hi => failsOnly_routePoint (h (not_or.mp hsome).2 i hi)
  · exact failsOnly_of_ok ⟨_, rfl⟩

/-- **The route that is asked for can be written exactly when its whole numbers can.** -/
theorem exists_shownRoute {options : TrackOptions} :
    (∃ route, path.shownRoute options = .ok route) ↔
      (options.route = true → path.points ≠ [] → ∀ i ∈ path.turns, i.Told) := by
  unfold Path.shownRoute
  split
  · rename_i hon
    rw [routeElements_eq]
    split
    · rename_i hnone
      refine iff_of_true ⟨[], rfl⟩ fun _ hpoints i hi => ?_
      rw [hnone.resolve_right hpoints] at hi
      exact absurd hi List.not_mem_nil
    · rename_i hsome
      have hpoints := (not_or.mp hsome).2
      have hall : (∃ elements, path.turns.mapM (routePoint path.points) = .ok elements) ↔
          ∀ i ∈ path.turns, i.Told :=
        exists_mapM.trans (forall₂_congr fun i hi => exists_routePoint (h hpoints i hi))
      refine Iff.trans ?_ (hall.trans ⟨fun h _ _ => h, fun h => h hon hpoints⟩)
      simp only [map_eq_ok]
      exact ⟨fun ⟨_, elements, helements, _⟩ => ⟨elements, helements⟩,
        fun ⟨elements, helements⟩ => ⟨_, elements, helements, rfl⟩⟩
  · rename_i hoff
    exact iff_of_true ⟨[], rfl⟩ fun hon => absurd hon hoff

end ShownRoute

/-! ## 4. Moments -/

/-- The texts of moments fail with breakdowns over numbers only. -/
theorem numeric_momentText (millis : Float) : FailsOnly Fault.Numeric (momentText millis) := by
  have hcheck : ∀ seconds, FailsOnly Fault.Numeric (checkSeconds seconds) := by
    intro seconds
    unfold checkSeconds
    split
    · exact failsOnly_error trivial
    · exact failsOnly_of_ok ⟨_, rfl⟩
  have hseconds : FailsOnly Fault.Numeric (secondsOfMillis millis) := by
    unfold secondsOfMillis wholeSeconds
    split
    · exact failsOnly_error trivial
    · exact failsOnly_error trivial
    · exact (numeric_wholeNumber _).bind fun micros _ => hcheck _
  refine hseconds.bind fun seconds _ => ?_
  unfold secondsText
  dsimp only
  split
  · exact failsOnly_error trivial
  · split
    · exact failsOnly_error trivial
    · exact failsOnly_of_ok ⟨_, rfl⟩

theorem own_momentText (millis : Float) : FailsOnly Fault.Own (momentText millis) :=
  (numeric_momentText millis).mono fun _ h => h.broken.own

/-- A moment whose text breaks down over its size. -/
def OutOfReach (millis : Float) : Prop :=
  ∃ fault, momentText millis = .error fault ∧ fault.isValueFault = false

/-- Moments the first of which that has no text is out of reach. -/
def RunsOut (moments : List Float) : Prop :=
  ∃ x, moments.find? (fun x => (fault? (momentText x)).isSome) = some x ∧ OutOfReach x

theorem failsOnly_moments {moments : List Float} :
    FailsOnly (fun fault => fault.isValueFault = true) (moments.mapM momentText) ↔
      ¬ RunsOut moments := by
  rw [failsOnly_mapM]
  constructor
  · rintro h ⟨x, hx, fault, hfault, hvalue⟩
    rw [h x hx fault hfault] at hvalue
    cases hvalue
  · intro h x hx fault hfault
    by_contra hvalue
    exact h ⟨x, hx, fault, hfault, Bool.eq_false_iff.mpr hvalue⟩

/-- The times that the track of a path shows. Where the route in front of it or a distance cannot be
    told there are none. -/
def Path.trackTimes (path : Path) (options : TrackOptions) (start : Int) : List Float :=
  if options.track then
    (path.shownRoute options >>= fun _ => pointTimes Point.distanceTo path start).toOption.getD []
  else []

/-- The moments that the document of a path states, in order: its start, and the times of its
    track. -/
def Path.moments (path : Path) (options : TrackOptions) (start : Int) : List Float :=
  Float.ofInt start :: path.trackTimes options start

/-! ## 5. Documents -/

/-- The instructions of a sound path lead from its points to its points. -/
theorem onPath_of_sound {path : Path} (h : path.Sound) (hne : path.points ≠ []) :
    ∀ i ∈ path.turns, i.OnPath path.points := by
  have hpos : 0 < path.points.length := List.length_pos_iff.mpr hne
  have hsound : ∀ i ∈ path.turns, i.Sound path.points.length := by
    unfold Path.turns
    cases hlist : path.instructions with
    | none => nofun
    | some list => exact h.instructions list hlist
  intro i hi
  have hfirst := (hsound i hi).first
  exact ⟨exists_itemAt (by omega) (by omega),
    fun hleads => exists_itemAt (by omega) (by omega)⟩

/-- The two ends of a path, if they are asked for. -/
def Path.shownEnds (path : Path) (options : TrackOptions) : List Xml :=
  if options.waypoints then waypointElements path.points else []

/-- The track of a path, if it is asked for. -/
def Path.shownTrack (path : Path) (options : TrackOptions) (start : Int) :
    Except Fault (List Xml) :=
  if options.track then do pure [← trackElement options path start] else pure []

/-- The parts of a document, in order. -/
theorem trackXml_eq (options : TrackOptions) (path : Path) (start : Int) :
    trackXml options path start = startText start >>= fun time =>
      path.shownRoute options >>= fun route => path.shownTrack options start >>= fun track =>
        return .node "gpx" (trackAttributes options)
          (metadataElement time :: path.shownEnds options ++ route ++ track) := by
  unfold trackXml Path.shownEnds Path.shownRoute Path.shownTrack
  refine bind_congr fun time => ?_
  cases options.route <;> cases options.track <;> cases trackElement options path start <;> rfl

theorem length_shownElevations (options : TrackOptions) (path : Path) :
    (shownElevations options path).length = path.points.length := by
  unfold shownElevations
  split
  · rename_i hshown
    rw [List.length_map]
    unfold Path.hasElevation at hshown
    simp only [Bool.and_eq_true, beq_iff_eq] at hshown
    exact hshown.2.2
  · exact List.length_map _

/-- The track of a path fails as its first time does that has no text. -/
theorem fault?_trackElement {options : TrackOptions} {path : Path} {start : Int}
    {times : List Float} (h : pointTimes Point.distanceTo path start = .ok times) :
    fault? (trackElement options path start) = fault? (times.mapM momentText) := by
  have hlength : times.length ≤ (path.points.zip (shownElevations options path)).length := by
    rw [List.length_zip, length_shownElevations, length_pointTimes h, Nat.min_self]
  unfold trackElement
  rw [h, ok_bind]
  dsimp only
  rw [fault?_bind_pure, fault?_mapM, fault?_mapM]
  conv => rhs; rw [← List.map_snd_zip hlength, List.findSome?_map]
  congr 1
  funext ⟨⟨point, elevation⟩, millis⟩
  unfold trackPoint
  dsimp only
  rw [fault?_bind_pure]
  rfl

/-- A document fails as the text of its start does, or else as its route, or else as its track
    does. -/
theorem fault?_trackXml (options : TrackOptions) (path : Path) {start : Int} {origin : Float}
    (hstart : floatOfInt start = .ok origin) :
    fault? (trackXml options path start) = (fault? (momentText origin)).or
      ((fault? (path.shownRoute options)).or
        (if options.track then fault? (trackElement options path start) else none)) := by
  have htext : startText start = momentText origin := by
    unfold startText
    rw [hstart, ok_bind]
  have htrack : fault? (path.shownTrack options start) =
      if options.track then fault? (trackElement options path start) else none := by
    unfold Path.shownTrack
    split
    · exact fault?_bind_pure _ _
    · rfl
  rw [trackXml_eq, htext, ← htrack]
  exact fault?_bind fun time _ => fault?_bind fun route _ => fault?_bind_pure _ _

/-- **The document of a sound path fails with a value fault only, exactly when its moments do not
    run out.** A distance or a whole number that cannot be told is such a fault. -/
theorem failsOnly_trackXml (options : TrackOptions) {path : Path} (h : path.Sound) {start : Int}
    (hstart : floatOfInt start = .ok (Float.ofInt start)) :
    FailsOnly (fun fault => fault.isValueFault = true) (trackXml options path start) ↔
      ¬ RunsOut (path.moments options start) := by
  rw [← failsOnly_moments, failsOnly_iff, failsOnly_iff, fault?_trackXml options path hstart,
    fault?_mapM, Path.moments, List.findSome?_cons]
  unfold Path.trackTimes
  cases fault? (momentText (Float.ofInt start)) with
  | some fault => exact Iff.rfl
  | none =>
    rw [Option.none_or]
    cases hroute : path.shownRoute options with
    | error fault =>
      have hlong := failsOnly_shownRoute (onPath_of_sound h) options fault hroute
      refine iff_of_true ?_ ?_
      · rintro _ ⟨⟩
        rw [hlong]
        rfl
      · rw [error_bind]
        cases options.track <;> nofun
    | ok route =>
      rw [fault?_ok, Option.none_or, ok_bind]
      cases options.track with
      | false => exact Iff.rfl
      | true =>
        rw [if_pos rfl, if_pos rfl]
        cases htimes : pointTimes Point.distanceTo path start with
        | ok times =>
          rw [fault?_trackElement htimes, fault?_mapM]
          exact Iff.rfl
        | error fault =>
          have hfault : fault = .unexpected .outsideDomain :=
            failsOnly_pointTimes h hstart fault htimes
          have htrack : trackElement options path start = .error fault := by
            unfold trackElement
            rw [htimes, error_bind]
          rw [htrack, hfault]
          refine iff_of_true ?_ nofun
          rintro _ ⟨⟩
          rfl

theorem trackXml_of_too_large {options : TrackOptions} {path : Path} {start : Int}
    (h : floatOfInt start = .error (.unexpected .integerTooLarge)) :
    trackXml options path start = .error (.unexpected .integerTooLarge) := by
  unfold trackXml startText
  rw [h]
  rfl

theorem own_trackElement {options : TrackOptions} {path : Path} (h : path.Sound) {start : Int}
    {origin : Float} (hstart : floatOfInt start = .ok origin) :
    FailsOnly Fault.Own (trackElement options path start) := by
  cases htimes : pointTimes Point.distanceTo path start with
  | ok times =>
    rw [failsOnly_iff, fault?_trackElement htimes, ← failsOnly_iff]
    exact FailsOnly.mapM fun millis _ => own_momentText millis
  | error fault =>
    have hfault : fault = .unexpected .outsideDomain := failsOnly_pointTimes h hstart fault htimes
    unfold trackElement
    rw [htimes, hfault, error_bind]
    exact failsOnly_error trivial

/-- The document of a sound path fails with breakdowns only. -/
theorem own_trackXml (options : TrackOptions) {path : Path} (h : path.Sound) (start : Int) :
    FailsOnly Fault.Own (trackXml options path start) := by
  rcases floatOfInt_cases start with hok | hlarge
  · rw [failsOnly_iff, fault?_trackXml options path hok]
    intro fault hfault
    rcases Option.or_eq_some_iff.mp hfault with htext | ⟨-, hfault⟩
    · exact own_momentText _ fault (fault?_eq_some.mp htext)
    rcases Option.or_eq_some_iff.mp hfault with hroute | ⟨-, htrack⟩
    · rw [failsOnly_shownRoute (onPath_of_sound h) options fault (fault?_eq_some.mp hroute)]
      trivial
    · split at htrack
      · exact own_trackElement h hok fault (fault?_eq_some.mp htrack)
      · cases htrack
  · rw [trackXml_of_too_large hlarge]
    exact failsOnly_error trivial

/-- The moment at which a track begins: the one that a caller named, or now. -/
def trackStart (millis : Option String) (now : Int) : Except Fault Int :=
  match millis with
  | some text => namedMillis text
  | none => clockMillis now

/-- A track document whose moments the calendar does not reach: its start has no double, or its
    moments run out. -/
def Outcome.TrackRunsOut (outcome : Outcome) (options : TrackOptions) (millis : Option String)
    (now : Int) : Prop :=
  ∃ path start, outcome.paths = [path] ∧ trackStart millis now = .ok start ∧
    (floatOfInt start = .error (.unexpected .integerTooLarge) ∨
      RunsOut (path.moments options start))

/-- What the document of an outcome with one path comes to. -/
theorem outcomeTrack_of_single {options : TrackOptions} {outcome : Outcome} {path : Path}
    (hsingle : outcome.paths = [path]) (millis : Option String) (now : Int) :
    outcomeTrack options outcome millis now =
      trackStart millis now >>= fun start => xmlDocument <$> trackXml options path start := by
  have hbest : outcome.best = .ok path := by
    unfold Outcome.best
    rw [hsingle]
  unfold outcomeTrack trackStart
  rw [hsingle, hbest]
  cases millis with
  | none => rfl
  | some text =>
    rw [show Option.mapM namedMillis (some text) = some <$> namedMillis text from rfl]
    dsimp only
    cases namedMillis text <;> rfl

theorem outcomeTrack_of_several {options : TrackOptions} {outcome : Outcome} {first second : Path}
    {rest : List Path} (hseveral : outcome.paths = first :: second :: rest)
    (millis : Option String) (now : Int) :
    outcomeTrack options outcome millis now = .error (.refused .alternativesInTrack) := by
  unfold outcomeTrack
  rw [hseveral, if_pos (by simp)]
  rfl

/-- The moment that a caller named is refused or taken. -/
theorem failsOnly_trackStart {P : Fault → Prop} {now : Int}
    (hnow : ∃ start, clockMillis now = .ok start) (h : ∀ reason, P (.refused reason))
    (millis : Option String) : FailsOnly P (trackStart millis now) := by
  unfold trackStart
  cases millis with
  | none => exact failsOnly_of_ok hnow
  | some text =>
    dsimp only
    unfold namedMillis
    split
    · exact failsOnly_of_ok ⟨_, rfl⟩
    · exact failsOnly_error (h _)

section Tracks

variable {outcome : Outcome} (hsound : ∀ path ∈ outcome.paths, path.Sound)
  (hne : outcome.paths ≠ []) {now : Int} (hnow : ∃ start, clockMillis now = .ok start)
include hsound hne hnow

/-- **A track document fails with a value fault only, exactly when its moments do not run out.** -/
theorem failsOnly_outcomeTrack (options : TrackOptions) (millis : Option String) :
    FailsOnly (fun fault => fault.isValueFault = true) (outcomeTrack options outcome millis now) ↔
      ¬ outcome.TrackRunsOut options millis now := by
  match hpaths : outcome.paths with
  | [] => exact absurd hpaths hne
  | first :: second :: rest =>
    rw [outcomeTrack_of_several hpaths]
    refine iff_of_true (failsOnly_error rfl) ?_
    rintro ⟨path, start, hsingle, -⟩
    rw [hpaths] at hsingle
    cases hsingle
  | [path] =>
    have hpath : path.Sound := hsound path (by rw [hpaths]; exact List.mem_singleton_self path)
    have hstart : FailsOnly (fun fault => fault.isValueFault = true) (trackStart millis now) :=
      failsOnly_trackStart hnow (fun _ => rfl) millis
    rw [outcomeTrack_of_single hpaths, failsOnly_bind]
    constructor
    · rintro ⟨-, hdocument⟩ ⟨path', start, hsingle, hmillis, hruns⟩
      rw [hpaths] at hsingle
      cases hsingle
      have hxml := failsOnly_map.mp (hdocument start hmillis)
      rcases hruns with hlarge | hruns
      · cases hxml _ (trackXml_of_too_large hlarge)
      · rcases floatOfInt_cases start with hok | hlarge
        · exact (failsOnly_trackXml options hpath hok).mp hxml hruns
        · cases hxml _ (trackXml_of_too_large hlarge)
    · intro hnot
      refine ⟨hstart, fun start hmillis => failsOnly_map.mpr ?_⟩
      rcases floatOfInt_cases start with hok | hlarge
      · exact (failsOnly_trackXml options hpath hok).mpr fun hruns =>
          hnot ⟨path, start, hpaths, hmillis, Or.inr hruns⟩
      · exact absurd ⟨path, start, hpaths, hmillis, Or.inl hlarge⟩ hnot

/-- A track document fails with refusals and breakdowns only. -/
theorem own_outcomeTrack (options : TrackOptions) (millis : Option String) :
    FailsOnly Fault.Own (outcomeTrack options outcome millis now) := by
  match hpaths : outcome.paths with
  | [] => exact absurd hpaths hne
  | first :: second :: rest =>
    rw [outcomeTrack_of_several hpaths]
    exact failsOnly_error trivial
  | [path] =>
    have hpath : path.Sound := hsound path (by rw [hpaths]; exact List.mem_singleton_self path)
    rw [outcomeTrack_of_single hpaths]
    refine FailsOnly.bind ?_ fun start _ => failsOnly_map.mpr (own_trackXml options hpath start)
    exact failsOnly_trackStart hnow (fun _ => trivial) millis

end Tracks

end Waypost
