import Waypost.Proofs.Document.Rising
import Waypost.Proofs.Geo.Distance
import Waypost.Proofs.Osrm.Shape
import Waypost.Proofs.Osrm.TurnIntervals

/-!
# Tracks of an answer that takes no negative time

The stretches of a path come from the steps of its route, or there is one for the whole path when no
instructions are told. Steps that are shorter than the path end before its last point, and behind
that the track falls back to the time at which it begins.

* `Json.RunsForward` -- an answer in which no route and no step takes a negative time;
* `Lasts` -- a time that is read from a part of an answer;
* `Json.reach` -- the last point of a path that its stretches reach;
* `stretches_of_routePath` -- what the stretches of a path are read from;
* `track_rises` -- **the times of a track rise up to the point that the steps reach**, and never
  fall exactly when that is the last one, or no time has passed until then;
* `rises_by_distanceTo` -- so it is for segments that are measured on the globe;
* `track_falls_back` -- they do fall for steps that are shorter than their path.
-/

namespace Waypost

open Decimal

/-! ## 1. Durations -/

namespace Json

/-- A duration that is not negative, where it is one at all. -/
def NotNegative (duration : Json) : Prop := ∀ x, duration.toReal = .ok x → 0.0 ≤ x

instance (duration : Json) : Decidable duration.NotNegative :=
  match h : duration.toReal with
  | .ok x => decidable_of_iff (0.0 ≤ x) ⟨fun hx y hy => by cases h.symm.trans hy; exact hx,
      fun hall => hall x h⟩
  | .error _ => isTrue fun _ hx => by cases h.symm.trans hx

/-- The parts of a route that take time: the route itself and its steps. -/
def timedParts (route : Json) : List Json := route :: (route.member "legs").steps.map (·.2)

/-- An answer in which no route and no step takes a negative time. -/
def RunsForward (answer : Json) : Prop :=
  ∀ route ∈ answer.routes, ∀ part ∈ route.timedParts, (part.member "duration").NotNegative

instance (answer : Json) : Decidable answer.RunsForward :=
  inferInstanceAs (Decidable (∀ route ∈ answer.routes, ∀ part ∈ route.timedParts, _))

end Json

/-- A time that is read from the duration of a part of an answer; without one it is none. -/
def Lasts (part : Json) (time : Int) : Prop :=
  ∃ members : Members, part = .obj members ∧
    millisOf (members.getD "duration" (.float 0.0)) = .ok time

/-- What lasts so long has a double. -/
theorem exists_double_of_lasts {part : Json} {time : Int} (h : Lasts part time) :
    ∃ x, floatOfInt time = .ok x := by
  obtain ⟨members, -, htime⟩ := h
  obtain ⟨x, -, hnearest⟩ := millisOf_eq_ok htime
  exact exists_floatOfInt_of_nearest hnearest

/-- A duration that is not negative is read as a time that is not, and so is one that is missing. -/
theorem nonneg_of_lasts {part : Json} {time : Int} (h : Lasts part time)
    (hduration : (part.member "duration").NotNegative) : 0 ≤ time := by
  obtain ⟨members, rfl, htime⟩ := h
  obtain ⟨x, hx, hnearest⟩ := millisOf_eq_ok htime
  have hlow : 0.0 ≤ x := by
    rw [Json.member_obj] at hduration
    unfold Members.getD at hx hduration
    cases hmember : members.get? "duration" with
    | none =>
      rw [hmember] at hx
      cases hx
      decide +kernel
    | some duration =>
      rw [hmember] at hx hduration
      exact hduration x hx
  have hfinite : (x * 1000.0).isFinite = true := (wholeOf_nearest? _).ok.mp ⟨time, hnearest⟩
  have hnumber := (isMoment_of_isFinite hfinite).1
  exact nonneg_of_nearest (zero_le_mul hlow (by decide +kernel) hnumber) hnearest

theorem lasts_of_read {lastIndex legs : Nat} {step : Nat × Json} {i : Instruction}
    (h : ReadFrom lastIndex legs step i) : Lasts step.2 i.time := by
  obtain ⟨pointer, length, hread⟩ := h
  obtain ⟨members, maneuver, hstep, -, -, -, -, htime, -⟩ := stepInstruction_eq_ok hread
  exact ⟨members, hstep, htime⟩

/-! ## 2. Stretches -/

/-- The last point of a path that its stretches reach: as many segments as the steps of the route
    have, or all when no instructions are told. -/
def Json.reach (route : Json) (r : Request) (count : Nat) : Nat :=
  let steps := (route.member "legs").steps
  if (r.hints.flag? Key.instructions).getD true = true ∧ steps.isEmpty = false then
    min (segmentsOf steps) (count - 1)
  else count - 1

theorem Json.listed_orElse (value : Json) : (value.orElse (.arr [])).listed = value.listed := by
  unfold orElse
  split
  · rfl
  · rename_i hfalsy
    cases value with
    | arr items =>
      cases items with
      | nil => rfl
      | cons first rest => exact absurd rfl hfalsy
    | null | bool | int | float | str | obj => rfl

section Route

variable {r : Request} {snapped : List Point} {route : Json} {path : Path}

/-- **What the stretches of a path are read from**: the steps of the route, or its duration. -/
theorem stretches_of_routePath (h : routePath r snapped route = .ok path) :
    (∃ list legs, path.instructions = some list ∧ list ≠ [] ∧
      Tiles 0 (list.map Instruction.interval) (route.reach r path.points.length) ∧
      List.Forall₂ (ReadFrom (path.points.length - 1) legs) (route.member "legs").steps list) ∨
    (∀ list, path.instructions = some list → list = []) ∧
      route.reach r path.points.length = path.points.length - 1 := by
  obtain ⟨members, geometry, pairs, rfl, -, -, -, hread, -, -⟩ := routePath_eq_ok h
  unfold Json.reach
  dsimp only
  split at hread
  · rename_i hon
    obtain ⟨list, hlist, hinstructions⟩ := map_eq_ok.mp hread
    obtain ⟨htiles, hsteps⟩ := read_turnInstructions hlist
    have hsame : ((Members.getD members "legs" .null).orElse (.arr [])).steps =
        ((Json.obj members).member "legs").steps :=
      congrArg (Json.stepsFrom 0) (Json.listed_orElse _)
    rw [hsame] at htiles hsteps
    rw [hon, ← hinstructions]
    -- no step at all leaves no instruction, and then the whole path is one stretch
    generalize ((Json.obj members).member "legs").steps = steps at htiles hsteps ⊢
    cases hsteps with
    | nil => exact Or.inr ⟨fun _ h => (Option.some.inj h).symm, rfl⟩
    | cons hfirst hrest =>
      exact Or.inl ⟨_, _, rfl, List.cons_ne_nil _ _, htiles, List.Forall₂.cons hfirst hrest⟩
  · rename_i hoff
    rw [← Except.ok.inj hread, if_neg fun hon => hoff hon.1]
    exact Or.inr ⟨nofun, rfl⟩

/-- The stretches of a path tile its points as far as they reach. -/
theorem tiles_of_routePath (h : routePath r snapped route = .ok path) (hpoints : path.points ≠ []) :
    Tiles 0 (path.stretches.map Stretch.interval) (route.reach r path.points.length) := by
  rcases stretches_of_routePath h with ⟨list, legs, hlist, hne, htiles, -⟩ | ⟨hnone, hreach⟩
  · rw [stretches_of_instructions hlist hne, List.map_map]
    exact htiles
  · rw [hreach]
    exact tiles_stretches hpoints fun list hlist hne => absurd (hnone list hlist) hne

/-- The time of a stretch is read from a part of the route. -/
theorem lasts_of_routePath (h : routePath r snapped route = .ok path) :
    ∀ stretch ∈ path.stretches, ∃ part ∈ route.timedParts, Lasts part stretch.duration := by
  intro stretch hmem
  rcases stretches_of_routePath h with ⟨list, legs, hlist, hne, -, hread⟩ | ⟨hnone, -⟩
  · rw [stretches_of_instructions hlist hne] at hmem
    obtain ⟨i, hi, rfl⟩ := List.mem_map.mp hmem
    obtain ⟨step, hstep, hread⟩ := exists_mem_of_forall₂ hread hi
    exact ⟨step.2, List.mem_cons_of_mem _ (List.mem_map_of_mem hstep), lasts_of_read hread⟩
  · rw [stretches_of_none hnone] at hmem
    obtain ⟨members, geometry, pairs, hroute, -, -, -, -, htime, -⟩ := routePath_eq_ok h
    rw [List.mem_singleton.mp hmem]
    exact ⟨route, List.mem_cons_self, members, hroute, htime⟩

end Route

/-! ## 3. Tracks -/

theorem reach_lt (route : Json) (r : Request) {count : Nat} (h : 0 < count) :
    route.reach r count < count := by
  unfold Json.reach
  dsimp only
  split <;> omega

section Tracks

variable {r : Request} {snapped : List Point} {route : Json} {path : Path}
  {lengthOf : Point → Point → Except Fault Float} {start : Int} {times : List Float}

/-- The times of a path that is read from a route can be told, where its start has a double and
    the lengths of its segments can be told. -/
theorem exists_times_of_routePath (h : routePath r snapped route = .ok path)
    (hstart : ∃ x, floatOfInt start = .ok x) (hlengths : ∃ f, Measures lengthOf f path.points) :
    ∃ times, pointTimes lengthOf path start = .ok times := by
  by_cases hpoints : path.points = []
  · refine ⟨[], ?_⟩
    unfold pointTimes
    rw [hpoints]
    rfl
  · obtain ⟨f, hmeasures⟩ := hlengths
    have hfits := reach_lt route r (List.length_pos_iff.mpr hpoints)
    refine (exists_pointTimes_iff hmeasures (tiles_of_routePath h hpoints) hfits).mpr
      ⟨hstart, fun stretch hmem _ => ?_⟩
    obtain ⟨part, -, hlasts⟩ := lasts_of_routePath h stretch hmem
    exact exists_double_of_lasts hlasts

/-- The times of a path that is read from a route rise as far as its stretches reach. -/
theorem risesTo_of_routePath (h : routePath r snapped route = .ok path)
    (hforward : ∀ part ∈ route.timedParts, (part.member "duration").NotNegative)
    (hlengths : Plausible lengthOf) (htimes : pointTimes lengthOf path start = .ok times) :
    RisesTo times (route.reach r path.points.length) (Float.ofInt start) := by
  by_cases hpoints : path.points = []
  · -- a path without points has no times, and its steps reach nothing
    have hnone : times = [] :=
      List.eq_nil_of_length_eq_zero (by rw [length_pointTimes htimes, hpoints]; rfl)
    have hreach : route.reach r 0 = 0 := by
      unfold Json.reach
      dsimp only
      split <;> omega
    rw [hnone, hpoints, List.length_nil, hreach]
    exact ⟨fun k hk => absurd hk (Nat.not_lt_zero k), fun k _ hk => absurd hk (Nat.not_lt_zero k)⟩
  · have hdurations : ∀ stretch ∈ path.stretches, 0 ≤ stretch.duration := by
      intro stretch hmem
      obtain ⟨part, hpart, hlasts⟩ := lasts_of_routePath h stretch hmem
      exact nonneg_of_lasts hlasts (hforward part hpart)
    exact risesTo_pointTimes (tiles_of_routePath h hpoints)
      (reach_lt route r (List.length_pos_iff.mpr hpoints)) hdurations hlengths htimes

/-- So they never fall exactly when the stretches reach the last point, or no time has passed when
    they end. -/
theorem isChain_iff_of_routePath (h : routePath r snapped route = .ok path)
    (hforward : ∀ part ∈ route.timedParts, (part.member "duration").NotNegative)
    (hlengths : Plausible lengthOf) (htimes : pointTimes lengthOf path start = .ok times) :
    List.IsChain (· ≤ ·) times ↔
      path.points.length ≤ route.reach r path.points.length + 1 ∨
        ∃ t, times[route.reach r path.points.length]? = some t ∧ t ≤ Float.ofInt start := by
  have hrises := risesTo_of_routePath h hforward hlengths htimes
  rw [← length_pointTimes htimes]
  rw [← length_pointTimes htimes] at hrises
  by_cases hpoints : path.points = []
  · have hnone : times.length = 0 := by rw [length_pointTimes htimes, hpoints]; rfl
    rw [List.eq_nil_of_length_eq_zero hnone]
    exact iff_of_true List.IsChain.nil (Or.inl (Nat.zero_le _))
  · exact isChain_iff_of_risesTo hrises (start_le_start hpoints htimes)

end Tracks

/-- **The times of a track rise up to the point that the steps of its route reach.** Behind it every
    point has the time at which the track begins. So the times never fall exactly when that point is
    the last one, or no time has passed until then. There are times wherever the start has a double
    and the lengths of all segments can be told. -/
theorem track_rises {answer : Json} {r : Request} {outcome : Outcome} {path : Path}
    {lengthOf : Point → Point → Except Fault Float} {start : Int}
    (h : Outcome.ofAnswer answer r = .ok outcome) (hpath : path ∈ outcome.paths)
    (hforward : answer.RunsForward) (hlengths : Plausible lengthOf) :
    ((∃ x, floatOfInt start = .ok x) → (∃ f, Measures lengthOf f path.points) →
      ∃ times, pointTimes lengthOf path start = .ok times) ∧
    ∃ route ∈ answer.routes, (∃ snapped, routePath r snapped route = .ok path) ∧
      ∀ times, pointTimes lengthOf path start = .ok times →
        RisesTo times (route.reach r path.points.length) (Float.ofInt start) ∧
        (List.IsChain (· ≤ ·) times ↔
          path.points.length ≤ route.reach r path.points.length + 1 ∨
          ∃ t, times[route.reach r path.points.length]? = some t ∧ t ≤ Float.ofInt start) := by
  obtain ⟨route, hroute, snapped, hread⟩ := exists_route_of_path h hpath
  exact ⟨exists_times_of_routePath hread, route, hroute, ⟨snapped, hread⟩, fun times htimes =>
    ⟨risesTo_of_routePath hread (hforward route hroute) hlengths htimes,
      isChain_iff_of_routePath hread (hforward route hroute) hlengths htimes⟩⟩

/-- So do the times of a track whose segments are measured on the globe, as far as its angles are
    angles. -/
theorem rises_by_distanceTo (hangle : IsAngle Float.atan2) {answer : Json} {r : Request}
    {outcome : Outcome} {path : Path} {start : Int} {times : List Float}
    (h : Outcome.ofAnswer answer r = .ok outcome) (hpath : path ∈ outcome.paths)
    (hforward : answer.RunsForward)
    (htimes : pointTimes Point.distanceTo path start = .ok times) :
    ∃ route ∈ answer.routes,
      RisesTo times (route.reach r path.points.length) (Float.ofInt start) ∧
      (List.IsChain (· ≤ ·) times ↔
        path.points.length ≤ route.reach r path.points.length + 1 ∨
        ∃ t, times[route.reach r path.points.length]? = some t ∧ t ≤ Float.ofInt start) := by
  obtain ⟨route, hroute, snapped, hread⟩ := exists_route_of_path h hpath
  have hlengths := plausible_distanceTo hangle
  exact ⟨route, hroute, risesTo_of_routePath hread (hforward route hroute) hlengths htimes,
    isChain_iff_of_routePath hread (hforward route hroute) hlengths htimes⟩

/-- A way over three points, whose steps have a geometry of two. -/
def shortSteps : Json :=
  let geometry (pairs : List (Int × Int)) : Json :=
    .obj [("coordinates", .arr (pairs.map fun (lon, lat) => .arr [.int lon, .int lat]))]
  let maneuver (kind : String) : Json := .obj [("type", .str kind)]
  .obj [("code", .str "Ok"), ("routes", .arr [.obj [
    ("distance", .int 1000), ("duration", .int 60), ("geometry", geometry [(2, 8), (2, 9), (3, 9)]),
    ("legs", .arr [.obj [("steps", .arr [
      .obj [("maneuver", maneuver "depart"), ("duration", .int 60),
        ("geometry", geometry [(2, 8), (2, 9)])],
      .obj [("maneuver", maneuver "arrive")]])]])]])]

/-- The request that is answered so. -/
def shortRequest : Request where
  points := [⟨.int 8, .int 2, rfl, rfl⟩, ⟨.int 9, .int 3, rfl, rfl⟩]

/-- All segments have one length. -/
def evenLength (_ _ : Point) : Except Fault Float := .ok 1.0

theorem plausible_evenLength : Plausible evenLength := by
  intro p q length h
  cases h
  exact Or.inr ⟨by decide +kernel, by decide +kernel⟩

theorem runsForward_shortSteps : shortSteps.RunsForward := by decide +kernel

/-- The way is read with all its points, and its times fall. -/
theorem read_shortSteps :
    ∃ outcome path times, Outcome.ofAnswer shortSteps shortRequest = .ok outcome ∧
      path ∈ outcome.paths ∧ path.points.length = 3 ∧ pointTimes evenLength path 0 = .ok times ∧
      ¬ List.IsChain (· ≤ ·) times := by
  have hread : (Outcome.ofAnswer shortSteps shortRequest).toOption.any (fun outcome =>
      outcome.paths.any fun path => path.points.length == 3 &&
        (pointTimes evenLength path 0).toOption.any fun times =>
          decide (¬ List.IsChain (· ≤ ·) times)) = true := by
    decide +kernel
  obtain ⟨outcome, houtcome, hread⟩ := exists_ok_of_any hread
  obtain ⟨path, hpath, hread⟩ := List.any_eq_true.mp hread
  rw [Bool.and_eq_true, beq_iff_eq] at hread
  obtain ⟨hcount, hread⟩ := hread
  obtain ⟨times, htimes, hfalls⟩ := exists_ok_of_any hread
  exact ⟨outcome, path, times, houtcome, hpath, hcount, htimes, of_decide_eq_true hfalls⟩

theorem track_rises_shortSteps :
    ∃ outcome path times, Outcome.ofAnswer shortSteps shortRequest = .ok outcome ∧
      path ∈ outcome.paths ∧ shortSteps.RunsForward ∧ Plausible evenLength ∧
      pointTimes evenLength path 0 = .ok times ∧ RisesTo times 1 (Float.ofInt 0) := by
  have hreach : ∀ route ∈ shortSteps.routes, route.reach shortRequest 3 = 1 := by decide +kernel
  obtain ⟨outcome, path, -, houtcome, hpath, hcount, -, -⟩ := read_shortSteps
  obtain ⟨hexists, route, hroute, -, hall⟩ := @track_rises _ _ outcome path evenLength 0 houtcome
    hpath runsForward_shortSteps plausible_evenLength
  obtain ⟨times, htimes⟩ :=
    hexists (exists_floatOfInt_of_lt (by decide)) ⟨fun _ _ => 1.0, fun _ _ _ _ _ => rfl⟩
  obtain ⟨hrises, -⟩ := hall times htimes
  rw [hcount, hreach route hroute] at hrises
  exact ⟨outcome, path, times, houtcome, hpath, runsForward_shortSteps, plausible_evenLength,
    htimes, hrises⟩

/-- **A track falls back** where the steps of its route are shorter than the path, although no part
    of the route takes a negative time. -/
theorem track_falls_back :
    ∃ outcome path times, Outcome.ofAnswer shortSteps shortRequest = .ok outcome ∧
      path ∈ outcome.paths ∧ shortSteps.RunsForward ∧ Plausible evenLength ∧
      pointTimes evenLength path 0 = .ok times ∧ ¬ List.IsChain (· ≤ ·) times := by
  obtain ⟨outcome, path, times, houtcome, hpath, -, htimes, hfalls⟩ := read_shortSteps
  exact ⟨outcome, path, times, houtcome, hpath, runsForward_shortSteps, plausible_evenLength,
    htimes, hfalls⟩

end Waypost
