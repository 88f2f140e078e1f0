import Waypost.Document.Route
import Waypost.Proofs.Decimal.Exact
import Waypost.Proofs.Document.Sound
import Waypost.Proofs.Fault.First

/-!
# When a route document cannot be written

A polyline rounds each coordinate to a whole number after scaling it, and a double that is not
finite has no whole number next to it.

* `Outcome.rounded` -- the doubles that the polylines of a document round, in order;
* `Overflows` -- doubles the first of which that is not finite is an infinity;
* `fault?_routeJson` -- **a route document fails as the first rounding does that fails**;
* `failsOnly_routeJson` -- it fails with a value fault only, exactly when these doubles do not
  overflow, or its multiplier is below one.
-/

namespace Waypost

open Decimal

/-! ## 1. Rounding one after another -/

/-- The fault of rounding a double down. -/
def roundingFault? (x : Float) : Option Fault := fault? (wholeNumber (floor? x))

/-- Doubles the first of which that is not finite is an infinity. -/
def Overflows (xs : List Float) : Prop :=
  ∃ x, xs.find? (fun x => !x.isFinite) = some x ∧ x.isInf = true

theorem roundingFault?_of_isFinite {x : Float} (h : x.isFinite = true) :
    roundingFault? x = none := by
  obtain ⟨n, hn⟩ := (wholeOf_floor? x).ok.mpr h
  unfold roundingFault?
  rw [hn]
  rfl

/-- Rounding a double that is not finite fails: with a value fault over what is no number, and with
    an overflow over an infinity. -/
theorem roundingFault?_of_not_isFinite {x : Float} (h : x.isFinite = false) :
    ∃ fault, roundingFault? x = some fault ∧ (fault.isValueFault = true ↔ x.isInf = false) := by
  unfold roundingFault?
  cases hf : floor? x with
  | ok n =>
    rw [(wholeOf_floor? x).ok.mp ⟨n, hf⟩] at h
    cases h
  | error why =>
    refine ⟨_, rfl, ?_⟩
    cases ((wholeOf_floor? x).error why).mp hf with
    | nan hnan => exact iff_of_true rfl (isInf_of_isNaN hnan)
    | infinite hinf => exact iff_of_false Bool.false_ne_true (by rw [hinf]; nofun)

/-- **Rounding one double after another** fails with a value fault only, exactly when they do not
    overflow. -/
theorem failsOnly_rounding {xs : List Float} :
    (∀ fault ∈ xs.findSome? roundingFault?, fault.isValueFault = true) ↔ ¬ Overflows xs := by
  induction xs with
  | nil => exact iff_of_true nofun (by rintro ⟨_, ⟨⟩, _⟩)
  | cons x rest ih =>
    unfold Overflows
    rw [List.findSome?_cons, List.find?_cons]
    cases hx : x.isFinite with
    | true =>
      rw [roundingFault?_of_isFinite hx]
      exact ih
    | false =>
      obtain ⟨fault, hfault, hvalue⟩ := roundingFault?_of_not_isFinite hx
      rw [hfault]
      dsimp only [Bool.not_false]
      constructor
      · rintro h ⟨_, ⟨⟩, hinf⟩
        rw [hvalue.mp (h fault rfl)] at hinf
        cases hinf
      · rintro h _ ⟨⟩
        exact hvalue.mpr (Bool.eq_false_iff.mpr fun hinf => h ⟨x, rfl, hinf⟩)

theorem not_overflows_of_finite {xs : List Float} (h : ∀ x ∈ xs, x.isFinite = true) :
    ¬ Overflows xs := by
  rintro ⟨x, hx, -⟩
  have hinfinite := List.find?_some hx
  rw [h x (List.mem_of_find?_eq_some hx)] at hinfinite
  cases hinfinite

/-! ## 2. Polylines -/

/-- The doubles that a polyline rounds for one point. -/
def scaledPoint (multiplier : Float) (point : Point) (elevation : Option Float) : List Float :=
  [point.lat.toFloat * multiplier + 0.5, point.lon.toFloat * multiplier + 0.5]
    ++ (elevation.map fun e => e * 100.0 + 0.5).toList

/-- The doubles that a polyline rounds. -/
def scaledPoints (multiplier : Float) (points : List Point) (elevations : Option (List Float)) :
    List Float :=
  (withElevations points elevations).flatMap fun (point, elevation) =>
    scaledPoint multiplier point elevation

theorem fault?_quantizePoint (multiplier : Float) (point : Point) (elevation : Option Float) :
    fault? (quantizePoint multiplier point elevation) =
      (scaledPoint multiplier point elevation).findSome? roundingFault? := by
  unfold quantizePoint scaledPoint
  cases elevation with
  | none =>
    refine (fault?_bind fun lat _ => fault?_bind_pure (fun lon => [lat, lon]) _).trans ?_
    show (roundingFault? _).or (roundingFault? _) = List.findSome? _ [_, _]
    rw [List.findSome?_cons, List.findSome?_cons, List.findSome?_nil]
    cases roundingFault? (point.lat.toFloat * multiplier + 0.5) with
    | some fault => rfl
    | none => cases roundingFault? (point.lon.toFloat * multiplier + 0.5) <;> rfl
  | some e =>
    refine (fault?_bind fun lat _ => fault?_bind fun lon _ =>
      fault?_bind_pure (fun height => [lat, lon, height]) _).trans ?_
    show (roundingFault? _).or ((roundingFault? _).or (roundingFault? _)) =
      List.findSome? _ [_, _, _]
    rw [List.findSome?_cons, List.findSome?_cons, List.findSome?_cons, List.findSome?_nil]
    cases roundingFault? (point.lat.toFloat * multiplier + 0.5) with
    | some fault => rfl
    | none =>
      cases roundingFault? (point.lon.toFloat * multiplier + 0.5) with
      | some fault => rfl
      | none => cases roundingFault? (e * 100.0 + 0.5) <;> rfl

theorem findSome?_flatMap {α β γ : Type} {f : β → Option γ} {g : α → List β} {k : α → Option γ}
    {xs : List α} (h : ∀ x ∈ xs, k x = (g x).findSome? f) :
    xs.findSome? k = (xs.flatMap g).findSome? f := by
  induction xs with
  | nil => rfl
  | cons x rest ih =>
    obtain ⟨hx, hrest⟩ := List.forall_mem_cons.mp h
    rw [List.flatMap_cons, List.findSome?_append, ← ih hrest, List.findSome?_cons, hx]
    cases (g x).findSome? f <;> rfl

/-- **A polyline fails as the first rounding does that fails.** -/
theorem fault?_encodePolyline {multiplier : Float} (h : ¬ multiplier < 1.0) (points : List Point)
    (elevations : Option (List Float)) : fault? (encodePolyline points elevations multiplier) =
      (scaledPoints multiplier points elevations).findSome? roundingFault? := by
  unfold encodePolyline scaledPoints
  rw [if_neg h]
  refine (fault?_map _ _).trans ?_
  unfold quantize
  rw [fault?_mapM]
  exact findSome?_flatMap fun (point, elevation) _ =>
    fault?_quantizePoint multiplier point elevation

theorem encodePolyline_of_lt {multiplier : Float} (h : multiplier < 1.0) (points : List Point)
    (elevations : Option (List Float)) : encodePolyline points elevations multiplier =
      .error (.unexpected .multiplierBelowOne) := by
  unfold encodePolyline
  rw [if_pos h]
  rfl

theorem broken_quantizePoint (multiplier : Float) (point : Point) (elevation : Option Float) :
    FailsOnly Fault.Broken (quantizePoint multiplier point elevation) := by
  unfold quantizePoint roundHalfUp
  refine (broken_wholeNumber _).bind fun lat _ => (broken_wholeNumber _).bind fun lon _ => ?_
  cases elevation with
  | none => exact failsOnly_of_ok ⟨_, rfl⟩
  | some e => exact (broken_wholeNumber _).bind fun height _ => failsOnly_of_ok ⟨_, rfl⟩

/-- A polyline that cannot be written broke down. -/
theorem broken_encodePolyline (points : List Point) (elevations : Option (List Float))
    (multiplier : Float) : FailsOnly Fault.Broken (encodePolyline points elevations multiplier) := by
  by_cases h : multiplier < 1.0
  · rw [encodePolyline_of_lt h]
    exact failsOnly_error trivial
  · unfold encodePolyline
    rw [if_neg h]
    refine failsOnly_map.mpr (FailsOnly.mapM ?_)
    exact fun (point, elevation) _ => broken_quantizePoint multiplier point elevation

/-! ## 3. Paths -/

/-- The elevations that the geometry of a path shows. -/
def Path.shownHeights (path : Path) (options : OutputOptions) : Option (List Float) :=
  if options.elevation && path.hasElevation then some path.elevations else none

/-- The doubles that the polylines of a path would round, in order. -/
def Path.scaled (path : Path) (options : OutputOptions) : List Float :=
  scaledPoints options.multiplier path.points (path.shownHeights options)
    ++ scaledPoints options.multiplier path.snapped none

/-- Whether a document shows polylines. -/
def OutputOptions.encodes (options : OutputOptions) : Bool :=
  options.calcPoints && options.pointsEncoded

/-- The doubles that the polylines of a path round, in order. -/
def Path.rounded (path : Path) (options : OutputOptions) : List Float :=
  if options.encodes then path.scaled options else []

/-- The doubles that the polylines of a document round, in order. -/
def Outcome.rounded (outcome : Outcome) (options : OutputOptions) : List Float :=
  outcome.paths.flatMap fun path => path.rounded options

theorem fault?_pointsJson_encoded {options : OutputOptions}
    (hencoded : options.pointsEncoded = true) (points : List Point)
    (elevations : Option (List Float)) :
    fault? (pointsJson options points elevations) =
      fault? (encodePolyline points elevations options.multiplier) := by
  unfold pointsJson
  rw [hencoded, if_pos rfl]
  exact fault?_map _ _

theorem fault?_pointsJson_plain {options : OutputOptions} (hplain : options.pointsEncoded = false)
    (points : List Point) (elevations : Option (List Float)) :
    fault? (pointsJson options points elevations) = none := by
  unfold pointsJson
  rw [hplain]
  rfl

theorem broken_pointsJson (options : OutputOptions) (points : List Point)
    (elevations : Option (List Float)) :
    FailsOnly Fault.Broken (pointsJson options points elevations) := by
  unfold pointsJson
  split
  · exact failsOnly_map.mpr (broken_encodePolyline points elevations options.multiplier)
  · exact failsOnly_of_ok ⟨_, rfl⟩

/-- A geometry that cannot be written broke down. -/
theorem broken_geometryMembers (options : OutputOptions) (path : Path) :
    FailsOnly Fault.Broken (geometryMembers options path) := by
  unfold geometryMembers
  refine (broken_pointsJson options _ _).bind fun points _ => ?_
  dsimp only
  split
  · exact failsOnly_of_ok ⟨_, rfl⟩
  · exact (broken_pointsJson options _ none).bind fun snapped _ => failsOnly_of_ok ⟨_, rfl⟩

/-- The geometry of a path fails as its lines do. -/
theorem fault?_geometryMembers (options : OutputOptions) (path : Path) :
    fault? (geometryMembers options path) =
      (fault? (pointsJson options path.points (path.shownHeights options))).or
        (if path.snapped.isEmpty then none else fault? (pointsJson options path.snapped none)) := by
  unfold geometryMembers
  refine fault?_bind fun points _ => ?_
  cases path.snapped.isEmpty with
  | true => rfl
  | false => exact fault?_bind_pure _ (pointsJson options path.snapped none)

theorem fault?_geometryMembers_encoded {options : OutputOptions}
    (hencoded : options.pointsEncoded = true) (hm : ¬ options.multiplier < 1.0) (path : Path) :
    fault? (geometryMembers options path) = (path.scaled options).findSome? roundingFault? := by
  rw [fault?_geometryMembers, fault?_pointsJson_encoded hencoded, fault?_encodePolyline hm]
  unfold Path.scaled
  rw [List.findSome?_append]
  congr 1
  split
  · rename_i hnone
    rw [List.isEmpty_iff.mp hnone]
    rfl
  · rw [fault?_pointsJson_encoded hencoded, fault?_encodePolyline hm]

theorem geometryMembers_of_lt {options : OutputOptions} (hencoded : options.pointsEncoded = true)
    (hm : options.multiplier < 1.0) (path : Path) :
    fault? (geometryMembers options path) = some (.unexpected .multiplierBelowOne) := by
  rw [fault?_geometryMembers, fault?_pointsJson_encoded hencoded, encodePolyline_of_lt hm]
  rfl

theorem fault?_geometryMembers_plain {options : OutputOptions}
    (hplain : options.pointsEncoded = false) (path : Path) :
    fault? (geometryMembers options path) = none := by
  rw [fault?_geometryMembers, fault?_pointsJson_plain hplain, fault?_pointsJson_plain hplain]
  split <;> rfl

theorem exists_instructionJson {i : Instruction} (h : i.Headed) :
    ∃ json, instructionJson i = .ok json := by
  unfold instructionJson
  cases hheading : i.heading with
  | none => exact ⟨_, rfl⟩
  | some value =>
    obtain ⟨number, hnumber⟩ := h value hheading
    cases value <;> first | exact ⟨_, rfl⟩ | cases hnumber

/-- The instructions of a path can be written when its headings are numbers. -/
theorem exists_instructionMembers {path : Path} (h : path.Headed) :
    ∃ members, instructionMembers path = .ok members := by
  unfold instructionMembers
  cases hlist : path.instructions with
  | none => exact ⟨[], rfl⟩
  | some list =>
    obtain ⟨items, hitems⟩ :=
      exists_mapM.mpr fun i hi => exists_instructionJson (h list hlist i hi)
    dsimp only
    rw [hitems]
    exact ⟨_, rfl⟩

/-- The object of such a path fails as its geometry does. -/
theorem fault?_pathJson {path : Path} (h : path.Headed) (options : OutputOptions) :
    fault? (pathJson options path) =
      if options.calcPoints then fault? (geometryMembers options path) else none := by
  obtain ⟨members, hmembers⟩ := exists_instructionMembers h
  unfold pathJson
  dsimp only
  rw [hmembers]
  cases options.calcPoints with
  | false => cases options.instructions <;> rfl
  | true => cases options.instructions <;> exact fault?_bind_pure _ (geometryMembers options path)

/-- **A document fails as the first rounding does that fails**, if its polylines take
    their multiplier. -/
theorem fault?_routeJson {options : OutputOptions} (info : ResponseInfo) {outcome : Outcome}
    (h : ∀ path ∈ outcome.paths, path.Headed) (hm : ¬ options.multiplier < 1.0) :
    fault? (routeJson options info outcome) =
      (outcome.rounded options).findSome? roundingFault? := by
  unfold routeJson Outcome.rounded
  rw [fault?_bind_pure, fault?_mapM]
  refine findSome?_flatMap fun path hp => ?_
  rw [fault?_pathJson (h path hp)]
  unfold Path.rounded OutputOptions.encodes
  cases options.calcPoints with
  | false => rfl
  | true =>
    cases hencoded : options.pointsEncoded with
    | false => exact fault?_geometryMembers_plain hencoded path
    | true => exact fault?_geometryMembers_encoded hencoded hm path

/-- A document whose polylines do not take their multiplier is refused. -/
theorem fault?_routeJson_of_lt {options : OutputOptions} (info : ResponseInfo) {outcome : Outcome}
    (h : ∀ path ∈ outcome.paths, path.Headed) (hm : options.multiplier < 1.0) :
    ∀ fault ∈ fault? (routeJson options info outcome),
      fault = .unexpected .multiplierBelowOne := by
  unfold routeJson
  rw [fault?_bind_pure, fault?_mapM]
  intro fault hfault
  obtain ⟨path, hp, hfails⟩ := List.exists_of_findSome?_eq_some hfault
  rw [fault?_pathJson (h path hp)] at hfails
  split at hfails
  · cases hencoded : options.pointsEncoded with
    | false =>
      rw [fault?_geometryMembers_plain hencoded] at hfails
      cases hfails
    | true =>
      rw [geometryMembers_of_lt hencoded hm] at hfails
      exact (Option.some.inj hfails).symm
  · cases hfails

/-- A document that rounds a double that is out of range. -/
def Outcome.DocumentOverflows (outcome : Outcome) (options : OutputOptions) : Prop :=
  ¬ options.multiplier < 1.0 ∧ Overflows (outcome.rounded options)

/-- **A document fails with a value fault only, exactly when it does not overflow.** -/
theorem failsOnly_routeJson (options : OutputOptions) (info : ResponseInfo) {outcome : Outcome}
    (h : ∀ path ∈ outcome.paths, path.Headed) :
    FailsOnly (fun fault => fault.isValueFault = true) (routeJson options info outcome) ↔
      ¬ outcome.DocumentOverflows options := by
  unfold Outcome.DocumentOverflows
  rw [failsOnly_iff]
  by_cases hm : options.multiplier < 1.0
  · refine iff_of_true (fun fault hfault => ?_) (fun hover => hover.1 hm)
    rw [fault?_routeJson_of_lt info h hm fault hfault]
    rfl
  · rw [fault?_routeJson info h hm, failsOnly_rounding]
    exact ⟨fun hnot hover => hnot hover.2, fun hnot hover => hnot ⟨hm, hover⟩⟩

end Waypost
