import Waypost.Osrm.Engine
import Waypost.Proofs.Osrm.Content
import Waypost.Proofs.Osrm.Sending
import Waypost.Proofs.Request.OwnFaults
import Waypost.Proofs.Run

/-!
# Faults of reading an answer

An answer of an OSRM service may hold any values. What goes wrong while one is read is a breakdown,
but for pairs of numbers that are no points: those are refused. Reading never reports; only the
outcome that was read does.

* `broken_members`, `broken_items`, `broken_toReal` and more -- one lemma for each operation on a
  value;
* `broken_stepInstruction`, `broken_turnInstructions` -- one step, then all steps of all legs;
* `broken_pathDetails`, `failsOnly_routePath` -- details and paths;
* `failsOnly_ofAnswer` -- **reading an answer breaks down, or fails as one of its places does**;
* `own_ofAnswer` -- in either case with an own fault;
* `own_osrmRoute` -- so does asking the service.
-/

namespace Waypost

open Decimal

/-! ## 1. Values of unknown shape -/

theorem broken_members (value : Json) : FailsOnly Fault.Broken value.members := by
  cases value <;> first | exact failsOnly_of_ok ⟨_, rfl⟩ | exact failsOnly_error trivial

theorem broken_items (value : Json) : FailsOnly Fault.Broken value.items := by
  cases value <;> first | exact failsOnly_of_ok ⟨_, rfl⟩ | exact failsOnly_error trivial

theorem broken_count (value : Json) : FailsOnly Fault.Broken value.count := by
  cases value <;> first | exact failsOnly_of_ok ⟨_, rfl⟩ | exact failsOnly_error trivial

theorem broken_itemAtIndex (value : Json) (index : Nat) :
    FailsOnly Fault.Broken (value.itemAtIndex index) := by
  unfold Json.itemAtIndex
  split
  · split
    · exact failsOnly_of_ok ⟨_, rfl⟩
    · exact failsOnly_error trivial
  · split
    · exact failsOnly_of_ok ⟨_, rfl⟩
    · exact failsOnly_error trivial
  · exact failsOnly_error trivial
  · exact failsOnly_error trivial

theorem broken_toReal (value : Json) : FailsOnly Fault.Broken value.toReal := by
  unfold Json.toReal
  split
  · exact failsOnly_of_ok ⟨_, rfl⟩
  · exact broken_floatOfInt _
  · exact failsOnly_of_ok ⟨_, rfl⟩
  · split
    · exact failsOnly_of_ok ⟨_, rfl⟩
    · exact failsOnly_error trivial
  · exact failsOnly_error trivial

theorem broken_millisOf (seconds : Json) : FailsOnly Fault.Broken (millisOf seconds) :=
  (broken_toReal seconds).bind fun _ _ => broken_wholeNumber _

/-! ## 2. Instructions -/

theorem broken_mentionsLeft (modifier : Json) : FailsOnly Fault.Broken (mentionsLeft modifier) := by
  cases modifier <;> first | exact failsOnly_of_ok ⟨_, rfl⟩ | exact failsOnly_error trivial

theorem broken_modifierSign (modifier : Json) : FailsOnly Fault.Broken (modifierSign modifier) := by
  cases modifier <;> first | exact failsOnly_of_ok ⟨_, rfl⟩ | exact failsOnly_error trivial

theorem broken_stepSign (maneuver : Members) (isLastLeg : Bool) :
    FailsOnly Fault.Broken (stepSign maneuver isLastLeg) := by
  unfold stepSign
  dsimp only
  split
  · exact failsOnly_of_ok ⟨_, rfl⟩
  · split
    · exact failsOnly_of_ok ⟨_, rfl⟩
    · split
      · exact failsOnly_of_ok ⟨_, rfl⟩
      · split
        · exact (broken_mentionsLeft _).bind fun _ _ => failsOnly_of_ok ⟨_, rfl⟩
        · exact broken_modifierSign _

theorem broken_stepSegments (step : Members) : FailsOnly Fault.Broken (stepSegments step) :=
  (broken_members _).bind fun _ _ => (broken_count _).bind fun _ _ => failsOnly_of_ok ⟨_, rfl⟩

theorem broken_toldBehind (words : String) (value : Json) :
    FailsOnly Fault.Broken (toldBehind words value) := by
  unfold toldBehind
  split
  · exact (broken_writtenText _).bind fun _ _ => failsOnly_of_ok ⟨_, rfl⟩
  · exact failsOnly_of_ok ⟨_, rfl⟩

theorem broken_stepText (step maneuver : Members) (sign : Int) (legIndex : Nat) :
    FailsOnly Fault.Broken (stepText step maneuver sign legIndex) := by
  unfold stepText
  refine (broken_toldBehind _ _).bind fun onto _ => ?_
  repeat' split
  all_goals first
    | exact failsOnly_of_ok ⟨_, rfl⟩
    | exact (broken_toldBehind _ _).bind fun _ _ => failsOnly_of_ok ⟨_, rfl⟩

/-- One step. -/
theorem broken_stepInstruction (lastIndex legIndex : Nat) (isLastLeg : Bool) (pointer : Nat)
    (step : Json) :
    FailsOnly Fault.Broken (stepInstruction lastIndex legIndex isLastLeg pointer step) := by
  unfold stepInstruction
  refine (broken_members step).bind fun members _ => ?_
  refine (broken_members _).bind fun maneuver _ => ?_
  refine (broken_stepSign maneuver isLastLeg).bind fun sign _ => ?_
  dsimp only
  split
  · refine (broken_stepText _ _ _ _).bind fun text _ => ?_
    refine (broken_toReal _).bind fun distance _ => (broken_millisOf _).bind fun time _ => ?_
    exact failsOnly_of_ok ⟨_, rfl⟩
  · refine (broken_stepSegments members).bind fun length _ => ?_
    refine (broken_stepText _ _ _ _).bind fun text _ => ?_
    refine (broken_toReal _).bind fun distance _ => (broken_millisOf _).bind fun time _ => ?_
    exact failsOnly_of_ok ⟨_, rfl⟩

/-- The steps of one leg, one after another. -/
theorem broken_legInstructions (lastIndex legIndex : Nat) (isLastLeg : Bool) (pointer : Nat)
    (steps : List Json) :
    FailsOnly Fault.Broken (legInstructions lastIndex legIndex isLastLeg pointer steps) := by
  induction steps generalizing pointer with
  | nil => exact failsOnly_of_ok ⟨_, rfl⟩
  | cons step rest ih =>
    unfold legInstructions
    refine (broken_stepInstruction _ _ _ _ step).bind fun pair _ => ?_
    exact (ih _).bind fun _ _ => failsOnly_of_ok ⟨_, rfl⟩

theorem broken_instructionsFrom (lastIndex legIndex pointer : Nat) (legs : List Json) :
    FailsOnly Fault.Broken (instructionsFrom lastIndex legIndex pointer legs) := by
  induction legs generalizing legIndex pointer with
  | nil => exact failsOnly_of_ok ⟨_, rfl⟩
  | cons leg rest ih =>
    unfold instructionsFrom
    refine (broken_members leg).bind fun members _ => (broken_items _).bind fun steps _ => ?_
    refine (broken_legInstructions _ _ _ _ steps).bind fun pair _ => ?_
    exact (ih _ _).bind fun _ _ => failsOnly_of_ok ⟨_, rfl⟩

theorem broken_turnInstructions (legs : Json) (pointCount : Nat) :
    FailsOnly Fault.Broken (turnInstructions legs pointCount) :=
  (broken_items legs).bind fun _ _ => broken_instructionsFrom _ _ _ _

/-! ## 3. Details -/

theorem broken_addLeg (series : AnnotationSeries) (leg : Json) :
    FailsOnly Fault.Broken (series.addLeg leg) :=
  (broken_members leg).bind fun _ _ => (broken_members _).bind fun _ _ =>
    (broken_items _).bind fun _ _ => (broken_items _).bind fun _ _ =>
      (broken_items _).bind fun _ _ => failsOnly_of_ok ⟨_, rfl⟩

theorem broken_roundDistance (value : Json) : FailsOnly Fault.Broken (roundDistance value) := by
  cases value <;> first | exact failsOnly_of_ok ⟨_, rfl⟩ | exact failsOnly_error trivial

theorem broken_roundMillis (value : Json) : FailsOnly Fault.Broken (roundMillis value) := by
  cases value with
  | float x => exact failsOnly_map.mpr (broken_wholeNumber _)
  | bool | int => exact failsOnly_of_ok ⟨_, rfl⟩
  | null | str | arr | obj => exact failsOnly_error trivial

theorem broken_roundSpeed (value : Json) : FailsOnly Fault.Broken (roundSpeed value) := by
  cases value with
  | int n => exact (broken_floatOfInt n).bind fun _ _ => failsOnly_of_ok ⟨_, rfl⟩
  | bool | float => exact failsOnly_of_ok ⟨_, rfl⟩
  | null | str | arr | obj => exact failsOnly_error trivial

theorem broken_pathDetails (legs : Json) (names : List String) :
    FailsOnly Fault.Broken (pathDetails legs names) := by
  unfold pathDetails
  split
  · exact failsOnly_of_ok ⟨_, rfl⟩
  · refine (broken_items legs).bind fun items _ => ?_
    refine (FailsOnly.foldlM fun series leg _ => broken_addLeg series leg).bind fun series _ => ?_
    refine (FailsOnly.mapM fun value _ => broken_roundDistance value).bind fun distances _ => ?_
    refine (FailsOnly.mapM fun value _ => broken_roundMillis value).bind fun times _ => ?_
    refine (FailsOnly.mapM fun value _ => broken_roundSpeed value).bind fun speeds _ => ?_
    refine FailsOnly.mapM fun name _ => ?_
    split
    · exact failsOnly_of_ok ⟨_, rfl⟩
    · exact failsOnly_error trivial

/-! ## 4. Answers -/

theorem own_coordinatePoint (pair : Json) : FailsOnly Fault.Own (coordinatePoint pair) :=
  (broken_itemAtIndex pair 1).own.bind fun lat _ =>
    (broken_itemAtIndex pair 0).own.bind fun lon _ => own_pointOf lat lon

/-- A text is no pair, and its characters are no numbers. -/
theorem broken_coordinatePoint_text (s : String) :
    FailsOnly Fault.Broken (coordinatePoint (.str s)) := by
  refine (broken_itemAtIndex _ 1).bind fun lat hlat => (broken_itemAtIndex _ 0).bind fun lon _ => ?_
  unfold Json.itemAtIndex at hlat
  dsimp only at hlat
  split at hlat
  · cases hlat
    exact failsOnly_error trivial
  · cases hlat

theorem broken_coordinateIndex (message : String) :
    FailsOnly Fault.Broken (coordinateIndex message) := by
  unfold coordinateIndex
  split
  · exact failsOnly_of_ok ⟨_, rfl⟩
  · split
    · exact failsOnly_of_ok ⟨_, rfl⟩
    · exact failsOnly_error trivial

theorem broken_pointNotFound (message : Json) : FailsOnly Fault.Broken (pointNotFound message) := by
  unfold pointNotFound
  split
  · exact (broken_coordinateIndex _).bind fun _ _ => failsOnly_of_ok ⟨_, rfl⟩
  · exact failsOnly_error trivial

theorem broken_answerFault (code message : Json) :
    FailsOnly Fault.Broken (answerFault code message) := by
  unfold answerFault
  split
  · exact broken_pointNotFound message
  · exact (broken_writtenText _).bind fun _ _ => failsOnly_of_ok ⟨_, rfl⟩
  · split <;> exact failsOnly_of_ok ⟨_, rfl⟩
  · exact failsOnly_error trivial
  · exact failsOnly_error trivial
  · exact failsOnly_of_ok ⟨_, rfl⟩

section Places

variable {P : Fault → Prop} (hbroken : ∀ fault, fault.Broken → P fault)
include hbroken

theorem failsOnly_snappedPoints {waypoints : Json}
    (hplaces : ∀ waypoint ∈ waypoints.listed, (waypoint.member "location").truthy = true →
      FailsOnly P (coordinatePoint (waypoint.member "location"))) :
    FailsOnly P (snappedPoints waypoints) := by
  unfold snappedPoints
  refine ((broken_items waypoints).mono hbroken).bind fun items hitems => ?_
  refine FailsOnly.filterMapM fun waypoint hmem => ?_
  refine ((broken_members waypoint).mono hbroken).bind fun members hmembers => ?_
  obtain rfl := Json.members_eq_ok.mp hmembers
  rcases Json.items_cases hitems with rfl | htexts
  · have hplace := hplaces _ hmem
    rw [Json.member_obj] at hplace
    dsimp only
    split
    · rename_i htruthy
      exact (hplace htruthy).bind fun _ _ => failsOnly_of_ok ⟨_, rfl⟩
    · exact failsOnly_of_ok ⟨_, rfl⟩
  · obtain ⟨s, hs⟩ := htexts _ hmem
    cases hs

/-- **Reading a route breaks down, or fails as one of its coordinate pairs does.** -/
theorem failsOnly_routePath {r : Request} {snapped : List Point} {route : Json}
    (hplaces : ∀ pair ∈ route.coordinates, FailsOnly P (coordinatePoint pair)) :
    FailsOnly P (routePath r snapped route) := by
  have hrest : ∀ (members : Members) (points : List Point)
      (instructions : Option (List Instruction)), FailsOnly Fault.Broken (do
        let duration := members.getD "duration" (.float 0.0)
        return ({
          distance := ← (members.getD "distance" (.float 0.0)).toReal
          time := ← millisOf duration
          weight := ← (members.getD "weight" duration).toReal
          points, instructions
          details := ← pathDetails ((members.getD "legs" .null).orElse (.arr [])) r.pathDetails
          snapped } : Path)) := by
    intro members points instructions
    refine (broken_toReal _).bind fun distance _ => (broken_millisOf _).bind fun time _ => ?_
    refine (broken_toReal _).bind fun weight _ => (broken_pathDetails _ _).bind fun details _ => ?_
    exact failsOnly_of_ok ⟨_, rfl⟩
  unfold routePath
  refine ((broken_members route).mono hbroken).bind fun members hmembers => ?_
  obtain rfl := Json.members_eq_ok.mp hmembers
  refine ((broken_members _).mono hbroken).bind fun geometry hgeometry => ?_
  refine ((broken_items _).mono hbroken).bind fun coordinates hcoordinates => ?_
  have hpairs : ∀ pair ∈ coordinates, FailsOnly P (coordinatePoint pair) := by
    intro pair hmem
    rcases Json.items_cases hcoordinates with rfl | htexts
    · rw [Json.coordinates_of_geometry hgeometry] at hmem
      exact hplaces pair hmem
    · obtain ⟨s, rfl⟩ := htexts pair hmem
      exact (broken_coordinatePoint_text s).mono hbroken
  refine (FailsOnly.mapM hpairs).bind fun points _ => ?_
  dsimp only
  split
  · refine FailsOnly.bind ((failsOnly_map.mpr (broken_turnInstructions _ _)).mono hbroken)
      fun instructions _ => ?_
    exact (hrest members points instructions).mono hbroken
  · exact (hrest members points none).mono hbroken

/-- **Reading an answer breaks down, or fails as one of its places does.** -/
theorem failsOnly_ofAnswer {answer : Json} {r : Request}
    (hplaces : ∀ pair ∈ answer.places, FailsOnly P (coordinatePoint pair)) :
    FailsOnly P (Outcome.ofAnswer answer r) := by
  unfold Outcome.ofAnswer
  refine ((broken_members answer).mono hbroken).bind fun members hmembers => ?_
  obtain rfl := Json.members_eq_ok.mp hmembers
  dsimp only
  split
  · exact ((broken_answerFault _ _).mono hbroken).bind fun _ _ => failsOnly_of_ok ⟨_, rfl⟩
  · split
    · exact failsOnly_of_ok ⟨_, rfl⟩
    · have hlocations : ∀ waypoint ∈ (Members.getD members "waypoints" (.arr [])).listed,
          (waypoint.member "location").truthy = true →
            FailsOnly P (coordinatePoint (waypoint.member "location")) := by
        intro waypoint hmem htruthy
        rw [Json.listed_getD] at hmem
        exact hplaces _ (List.mem_append_left _
          (List.mem_filter.mpr ⟨List.mem_map.mpr ⟨waypoint, hmem, rfl⟩, htruthy⟩))
      refine (failsOnly_snappedPoints hbroken hlocations).bind fun snapped _ => ?_
      refine ((broken_items _).mono hbroken).bind fun routes hroutes => ?_
      have hpaths : ∀ route ∈ routes, FailsOnly P (routePath r snapped route) := by
        intro route hmem
        refine failsOnly_routePath hbroken fun pair hpair => ?_
        rcases Json.items_cases hroutes with rfl | htexts
        · exact hplaces pair (List.mem_append_right _ (List.mem_flatMap.mpr ⟨route, hmem, hpair⟩))
        · obtain ⟨s, rfl⟩ := htexts route hmem
          cases hpair
      exact (FailsOnly.mapM hpaths).bind fun paths _ => failsOnly_of_ok ⟨_, rfl⟩

end Places

/-- **Reading an answer fails with own faults only.** -/
theorem own_ofAnswer (answer : Json) (r : Request) :
    FailsOnly Fault.Own (Outcome.ofAnswer answer r) :=
  failsOnly_ofAnswer (fun _ => Fault.Broken.own) fun pair _ => own_coordinatePoint pair

/-! ## 5. Calls -/

theorem broken_mapError {ε α : Type} (wording : ε → Breakdown) (x : Except ε α) :
    FailsOnly Fault.Broken (x.mapError fun why => .unexpected (wording why)) := by
  cases x with
  | ok a => exact failsOnly_of_ok ⟨a, rfl⟩
  | error why => exact failsOnly_error trivial

theorem broken_callOf (url : String) (params : List (String × String)) :
    FailsOnly Fault.Broken (Call.of url params) :=
  (broken_mapError .address _).bind fun _ _ => (broken_mapError .hostName _).bind fun _ _ =>
    failsOnly_of_ok ⟨_, rfl⟩

theorem broken_routeParams (r : Request) : FailsOnly Fault.Broken (routeParams r) :=
  fun _ h => (routeParams_eq_error.mp h).broken

theorem broken_routeCall (config : OsrmConfig) (r : Request) :
    FailsOnly Fault.Broken (routeCall config r) :=
  (broken_routeParams r).bind fun _ _ => broken_callOf _ _

theorem broken_exchange (transport : Transport) (call : Call) :
    FailsOnly Fault.Broken (exchange transport call).result := by
  unfold exchange
  rw [Run.bind_of_ok rfl]
  dsimp only
  split
  · exact failsOnly_of_ok ⟨_, rfl⟩
  · exact failsOnly_of_ok ⟨_, rfl⟩
  · exact failsOnly_error trivial

theorem own_outcomeOfAnswer (r : Request) (call : Call) (answer : Answer) :
    FailsOnly Fault.Own (outcomeOfAnswer r call answer).result := by
  unfold outcomeOfAnswer
  split
  · exact own_ofAnswer _ r
  · exact failsOnly_error trivial
  · split
    · exact failsOnly_of_ok ⟨_, rfl⟩
    · exact failsOnly_of_ok ⟨_, rfl⟩

/-- **Asking the service fails with own faults only.** -/
theorem own_osrmRoute (config : OsrmConfig) (transport : Transport) (r : Request) :
    FailsOnly Fault.Own (osrmRoute config transport r).result := by
  unfold osrmRoute
  dsimp only
  split
  · exact failsOnly_of_ok ⟨_, rfl⟩
  · rw [Run.result_bind]
    refine (broken_routeCall config r).own.bind fun call _ => ?_
    rw [Run.result_bind]
    refine (broken_exchange transport call).own.bind fun reply _ => ?_
    cases reply with
    | ok answer => exact own_outcomeOfAnswer r call answer
    | error reason => exact failsOnly_of_ok ⟨_, rfl⟩

end Waypost
