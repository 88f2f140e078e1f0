import Waypost.Proofs.Request.ChosenProfile
import Waypost.Proofs.Request.WellBuilt
import Waypost.Proofs.Service.HandOver

/-!
# What passes the gate in front of an engine

* `Request.Admissible` -- a well built request with a configured profile and without the hints that
  no engine may see;
* `Service.Guarded` -- what may be handed over for a request that was built or not;
* `output_of_run` -- what a body asks to see passes the gate unchanged;
* `admissible_of_prepare` -- preparing a well built request leads to an admissible one, or fails;
* `engine_gate` -- **all that is ever handed to an engine is admissible, each request once**, and
  nothing is handed over where a request cannot be built or prepared.
-/

namespace Waypost

open Text

/-- What an engine may rely on, given the names of the configured profiles. -/
structure Request.Admissible (names : List String) (r : Request) : Prop extends r.WellBuilt where
  profile : r.profile ∈ names
  legacy : ∀ key, normalizeKey key ∈ Key.legacy → r.hints.has key = false

/-! ## 1. Preparing -/

/-- The switches of the output are none of the keys that are dropped. -/
theorem hasSwitches_removeLegacy {h : Hints} (hs : h.HasSwitches) : h.removeLegacy.HasSwitches where
  calcPoints := by
    rw [Hints.has_removeLegacy, hs.calcPoints]
    decide
  instructions := by
    rw [Hints.has_removeLegacy, hs.instructions]
    decide
  wayPointMaxDistance := by
    rw [Hints.has_removeLegacy, hs.wayPointMaxDistance]
    decide

/-- The hints that no engine may see do not matter for what is shown. -/
theorem output_removeLegacy (h : Hints) : h.removeLegacy.output = h.output := by
  have hget : ∀ key ∈ [Key.instructions, Key.calcPoints, Key.elevation, Key.pointsEncoded,
      Key.pointsEncodedMultiplier], h.removeLegacy.get? key = h.get? key := by
    have hkeys : ∀ key ∈ [Key.instructions, Key.calcPoints, Key.elevation, Key.pointsEncoded,
        Key.pointsEncodedMultiplier], normalizeKey key ∉ Key.legacy := by decide
    exact fun key hkey => Hints.get?_removeLegacy (hkeys key hkey) h
  simp only [List.forall_mem_cons] at hget
  obtain ⟨hinstructions, hcalcPoints, helevation, hencoded, hmultiplier, -⟩ := hget
  unfold Hints.output Hints.flag? Hints.float?
  rw [hinstructions, hcalcPoints, helevation, hencoded, hmultiplier]

namespace Service

theorem resolved_of_prepare {service : Service} (hkeep : service.transformer = keepRequest)
    {r prepared : Request} (h : service.prepare r = (prepared, none)) :
    ∃ resolved, resolveProfile service.resolver r = .ok resolved ∧
      prepared = { resolved with hints := resolved.hints.removeLegacy } := by
  unfold prepare at h
  rw [hkeep] at h
  dsimp only [keepRequest] at h
  cases hr : resolveProfile service.resolver r with
  | error fault =>
    rw [hr] at h
    cases h
  | ok resolved =>
    rw [hr] at h
    cases h
    exact ⟨resolved, rfl, rfl⟩

/-- What a body asks to see is what the hints of its request ask to see. -/
theorem output_of_run {service : Service} (hkeep : service.transformer = keepRequest)
    {body : RouteBody} {attempted : Attempted}
    (ha : (service.run (Request.ofBody service.options body)).result = .ok attempted)
    (hf : attempted.outcome.faults = []) : ∃ hints, Hints.ofBody body.extra = .ok hints ∧
      ((attempted.request.map (·.hints)).getD Hints.empty).output = hints.output := by
  obtain ⟨r, prepared, hbuilt, hp, hrequest⟩ := prepared_of_run ha hf
  unfold Request.ofBody at hbuilt
  obtain ⟨hints, hhints, hbuilt⟩ := bind_eq_ok.mp hbuilt
  obtain ⟨_, _, hbuilt⟩ := bind_eq_ok.mp hbuilt
  obtain ⟨rfl, -⟩ := validate_eq_ok.mp hbuilt
  obtain ⟨resolved, hr, rfl⟩ := resolved_of_prepare hkeep hp
  obtain ⟨name, -, rfl⟩ := resolveProfile_eq_ok hr
  refine ⟨hints, hhints, ?_⟩
  rw [hrequest]
  refine (output_removeLegacy _).trans ?_
  split <;> rfl

theorem wellBuilt_builtLeg {service : Service} {bulk : BulkRequest} {q : BulkQuery} {raw : Grouped}
    {destination : Destination} {r : Request}
    (h : service.builtLeg bulk q raw destination = .ok r) : r.WellBuilt := by
  unfold builtLeg at h
  obtain ⟨origin, _, h⟩ := bind_eq_ok.mp h
  obtain ⟨hints, hs, h⟩ := bind_eq_ok.mp h
  have hswitches : (service.legOptions q hints).hints.HasSwitches := hasSwitches_shared hs
  exact wellBuilt_ofLeg hswitches h

/-! ## 2. Handing over -/

/-- Whether building or preparing a request fails. -/
def Fails (service : Service) (built : Except Fault Request) : Prop :=
  (∃ fault, built = .error fault) ∨
    ∃ r changed fault, built = .ok r ∧ service.prepare r = (changed, some fault)

/-- What is handed over for a request: one admissible request, and none exactly where building or
    preparing fails. -/
structure Guarded (service : Service) (names : List String) (built : Except Fault Request)
    (handed : List Request) : Prop where
  once : handed.length ≤ 1
  admissible : ∀ r ∈ handed, r.Admissible names
  silent : handed = [] ↔ service.Fails built

theorem ready_eq_none {service : Service} {built : Except Fault Request} :
    service.ready built = none ↔ service.Fails built := by
  constructor
  · intro h
    cases built with
    | error fault => exact Or.inl ⟨fault, rfl⟩
    | ok r =>
      rcases hp : service.prepare r with ⟨changed, _ | fault⟩
      · rw [ready_of_prepared hp] at h
        cases h
      · exact Or.inr ⟨r, changed, fault, rfl, hp⟩
  · rintro (⟨fault, rfl⟩ | ⟨r, changed, fault, rfl, hp⟩)
    · rfl
    · exact ready_of_stopped hp

/-! ## 3. Configured profiles -/

section Configured

variable {names : List String} (hblank : ∀ name ∈ names, strip name ≠ "") {service : Service}
  (hkeep : service.transformer = keepRequest)
  (hresolver : service.resolver = configuredProfiles names)
include hblank hkeep hresolver

theorem admissible_of_prepare {r prepared : Request} (hb : r.WellBuilt)
    (h : service.prepare r = (prepared, none)) : prepared.Admissible names := by
  obtain ⟨resolved, hr, rfl⟩ := resolved_of_prepare hkeep h
  rw [hresolver] at hr
  obtain ⟨name, hmem, rfl⟩ := resolveProfile_configured hblank hr
  refine ⟨⟨⟨hb.valid.points, hb.valid.headings, hb.valid.pointHints, hb.valid.curbsides⟩,
    hb.snapPreventions, hasSwitches_removeLegacy hb.switches⟩, hmem, fun key hkey => ?_⟩
  rw [Hints.has_removeLegacy, List.contains_iff_mem.mpr hkey]
  rfl

/-- What is ready is admissible when everything that is built is well built. -/
theorem admissible_of_ready {built : Except Fault Request} (hb : ∀ r, built = .ok r → r.WellBuilt)
    {r : Request} (h : r ∈ service.ready built) : r.Admissible names := by
  obtain ⟨source, hs, hp⟩ := ready_eq_some h
  exact admissible_of_prepare hblank hkeep hresolver (hb source hs) hp

theorem guarded_ready {built : Except Fault Request} (hb : ∀ r, built = .ok r → r.WellBuilt) :
    service.Guarded names built (service.ready built).toList where
  once := by
    cases service.ready built with
    | none => exact Nat.zero_le 1
    | some r => exact Nat.le_refl 1
  admissible r hr := by
    rw [Option.mem_toList] at hr
    exact admissible_of_ready hblank hkeep hresolver hb hr
  silent := by
    rw [Option.toList_eq_nil_iff, ready_eq_none]

/-- **The engine gate.** With configured profiles that are not blank, whatever the engine answers:
    a query and a body hand over one admissible request, and none exactly where building or
    preparing it fails; a batch does the same for each of its destinations, in some order. -/
theorem engine_gate (hfair : service.schedule.Fair) :
    (∀ q raw caller clock, service.Guarded names (Request.ofQuery service.options q raw)
      (service.routeQuery q raw caller clock).handed) ∧
    (∀ body caller clock, service.Guarded names (Request.ofBody service.options body)
      (service.routeBody body caller clock).handed) ∧
    ∀ bulk q raw clock, ∃ asked : Destination → List Request,
      (service.routeBulk bulk q raw clock).handed.Perm (bulk.destinations.flatMap asked) ∧
        ∀ d, service.Guarded names (service.builtLeg bulk q raw d) (asked d) := by
  refine ⟨fun q raw caller clock => ?_, fun body caller clock => ?_, fun bulk q raw clock => ?_⟩
  · rw [handed_routeQuery]
    exact guarded_ready hblank hkeep hresolver fun r => wellBuilt_ofQuery
  · rw [handed_routeBody]
    exact guarded_ready hblank hkeep hresolver fun r => wellBuilt_ofBody
  · refine ⟨fun d => (service.ready (service.builtLeg bulk q raw d)).toList, ?_, fun d => ?_⟩
    · refine (handed_routeBulk service hfair bulk q raw clock).trans (List.Perm.of_eq ?_)
      exact List.filterMap_eq_flatMap_toList _ _
    · exact guarded_ready hblank hkeep hresolver fun r => wellBuilt_builtLeg

end Configured

/-- A service of two profiles, over an engine that answers everything with nothing. -/
def carAndBike : Service where
  engine := { threadSafe := true, properties := pure [], route := fun _ => pure {} }
  resolver := configuredProfiles ["car", "bike"]
  settings := {}

/-- A query that chooses its profile by hints no engine may see. -/
def bikeQuery : RouteQuery := { points := ["52.5,13.4", "52.4,13.3"], headings := [90.0, 180.0] }

def bikeRaw : Grouped :=
  [("point", ["52.5,13.4", "52.4,13.3"]), ("Vehicle", ["bike"]), ("edgeBased", ["true"])]

theorem engine_gate_carAndBike :
    (∀ name ∈ ["car", "bike"], strip name ≠ "") ∧ carAndBike.transformer = keepRequest ∧
      carAndBike.resolver = configuredProfiles ["car", "bike"] ∧ carAndBike.schedule.Fair ∧
      ∃ r, (carAndBike.routeQuery bikeQuery bikeRaw {} {}).handed = [r] ∧
        r.Admissible ["car", "bike"] ∧ r.hints.has "edgeBased" = false := by
  have hblank : ∀ name ∈ ["car", "bike"], strip name ≠ "" := by decide +kernel
  have hkeep : carAndBike.transformer = keepRequest := rfl
  have hresolver : carAndBike.resolver = configuredProfiles ["car", "bike"] := by
    simp only [carAndBike]
  have hfair : carAndBike.schedule.Fair := fun n => List.Perm.refl (List.range n)
  obtain ⟨hquery, -, -⟩ := engine_gate hblank hkeep hresolver hfair
  have hg := hquery bikeQuery bikeRaw {} {}
  have hone : (carAndBike.routeQuery bikeQuery bikeRaw {} {}).handed.length = 1 := by
    rw [handed_routeQuery]
    decide +kernel
  obtain ⟨r, hr⟩ := List.length_eq_one_iff.mp hone
  have ha : r.Admissible ["car", "bike"] := by
    refine hg.admissible r ?_
    rw [hr]
    exact List.mem_singleton_self r
  have hkey : normalizeKey "edgeBased" ∈ Key.legacy := by decide +kernel
  exact ⟨hblank, hkeep, hresolver, hfair, r, hr, ha, ha.legacy _ hkey⟩

end Service

end Waypost
