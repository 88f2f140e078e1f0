import Waypost.Proofs.Schema.Parameters
import Waypost.Proofs.Service.Answer
import Waypost.Proofs.Service.Gate

/-!
# Elevation on a server without elevation data

A request asks for elevation when its hints say so. The three sources of a request look for that in
different places: a query looks at its switch alone, a body at its hints, a batch nowhere.

* `Hints.AsksElevation`, `Grouped.AsksElevation` -- hints, and a query string, that ask for it;
* `asks_of_ready` -- preparing a request changes nothing about that;
* `Run.Refuses` -- a run that hands nothing over and answers with a refusal;
* `elevation_gate` -- **what asks for elevation and reaches an engine nevertheless**: nothing from a
  body, from a query what asks under another spelling than that of the switch, and from a batch
  whatever asks.
-/

namespace Waypost

/-- Hints that ask for elevation. -/
def Hints.AsksElevation (h : Hints) : Prop := (h.flag? Key.elevation).getD false = true

/-- A query string whose last spelling of the key, among those that were sent once, asks for
    elevation. -/
def Grouped.AsksElevation (raw : Grouped) : Prop :=
  ∃ sent, (raw.sentOnce Key.elevation).getLast? = some sent ∧
    HintValue.flagOfText? sent.2 = some true

/-- The same under another spelling than that of the typed switch. -/
def Grouped.AsksElevationAside (raw : Grouped) : Prop :=
  ∃ sent, (raw.sentOnce Key.elevation).getLast? = some sent ∧ sent.1 ≠ Key.elevation ∧
    HintValue.flagOfText? sent.2 = some true

/-- A run that hands nothing over and answers with the document of a refusal. -/
structure Run.Refuses (run : Run Response) (reason : Refusal) (outputType : Option String)
    (creator : String) : Prop where
  silent : run.handed = []
  answer : ∃ response, run.result = .ok response ∧ response.status = 400 ∧
    errorResponse [.refused reason] outputType creator = .ok response

/-! ## 1. Hints -/

theorem asks_congr {h other : Hints} (he : h.get? Key.elevation = other.get? Key.elevation) :
    h.AsksElevation ↔ other.AsksElevation := by
  unfold Hints.AsksElevation
  rw [Hints.flag?_eq, Hints.flag?_eq, he]

theorem asks_removeLegacy (h : Hints) : h.removeLegacy.AsksElevation ↔ h.AsksElevation := by
  have hkey : normalizeKey Key.elevation ∉ Key.legacy := by decide +kernel
  exact asks_congr (Hints.get?_removeLegacy hkey h)

/-- The switches of the output do not touch elevation. -/
theorem asks_set (h : Hints) (calcPoints instructions distance : HintValue) :
    (((h.set Key.calcPoints calcPoints).set Key.instructions instructions).set
      Key.wayPointMaxDistance distance).AsksElevation ↔ h.AsksElevation := by
  have hkeys : normalizeKey Key.elevation ≠ normalizeKey Key.calcPoints ∧
      normalizeKey Key.elevation ≠ normalizeKey Key.instructions ∧
        normalizeKey Key.elevation ≠ normalizeKey Key.wayPointMaxDistance := by decide +kernel
  obtain ⟨hcalc, hinstructions, hdistance⟩ := hkeys
  refine asks_congr ?_
  rw [Hints.get?_set_of_ne _ hdistance, Hints.get?_set_of_ne _ hinstructions,
    Hints.get?_set_of_ne _ hcalc]

theorem asks_switches (q : RouteQuery) (h : Hints) :
    (q.switches h).AsksElevation ↔ h.AsksElevation := by
  have hkey : normalizeKey Key.elevation ≠ normalizeKey Key.elevationWayPointMaxDistance := by
    decide +kernel
  unfold RouteQuery.switches
  rw [asks_set]
  cases q.elevationWayPointMaxDistance with
  | none => exact Iff.rfl
  | some d => exact asks_congr (Hints.get?_set_of_ne h hkey _)

/-- The hints of a query string ask for elevation when the query string does. -/
theorem asks_of_ofQuery {raw : Grouped} {hints : Hints}
    (hq : Hints.ofQuery raw Key.structural = .ok hints) :
    hints.AsksElevation ↔ raw.AsksElevation := by
  have hkey : normalizeKey Key.elevation ∉ Key.structural.map normalizeKey := by decide +kernel
  unfold Hints.AsksElevation Grouped.AsksElevation
  rw [flag?_ofQuery hq hkey]
  cases (raw.sentOnce Key.elevation).getLast? with
  | none =>
    refine iff_of_false Bool.false_ne_true ?_
    rintro ⟨_, h, _⟩
    cases h
  | some sent =>
    rw [Option.bind_some]
    constructor
    · intro h
      refine ⟨sent, rfl, ?_⟩
      cases hflag : HintValue.flagOfText? sent.2 with
      | none =>
        rw [hflag] at h
        cases h
      | some b =>
        rw [hflag] at h
        exact congrArg some h
    · rintro ⟨_, h, hflag⟩
      cases h
      rw [hflag]
      rfl

/-! ## 2. Requests -/

section Sources

variable {options : ServerOptions} (hno : options.hasElevation = false)
include hno

theorem ensureElevation_eq_ok {requested : Bool} :
    ensureElevation requested options.hasElevation = .ok () ↔ requested = false := by
  rw [hno]
  cases requested with
  | true => exact iff_of_false (by rintro ⟨⟩) Bool.noConfusion
  | false => exact iff_of_true rfl rfl

theorem ensureElevation_true :
    ensureElevation true options.hasElevation = .error (.refused .elevationUnsupported) := by
  rw [hno]
  rfl

theorem asks_ofQuery {q : RouteQuery} {raw : Grouped} {r : Request}
    (h : Request.ofQuery options q raw = .ok r) :
    q.elevation = false ∧ (r.hints.AsksElevation ↔ raw.AsksElevation) := by
  unfold Request.ofQuery at h
  obtain ⟨_, hoff, h⟩ := bind_eq_ok.mp h
  obtain ⟨hints, hq, h⟩ := bind_eq_ok.mp h
  obtain ⟨points, _, h⟩ := bind_eq_ok.mp h
  obtain ⟨rfl, -⟩ := validate_eq_ok.mp h
  exact ⟨(ensureElevation_eq_ok hno).mp hoff, (asks_switches q hints).trans (asks_of_ofQuery hq)⟩

theorem asks_ofBody {body : RouteBody} {r : Request} (h : Request.ofBody options body = .ok r) :
    ¬ r.hints.AsksElevation := by
  unfold Request.ofBody at h
  obtain ⟨hints, _, h⟩ := bind_eq_ok.mp h
  obtain ⟨_, hoff, h⟩ := bind_eq_ok.mp h
  obtain ⟨rfl, -⟩ := validate_eq_ok.mp h
  exact Bool.eq_false_iff.mp ((ensureElevation_eq_ok hno).mp hoff)

theorem ofQuery_of_switch {q : RouteQuery} (hon : q.elevation = true) (raw : Grouped) :
    Request.ofQuery options q raw = .error (.refused .elevationUnsupported) := by
  unfold Request.ofQuery
  rw [hon, ensureElevation_true hno, error_bind]

theorem ofBody_of_asks {body : RouteBody} {hints : Hints} (hb : Hints.ofBody body.extra = .ok hints)
    (hasks : hints.AsksElevation) :
    Request.ofBody options body = .error (.refused .elevationUnsupported) := by
  have hon : (hints.flag? Key.elevation).getD false = true := hasks
  unfold Request.ofBody
  rw [hb, ok_bind, hon, ensureElevation_true hno, error_bind]

end Sources

namespace Service

theorem asks_builtLeg {service : Service} {bulk : BulkRequest} {q : BulkQuery} {raw : Grouped}
    {destination : Destination} {r : Request}
    (h : service.builtLeg bulk q raw destination = .ok r) :
    r.hints.AsksElevation ↔ raw.AsksElevation := by
  unfold builtLeg at h
  obtain ⟨origin, _, h⟩ := bind_eq_ok.mp h
  obtain ⟨shared, hs, h⟩ := bind_eq_ok.mp h
  obtain ⟨rfl, -⟩ := validate_eq_ok.mp h
  unfold Hints.shared at hs
  obtain ⟨hints, hq, hs⟩ := bind_eq_ok.mp hs
  cases hs
  exact (asks_set _ _ _ _).trans (asks_of_ofQuery hq)

/-- A request that is ready asks for elevation when it asked for it as it was built. -/
theorem asks_of_ready {service : Service} (hkeep : service.transformer = keepRequest)
    {built : Except Fault Request} {r : Request} (h : service.ready built = some r) :
    ∃ source, built = .ok source ∧ (r.hints.AsksElevation ↔ source.hints.AsksElevation) := by
  obtain ⟨source, hs, hp⟩ := ready_eq_some h
  obtain ⟨resolved, hr, rfl⟩ := resolved_of_prepare hkeep hp
  obtain ⟨name, -, rfl⟩ := resolveProfile_eq_ok hr
  refine ⟨source, hs, ?_⟩
  dsimp only
  split
  · exact asks_removeLegacy _
  · exact asks_removeLegacy _

/-! ## 3. Answers -/

theorem refuses_routeQuery {service : Service} {q : RouteQuery} {raw : Grouped} {reason : Refusal}
    (h : Request.ofQuery service.options q raw = .error (.refused reason)) (caller : Caller)
    (clock : Clock) :
    (service.routeQuery q raw caller clock).Refuses reason (some q.outputType)
      service.settings.gpxCreator where
  silent := by
    rw [handed_routeQuery, h]
    rfl
  answer := by
    have ha : (service.run (Request.ofQuery service.options q raw)).result =
        .ok ⟨none, .failure (.refused reason)⟩ := by
      rw [h]
      rfl
    obtain ⟨response, hresponse, hstatus⟩ := exists_errorResponse (List.cons_ne_nil _ _)
      (worded_of_refusal reason) (some q.outputType) service.settings.gpxCreator
    refine ⟨response, ?_, hstatus, hresponse⟩
    rw [result_routeQuery_of_faults (List.cons_ne_nil _ _) (worded_of_refusal reason) ha]
    exact hresponse

theorem refuses_routeBody {service : Service} {body : RouteBody} {reason : Refusal}
    (h : Request.ofBody service.options body = .error (.refused reason)) (caller : Caller)
    (clock : Clock) :
    (service.routeBody body caller clock).Refuses reason none defaultCreator where
  silent := by
    rw [handed_routeBody, h]
    rfl
  answer := by
    have ha : (service.run (Request.ofBody service.options body)).result =
        .ok ⟨none, .failure (.refused reason)⟩ := by
      rw [h]
      rfl
    refine ⟨_, ?_, rfl, rfl⟩
    rw [result_routeBody_of_faults (List.cons_ne_nil _ _) (worded_of_refusal reason) ha]
    rfl

/-- **Elevation on a server without elevation data.** A query with the switch is refused, and what
    it hands over without the switch asks for elevation exactly when another spelling of the key
    asks for it. What a body hands over never does, and a body whose hints do is refused. What a
    batch hands over asks for elevation exactly when its query string does. -/
theorem elevation_gate (service : Service) (hno : service.settings.hasElevation = false)
    (hkeep : service.transformer = keepRequest) (hfair : service.schedule.Fair)
    (pairs : List (String × String)) (caller : Caller) (clock : Clock) :
    (∀ q, RouteQuery.check ⟨groupPairs pairs, []⟩ = .passed q →
      (q.elevation = true → (service.routeQuery q (groupPairs pairs) caller clock).Refuses
        .elevationUnsupported (some q.outputType) service.settings.gpxCreator) ∧
      ∀ r ∈ (service.routeQuery q (groupPairs pairs) caller clock).handed,
        r.hints.AsksElevation ↔ (groupPairs pairs).AsksElevationAside) ∧
    (∀ body, (∀ hints, Hints.ofBody body.extra = .ok hints → hints.AsksElevation →
        (service.routeBody body caller clock).Refuses .elevationUnsupported none defaultCreator) ∧
      ∀ r ∈ (service.routeBody body caller clock).handed, ¬ r.hints.AsksElevation) ∧
    ∀ bulk q, ∀ r ∈ (service.routeBulk bulk q (groupPairs pairs) clock).handed,
      r.hints.AsksElevation ↔ (groupPairs pairs).AsksElevation := by
  have hoptions : service.options.hasElevation = false := hno
  refine ⟨fun q hq => ⟨fun hon => ?_, fun r hr => ?_⟩, fun body =>
    ⟨fun hints hb hasks => ?_, fun r hr => ?_⟩, fun bulk q r hr => ?_⟩
  · exact refuses_routeQuery (ofQuery_of_switch hoptions hon _) caller clock
  · rw [handed_routeQuery, Option.mem_toList] at hr
    obtain ⟨source, hs, hasks⟩ := asks_of_ready hkeep hr
    obtain ⟨hoff, hsource⟩ := asks_ofQuery hoptions hs
    rw [hasks, hsource]
    constructor
    · rintro ⟨sent, hlast, hflag⟩
      refine ⟨sent, hlast, fun hname => ?_, hflag⟩
      have hmem := List.mem_of_getLast? hlast
      obtain ⟨spelling, value⟩ := sent
      cases hname
      exact elevation_ne_true hq hoff hmem hflag
    · rintro ⟨sent, hlast, -, hflag⟩
      exact ⟨sent, hlast, hflag⟩
  · exact refuses_routeBody (ofBody_of_asks hoptions hb hasks) caller clock
  · rw [handed_routeBody, Option.mem_toList] at hr
    obtain ⟨source, hs, hasks⟩ := asks_of_ready hkeep hr
    rw [hasks]
    exact asks_ofBody hoptions hs
  · have hlegs := (handed_routeBulk service hfair bulk q (groupPairs pairs) clock).mem_iff.mp hr
    obtain ⟨destination, -, hready⟩ := List.mem_filterMap.mp hlegs
    obtain ⟨source, hs, hasks⟩ := asks_of_ready hkeep hready
    rw [hasks]
    exact asks_builtLeg hs

/-- A query string for two points, followed by one more parameter. -/
def townPairs (key value : String) : List (String × String) :=
  [("point", "52.5,13.4"), ("point", "52.4,13.3"), (key, value)]

theorem elevation_gate_townPairs :
    carAndBike.settings.hasElevation = false ∧ carAndBike.transformer = keepRequest ∧
      carAndBike.schedule.Fair ∧
      ∃ q, RouteQuery.check ⟨groupPairs (townPairs "elevation" "yes"), []⟩ = .passed q ∧
        (carAndBike.routeQuery q (groupPairs (townPairs "elevation" "yes")) {} {}).Refuses
          .elevationUnsupported (some q.outputType) carAndBike.settings.gpxCreator := by
  have hkeep : carAndBike.transformer = keepRequest := rfl
  have hfair : carAndBike.schedule.Fair := fun n => List.Perm.refl (List.range n)
  have hno : carAndBike.settings.hasElevation = false := rfl
  obtain ⟨hquery, -, -⟩ :=
    elevation_gate carAndBike hno hkeep hfair (townPairs "elevation" "yes") {} {}
  have hread : (RouteQuery.check ⟨groupPairs (townPairs "elevation" "yes"), []⟩).passed?.any
      (·.elevation) = true := by decide +kernel
  obtain ⟨q, hq, hon⟩ := Check.exists_passed_of_any hread
  exact ⟨hno, hkeep, hfair, q, hq, (hquery q hq).1 hon⟩

/-- The switch under another spelling passes the gate. -/
theorem elevation_gate_open :
    carAndBike.settings.hasElevation = false ∧ carAndBike.transformer = keepRequest ∧
      ∃ q, RouteQuery.check ⟨groupPairs (townPairs "Elevation" "true"), []⟩ = .passed q ∧
        ∃ r ∈ (carAndBike.routeQuery q (groupPairs (townPairs "Elevation" "true")) {} {}).handed,
          r.hints.AsksElevation := by
  have hread : (RouteQuery.check ⟨groupPairs (townPairs "Elevation" "true"), []⟩).passed?.any
      (fun q => (carAndBike.ready (Request.ofQuery carAndBike.options q
        (groupPairs (townPairs "Elevation" "true")))).any fun r =>
          (r.hints.flag? Key.elevation).getD false) = true := by decide +kernel
  obtain ⟨q, hq, hready⟩ := Check.exists_passed_of_any hread
  obtain ⟨r, hr, hasks⟩ := (Option.any_eq_true _ _).mp hready
  refine ⟨rfl, rfl, q, hq, r, ?_, hasks⟩
  rw [handed_routeQuery, hr]
  exact List.mem_singleton_self r

end Service

end Waypost
