import Waypost.Proofs.Service.Contract
import Waypost.Proofs.Service.Gate
import Waypost.Proofs.Service.SameView

/-!
# One question, one answer

A query and a body that put one question, to be seen alike, are prepared alike. When their engines
answer alike they come to the same outcome, and what they show of it is the same document: a query
shows what its typed fields ask to see, a body what the hints of its request do.

* `prepare_alike` -- requests that differ in the writing of lines only are prepared, or fail alike;
* `tried_alike` -- **they come to the same**;
* `faults_alike`, `paths_alike` -- the same faults and the same paths are answered alike;
* `routeQuery_eq_routeBody` -- **a question is answered alike in both forms**.
-/

namespace Waypost

open Decimal

namespace Service

/-- The same service with another engine. -/
def withEngine (service : Service) (other : Engine) : Service := { service with engine := other }

theorem withEngine_self (service : Service) : service.withEngine service.engine = service := rfl

section Alike

variable {service : Service} {other : Engine} {names : List String}
  (hkeep : service.transformer = keepRequest)
  (hresolver : service.resolver = configuredProfiles names)
include hkeep hresolver

/-! ## 1. One outcome -/

/-- Requests that differ in the writing of lines only cannot be prepared for the same reason, or are
    both prepared. -/
theorem prepare_alike (r : Request) {h h' : Hints} (halike : h.SameBut Key.encoding h') :
    (∃ fault changed changed', service.prepare { r with hints := h } = (changed, some fault) ∧
      (service.withEngine other).prepare { r with hints := h' } = (changed', some fault)) ∨
    ∃ prepared prepared', service.prepare { r with hints := h } = (prepared, none) ∧
      (service.withEngine other).prepare { r with hints := h' } = (prepared', none) := by
  have hvehicle : h.get? Key.vehicle = h'.get? Key.vehicle := by
    have hkey : normalizeKey Key.vehicle ∉ Key.encoding := by decide +kernel
    exact halike _ hkey
  have hname := chosenProfile_congr names r hvehicle
  unfold prepare withEngine
  rw [hkeep, hresolver]
  dsimp only [keepRequest]
  unfold resolveProfile
  rw [← hname]
  cases chosenProfile (configuredProfiles names) { r with hints := h } with
  | error fault => exact Or.inl ⟨fault, _, _, rfl, rfl⟩
  | ok name => exact Or.inr ⟨_, _, rfl, rfl⟩

/-- **Both come to the same**, when the engines answer alike what they are handed. -/
theorem tried_alike {built built' : Except Fault Request} (halike : AlikeEnd built built')
    (hengine : ∀ r ∈ service.ready built, ∀ s ∈ (service.withEngine other).ready built',
      (service.engine.route r).result = (other.route s).result) :
    service.tried built = (service.withEngine other).tried built' := by
  cases halike with
  | fault fault => rfl
  | @request r h h' hsame =>
    show (service.dispatch { r with hints := h }).result =
      ((service.withEngine other).dispatch { r with hints := h' }).result
    rcases prepare_alike hkeep hresolver r hsame with
      ⟨fault, changed, changed', hl, hr⟩ | ⟨prepared, prepared', hl, hr⟩
    · rw [dispatch_of_stopped hl, dispatch_of_stopped hr]
    · have hasked : (service.engine.route prepared).result = (other.route prepared').result :=
        hengine prepared (ready_of_prepared hl) prepared' (ready_of_prepared hr)
      rw [dispatch_of_prepared hl, dispatch_of_prepared hr, result_invokeEngine,
        result_invokeEngine, hasked]
      rfl

end Alike

/-! ## 2. One answer -/

section Answers

variable {service : Service} {other : Engine} {q : RouteQuery} {raw : Grouped} {b : RouteBody}
  {extras encoding : List (String × String)} {base : Grouped} {plain : Members}
  {attempted attempted' : Attempted} {caller caller' : Caller} {clock : Clock}

/-- Faults are answered with the same document. -/
theorem faults_alike (hjson : q.writesTrack = false)
    (ha : (service.run (Request.ofQuery service.options q raw)).result = .ok attempted)
    (ha' : ((service.withEngine other).run
      (Request.ofBody (service.withEngine other).options b)).result = .ok attempted')
    (hsame : attempted'.outcome = attempted.outcome) (hf : attempted.outcome.faults ≠ [])
    (hw : ∀ fault ∈ attempted.outcome.faults, fault.Worded) :
    (service.routeQuery q raw caller clock).result =
      ((service.withEngine other).routeBody b caller' clock).result := by
  rw [result_routeQuery_of_faults hf hw ha,
    result_routeBody_of_faults (hsame ▸ hf) (hsame ▸ hw) ha', hsame]
  exact errorResponse_of_json hjson _ _

/-- The milliseconds of a time that is a number are no bad value, even if they are too many. -/
theorem not_isValueFault_of_wholeMillis {fault : Fault} (hclock : clock.millis.isNaN = false)
    (h : clock.wholeMillis = .error fault) : fault.isValueFault = false := by
  unfold Clock.wholeMillis at h
  cases hn : nearest? clock.millis with
  | ok took =>
    rw [hn] at h
    cases h
  | error why =>
    rw [hn] at h
    cases h
    cases ((wholeOf_nearest? clock.millis).error why).mp hn with
    | infinite => rfl
    | nan hnan =>
      rw [hnan] at hclock
      cases hclock

/-- Paths are answered with the same document: what the body asks to see is read back from the hints
    of its request. -/
theorem paths_alike (hkeep : service.transformer = keepRequest)
    (h : SameView q raw b extras encoding base plain) (hclock : clock.millis.isNaN = false)
    (ha : (service.run (Request.ofQuery service.options q raw)).result = .ok attempted)
    (ha' : ((service.withEngine other).run
      (Request.ofBody (service.withEngine other).options b)).result = .ok attempted')
    (hsame : attempted'.outcome = attempted.outcome) (hf : attempted.outcome.faults = [])
    {line : String} (hline : logOutcome attempted.outcome = .ok line) :
    (service.routeQuery q raw caller clock).result =
      ((service.withEngine other).routeBody b caller' clock).result := by
  have hshown : ((attempted'.request.map (·.hints)).getD Hints.empty).output = .ok q.output := by
    obtain ⟨fromQuery, fromBody, -, hbody, -, -, houtput⟩ := h.hints
    have hother : (service.withEngine other).transformer = keepRequest := hkeep
    obtain ⟨hints, hhints, hread⟩ := output_of_run hother ha' (hsame ▸ hf)
    cases hbody.symm.trans hhints
    exact hread.trans houtput
  rw [result_routeQuery_of_logged hf hline ha,
    result_routeBody_of_logged (hsame ▸ hf) (hsame ▸ hline) ha', hshown, hsame]
  simp only [h.question.json, Bool.false_eq_true, if_false]
  cases htook : clock.wholeMillis with
  | ok took => rfl
  | error fault =>
    rw [error_bind, error_bind]
    unfold written
    dsimp only
    rw [not_isValueFault_of_wholeMillis hclock htook, if_neg Bool.false_ne_true]

end Answers

/-- **One question, one answer.** A query and a body put one question and ask to see its answer
    alike. No transformer changes them, they share profiles and settings, the time they take is a
    number, and what is handed to the engines is answered alike. Then both get the same answer, or
    break down with the same fault. -/
theorem routeQuery_eq_routeBody {service : Service} {other : Engine} {names : List String}
    (hkeep : service.transformer = keepRequest)
    (hresolver : service.resolver = configuredProfiles names) {q : RouteQuery} {raw : Grouped}
    {b : RouteBody} {extras encoding : List (String × String)} {base : Grouped} {plain : Members}
    (h : SameView q raw b extras encoding base plain) (caller caller' : Caller) {clock : Clock}
    (hclock : clock.millis.isNaN = false)
    (hengine : ∀ r ∈ (service.routeQuery q raw caller clock).handed,
      ∀ s ∈ ((service.withEngine other).routeBody b caller' clock).handed,
        (service.engine.route r).result = (other.route s).result) :
    (service.routeQuery q raw caller clock).result =
      ((service.withEngine other).routeBody b caller' clock).result := by
  rw [handed_routeQuery, handed_routeBody] at hengine
  have hend : service.tried (Request.ofQuery service.options q raw) =
      (service.withEngine other).tried (Request.ofBody service.options b) :=
    tried_alike hkeep hresolver (ofQuery_alikeEnd_ofBody service.options h)
      fun r hr s hs => hengine r (Option.mem_toList.mpr hr) s (Option.mem_toList.mpr hs)
  obtain ⟨attempted, ha, ho, -⟩ := result_run service (Request.ofQuery service.options q raw)
  obtain ⟨attempted', ha', ho', -⟩ :=
    result_run (service.withEngine other) (Request.ofBody (service.withEngine other).options b)
  have hsame : attempted'.outcome = attempted.outcome := by
    rw [ho, ho', hend]
    rfl
  cases hline : logOutcome attempted.outcome with
  | error fault =>
    rw [result_routeQuery_of_unlogged hline ha, result_routeBody_of_unlogged (hsame ▸ hline) ha']
  | ok line =>
    by_cases hf : attempted.outcome.faults = []
    · exact paths_alike hkeep h hclock ha ha' hsame hf hline
    · exact faults_alike h.question.json ha ha' hsame hf ((exists_logOutcome hf).mp ⟨line, hline⟩)

/-- A service whose engine sends everyone over one hill. -/
def hill : Service where
  engine := {
    threadSafe := true
    properties := pure []
    route := fun _ => pure {
      paths := [{
        distance := 1500.0
        time := 90000
        weight := 90.0
        points := [⟨.float 52.5, .float 13.4, by decide +kernel, by decide +kernel⟩,
          ⟨.float 52.4, .float 13.3, by decide +kernel, by decide +kernel⟩]
        elevations := [35.0, 120.5] }] } }
  resolver := configuredProfiles ["car"]
  settings := { hasElevation := true }

/-- The question of the town, to be answered with coordinates in place of lines. -/
def bareQuery : RouteQuery :=
  { townQuery with pointsEncoded := false, pointsEncodedMultiplier := 1e6 }

def bareEncoding : List (String × String) :=
  [("points_encoded_multiplier", "1000000"), ("points_encoded", "false")]

def bareRaw : Grouped := (bareEncoding.map fun e => (e.1, [e.2])) ++ townRaw

def bareBody (points : List Point) : RouteBody :=
  { townBody points with extra := bareQuery.encodingMembers ++ (townBody points).extra }

theorem bareView {points : List Point} (h : townQuery.points.mapM Point.parse = .ok points) :
    SameView bareQuery bareRaw (bareBody points) townExtras bareEncoding townRaw
      (townBody points).extra where
  question := { townQuestion h with }
  free := by decide +kernel
  once := by decide
  keys := by decide
  readable := by decide +kernel
  query := List.perm_append_comm
  body := List.perm_append_comm

theorem routeQuery_eq_routeBody_hill :
    hill.transformer = keepRequest ∧ hill.resolver = configuredProfiles ["car"] ∧
      (Clock.millis {}).isNaN = false ∧
      ∃ b response, SameView bareQuery bareRaw b townExtras bareEncoding townRaw
          (townExtras.map (fun e => (e.1, .str e.2)) ++ townQuery.switchMembers) ∧
        (hill.routeQuery bareQuery bareRaw {} {}).result = .ok response ∧
        (hill.routeBody b {} {}).result = .ok response ∧ response.status = 200 := by
  have hkeep : hill.transformer = keepRequest := rfl
  have hresolver : hill.resolver = configuredProfiles ["car"] := by simp only [hill]
  have hclock : (Clock.millis {}).isNaN = false := by decide +kernel
  have hpoints : (townQuery.points.mapM Point.parse).toOption.isSome = true := by decide +kernel
  have hanswered : (hill.routeQuery bareQuery bareRaw {} {}).result.toOption.any
      (·.status == 200) = true := by decide +kernel
  obtain ⟨points, hp⟩ := isSome_toOption.mp hpoints
  obtain ⟨response, hresponse, hstatus⟩ := exists_ok_of_any hanswered
  have hview := bareView hp
  have hsame : (hill.routeQuery bareQuery bareRaw {} {}).result =
      ((hill.withEngine hill.engine).routeBody (bareBody points) {} {}).result :=
    routeQuery_eq_routeBody hkeep hresolver hview {} {} hclock fun _ _ _ _ => rfl
  rw [hresponse, withEngine_self] at hsame
  exact ⟨hkeep, hresolver, hclock, bareBody points, response, hview, hresponse, hsame.symm,
    beq_iff_eq.mp hstatus⟩

end Service

end Waypost
