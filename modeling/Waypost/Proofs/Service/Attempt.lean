import Waypost.Proofs.Bulk.Entry
import Waypost.Proofs.Engine
import Waypost.Proofs.Request.OwnFaults
import Waypost.Service.Basic

/-!
# Taking a request to its outcome

A request ends in one of three ways: it could not be built, it could not be prepared, or the engine
was asked (`run_of_error`, `run_of_stopped`, `run_of_prepared`).

* `Service.ready` -- the request that goes to the engine, if there is one;
* `handed_run`, `handed_dispatch` -- **that request is handed over, and nothing else**;
* `Service.tried` -- what a leg comes to;
* `tried_eq_ok` -- a leg comes to an outcome exactly when a request is handed over for it;
* `result_run` -- **a run comes to the same, with a failure in place of a fault**, and to faults or
  paths;
* `run_cases` -- the three ways in which a run ends, with its outcome;
* `run_keeps` -- what holds of own failures and of asking the engine holds of every run.
-/

namespace Waypost

namespace Service

/-- The request that goes to the engine: none when building or preparing it fails. -/
def ready (service : Service) (built : Except Fault Request) : Option Request :=
  match built with
  | .error _ => none
  | .ok r =>
    match service.prepare r with
    | (_, some _) => none
    | (prepared, none) => some prepared

/-- What a leg comes to whose request was built or not. -/
def tried (service : Service) (built : Except Fault Request) : Except Fault Outcome :=
  built >>= fun r => (service.dispatch r).result

/-! ## 1. Three ends -/

theorem handed_stopped (fault : Fault) : (stopped fault).handed = [] := by
  unfold stopped
  cases fault with
  | refused reason => rfl
  | reported kind message details => rfl
  | unexpected cause =>
    dsimp only
    split <;> rfl

theorem result_stopped (fault : Fault) : (stopped fault).result = .ok (.failure fault) := by
  unfold stopped
  cases fault with
  | refused reason => rfl
  | reported kind message details => rfl
  | unexpected cause =>
    dsimp only
    split <;> rfl

section Ends

variable {service : Service} {r changed : Request} {fault : Fault}

theorem run_of_error : service.run (.error fault) = Attempted.mk none <$> stopped fault := rfl

theorem run_of_stopped (hp : service.prepare r = (changed, some fault)) :
    service.run (.ok r) = Attempted.mk (some changed) <$> stopped fault := by
  unfold run
  dsimp only
  rw [hp]
  rfl

theorem run_of_prepared (hp : service.prepare r = (changed, none)) :
    service.run (.ok r) = Attempted.mk (some changed) <$> invokeEngine service.engine changed := by
  unfold run
  dsimp only
  rw [hp]
  rfl

theorem dispatch_of_stopped (hp : service.prepare r = (changed, some fault)) :
    service.dispatch r = Run.fail fault := by
  unfold dispatch
  rw [hp]

theorem dispatch_of_prepared (hp : service.prepare r = (changed, none)) :
    service.dispatch r = invokeEngine service.engine changed := by
  unfold dispatch
  rw [hp]

theorem ready_of_stopped (hp : service.prepare r = (changed, some fault)) :
    service.ready (.ok r) = none := by
  unfold ready
  dsimp only
  rw [hp]

theorem ready_of_prepared (hp : service.prepare r = (changed, none)) :
    service.ready (.ok r) = some changed := by
  unfold ready
  dsimp only
  rw [hp]

end Ends

theorem ready_eq_some {service : Service} {built : Except Fault Request} {r : Request}
    (h : service.ready built = some r) :
    ∃ source, built = .ok source ∧ service.prepare source = (r, none) := by
  cases built with
  | error fault => cases h
  | ok source =>
    rcases hp : service.prepare source with ⟨changed, _ | fault⟩
    · rw [ready_of_prepared hp] at h
      cases h
      exact ⟨source, rfl, hp⟩
    · rw [ready_of_stopped hp] at h
      cases h

/-! ## 2. What is handed over -/

/-- **A run hands over the request that is ready, and nothing else.** -/
theorem handed_run (service : Service) (built : Except Fault Request) :
    (service.run built).handed = (service.ready built).toList := by
  cases built with
  | error fault =>
    rw [run_of_error, Run.handed_map, handed_stopped]
    rfl
  | ok r =>
    rcases hp : service.prepare r with ⟨changed, _ | fault⟩
    · rw [run_of_prepared hp, ready_of_prepared hp, Run.handed_map, handed_invokeEngine]
      rfl
    · rw [run_of_stopped hp, ready_of_stopped hp, Run.handed_map, handed_stopped]
      rfl

theorem handed_dispatch (service : Service) (r : Request) :
    (service.dispatch r).handed = (service.ready (.ok r)).toList := by
  rcases hp : service.prepare r with ⟨changed, _ | fault⟩
  · rw [dispatch_of_prepared hp, ready_of_prepared hp, handed_invokeEngine]
    rfl
  · rw [dispatch_of_stopped hp, ready_of_stopped hp]
    rfl

/-! ## 3. What it comes to -/

/-- **A request that is run comes to what a leg comes to**, and to faults or paths. -/
theorem result_run (service : Service) (built : Except Fault Request) :
    ∃ attempted, (service.run built).result = .ok attempted ∧
      attempted.outcome = Outcome.ofEnd (service.tried built) ∧
      (attempted.outcome.faults = [] → attempted.outcome.paths ≠ []) := by
  unfold tried
  cases built with
  | error fault =>
    refine ⟨⟨none, .failure fault⟩, ?_, rfl, fun h => by cases h⟩
    rw [run_of_error, Run.result_map_of_ok (result_stopped fault)]
  | ok r =>
    rw [ok_bind]
    rcases hp : service.prepare r with ⟨changed, _ | fault⟩
    · have ho := result_invokeEngine service.engine changed
      refine ⟨⟨some changed, .ofAsked (service.engine.route changed).result⟩, ?_, ?_,
        paths_ofAsked _⟩
      · rw [run_of_prepared hp, Run.result_map_of_ok ho]
      · rw [dispatch_of_prepared hp, ho]
        rfl
    · refine ⟨⟨some changed, .failure fault⟩, ?_, ?_, fun h => by cases h⟩
      · rw [run_of_stopped hp, Run.result_map_of_ok (result_stopped fault)]
      · rw [dispatch_of_stopped hp]
        rfl

/-- **A run ends in one of three ways**: the request could not be built, it could not be prepared,
    or the engine was asked. -/
theorem run_cases {service : Service} {built : Except Fault Request} {attempted : Attempted}
    (ha : (service.run built).result = .ok attempted) :
    (∃ fault, built = .error fault ∧ attempted.outcome = .failure fault) ∨
    (∃ r changed fault, built = .ok r ∧ service.prepare r = (changed, some fault) ∧
      attempted.outcome = .failure fault) ∨
    ∃ r prepared, built = .ok r ∧ service.prepare r = (prepared, none) ∧
      attempted.request = some prepared ∧
      attempted.outcome = Outcome.ofAsked (service.engine.route prepared).result := by
  cases built with
  | error fault =>
    rw [run_of_error, Run.result_map_of_ok (result_stopped fault)] at ha
    cases ha
    exact Or.inl ⟨fault, rfl, rfl⟩
  | ok r =>
    rcases hp : service.prepare r with ⟨changed, _ | fault⟩
    · rw [run_of_prepared hp, Run.result_map_of_ok (result_invokeEngine _ changed)] at ha
      cases ha
      exact Or.inr (Or.inr ⟨r, changed, rfl, hp, rfl, rfl⟩)
    · rw [run_of_stopped hp, Run.result_map_of_ok (result_stopped fault)] at ha
      cases ha
      exact Or.inr (Or.inl ⟨r, changed, fault, rfl, hp, rfl⟩)

/-- A run that comes to no faults came to the engine. -/
theorem prepared_of_run {service : Service} {built : Except Fault Request} {attempted : Attempted}
    (ha : (service.run built).result = .ok attempted) (hf : attempted.outcome.faults = []) :
    ∃ r prepared, built = .ok r ∧ service.prepare r = (prepared, none) ∧
      attempted.request = some prepared := by
  rcases run_cases ha with ⟨fault, -, ho⟩ | ⟨r, changed, fault, -, -, ho⟩ |
    ⟨r, prepared, hbuilt, hp, hrequest, -⟩
  · rw [ho] at hf
    cases hf
  · rw [ho] at hf
    cases hf
  · exact ⟨r, prepared, hbuilt, hp, hrequest⟩

/-! ## 4. What every run keeps -/

section Prepared

variable {service : Service} {names : List String} (hkeep : service.transformer = keepRequest)
  (hresolver : service.resolver = configuredProfiles names)
include hkeep hresolver

/-- Preparing a request fails with own faults only. -/
theorem own_prepare {r changed : Request} {fault : Fault}
    (hp : service.prepare r = (changed, some fault)) : fault.Own := by
  unfold prepare at hp
  rw [hkeep, hresolver] at hp
  dsimp only [keepRequest] at hp
  cases hr : resolveProfile (configuredProfiles names) r with
  | ok resolved =>
    rw [hr] at hp
    cases hp
  | error cause =>
    rw [hr] at hp
    cases hp
    exact own_resolveProfile names r _ hr

/-- **What holds of own failures and of asking the engine holds of every run**, and there always is
    an outcome with faults or paths. -/
theorem run_keeps {P : Outcome → Prop} (hown : ∀ fault, fault.Own → P (.failure fault))
    (hasked : ∀ r, ∃ outcome, (invokeEngine service.engine r).result = .ok outcome ∧ P outcome ∧
      (outcome.faults = [] → outcome.paths ≠ []))
    {built : Except Fault Request} (hbuilt : FailsOnly Fault.Own built) :
    ∃ attempted, (service.run built).result = .ok attempted ∧ P attempted.outcome ∧
      (attempted.outcome.faults = [] → attempted.outcome.paths ≠ []) := by
  cases built with
  | error fault =>
    refine ⟨⟨none, .failure fault⟩, ?_, hown fault (hbuilt fault rfl), nofun⟩
    rw [run_of_error, Run.result_map_of_ok (result_stopped fault)]
  | ok r =>
    rcases hp : service.prepare r with ⟨changed, _ | fault⟩
    · obtain ⟨outcome, ho, hkept, hpaths⟩ := hasked changed
      refine ⟨⟨some changed, outcome⟩, ?_, hkept, hpaths⟩
      rw [run_of_prepared hp, Run.result_map_of_ok ho]
    · have hfault : fault.Own := own_prepare hkeep hresolver hp
      refine ⟨⟨some changed, .failure fault⟩, ?_, hown fault hfault, nofun⟩
      rw [run_of_stopped hp, Run.result_map_of_ok (result_stopped fault)]

end Prepared

end Service

end Waypost
