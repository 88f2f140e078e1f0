import Waypost.Engine
import Waypost.Proofs.Run

/-!
# Asking an engine

* `handed_invokeEngine` -- an engine that is asked is handed the request once;
* `Fault.atEngine`, `Outcome.ofAsked` -- what becomes of the fault of an engine, and of its end;
* `result_invokeEngine` -- **asking always ends, with what becomes of the end of the engine**;
* `ofAsked_keeps` -- what holds of the ends of an engine holds of what becomes of them;
* `paths_ofAsked` -- that is **an outcome that holds faults or paths**, whatever the engine answers
  and however it breaks down.
-/

namespace Waypost

/-! ## 1. What is handed over -/

theorem handed_ask (engine : Engine) (r : Request) : (engine.ask r).handed = [r] := by
  unfold Engine.ask
  rw [Run.handed_bind_of_ok rfl, Run.handed_withoutHandOvers]
  rfl

theorem handed_failedOutcome (fault : Fault) : (failedOutcome fault).handed = [] := by
  cases fault <;> rfl

theorem handed_invokeEngine (engine : Engine) (r : Request) :
    (invokeEngine engine r).handed = [r] := by
  unfold invokeEngine
  rw [Run.handed_bind_of_nil, Run.handed_attempt, handed_ask]
  intro ending
  cases ending with
  | error fault => exact handed_failedOutcome fault
  | ok outcome => rfl

/-! ## 2. What comes back -/

/-- The fault of an engine as callers see it: a breakdown counts as a failure of the engine. -/
def Fault.atEngine : Fault → Fault
  | .unexpected cause => .reported .engineFailure (Fault.unexpected cause).message []
  | fault => fault

/-- What becomes of the end of an engine: an outcome that holds faults or paths. -/
def Outcome.ofAsked : Except Fault Outcome → Outcome
  | .error fault => .failure fault.atEngine
  | .ok outcome =>
    if !outcome.hasFaults && outcome.paths.isEmpty then .failure emptyOutcome else outcome

/-- **Asking ends with what becomes of the end of the engine.** -/
theorem result_invokeEngine (engine : Engine) (r : Request) :
    (invokeEngine engine r).result = .ok (Outcome.ofAsked (engine.route r).result) := by
  have hask : (engine.ask r).result = (engine.route r).result := rfl
  unfold invokeEngine
  rw [Run.bind_of_ok (Run.result_attempt _)]
  dsimp only
  rw [hask]
  cases (engine.route r).result with
  | error fault => cases fault <;> rfl
  | ok outcome => rfl

theorem ofAsked_of_faults {outcome : Outcome} (h : outcome.faults ≠ []) :
    Outcome.ofAsked (.ok outcome) = outcome := by
  unfold Outcome.ofAsked
  dsimp only
  rw [Outcome.hasFaults_eq_true.mpr h]
  rfl

theorem ofAsked_of_paths {outcome : Outcome} (h : outcome.paths ≠ []) :
    Outcome.ofAsked (.ok outcome) = outcome := by
  unfold Outcome.ofAsked
  dsimp only
  rw [List.isEmpty_eq_false_iff.mpr h, Bool.and_false]
  rfl

theorem ofAsked_of_neither {outcome : Outcome} (hf : outcome.faults = [])
    (hp : outcome.paths = []) : Outcome.ofAsked (.ok outcome) = .failure emptyOutcome := by
  unfold Outcome.ofAsked
  dsimp only
  rw [Outcome.hasFaults_eq_false.mpr hf, hp]
  rfl

/-- What holds of the answers of an engine and of the failures in their place holds of what becomes
    of its end. -/
theorem ofAsked_keeps {ending : Except Fault Outcome} {P : Outcome → Prop}
    (hanswer : ∀ outcome, ending = .ok outcome → P outcome) (hempty : P (.failure emptyOutcome))
    (hfailed : ∀ fault, ending = .error fault → P (.failure fault.atEngine)) :
    P (Outcome.ofAsked ending) := by
  cases ending with
  | error fault => exact hfailed fault rfl
  | ok outcome =>
    unfold Outcome.ofAsked
    dsimp only
    split
    · exact hempty
    · exact hanswer outcome rfl

/-- **What becomes of the end of an engine holds faults or paths.** -/
theorem paths_ofAsked (ending : Except Fault Outcome) :
    (Outcome.ofAsked ending).faults = [] → (Outcome.ofAsked ending).paths ≠ [] := by
  cases ending with
  | error fault => exact nofun
  | ok outcome =>
    by_cases hf : outcome.faults = []
    · by_cases hp : outcome.paths = []
      · rw [ofAsked_of_neither hf hp]
        exact nofun
      · rw [ofAsked_of_paths hp]
        exact fun _ => hp
    · rw [ofAsked_of_faults hf]
      exact fun hnone => absurd hnone hf

end Waypost
