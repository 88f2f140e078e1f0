import Waypost.Proofs.Decimal.Notation
import Waypost.Proofs.Document.Sound
import Waypost.Proofs.Engine
import Waypost.Proofs.Json.Writable
import Waypost.Proofs.Osrm.OwnFaults

/-!
# Outcomes of an OSRM service

Whatever the service answers, some things hold of every outcome: the times of its paths come from
doubles, the details of its faults can be sent, and it holds one fault and nothing else, or none.
Nothing holds of distances, weights, names of streets, headings and messages.

* `Outcome.Regular` -- an outcome of which that is true;
* `regular_ofAnswer` -- what is read from an answer is regular;
* `regular_osrmRoute` -- **every outcome of the service is regular**;
* `regular_invokeOsrm` -- so is the outcome of asking it, and there always is one.
-/

namespace Waypost

open Decimal Text

/-- What holds of every outcome of the service. -/
structure Outcome.Regular (outcome : Outcome) : Prop where
  times : ∀ path ∈ outcome.paths, ∃ x, floatOfInt path.time = .ok x
  details : ∀ fault ∈ outcome.faults, membersWritable fault.details = true
  apart : outcome.faults = [] ∨ ∃ fault, outcome = .failure fault

/-! ## 1. Failures -/

theorem details_of_own {fault : Fault} (h : fault.Own) : fault.details = [] := by
  cases fault with
  | refused reason => rfl
  | reported kind message details => exact h.elim
  | unexpected cause => rfl

theorem regular_failure {fault : Fault} (h : membersWritable fault.details = true) :
    (Outcome.failure fault).Regular where
  times path hp := absurd hp List.not_mem_nil
  details other hother := by
    rw [List.mem_singleton.mp hother]
    exact h
  apart := Or.inr ⟨fault, rfl⟩

theorem regular_of_own {fault : Fault} (h : fault.Own) : (Outcome.failure fault).Regular :=
  regular_failure (by rw [details_of_own h]; rfl)

theorem isDigit_digitsBehind? {word cs digits : List Char}
    (h : digitsBehind? word cs = some digits) : ∀ c ∈ digits, isDigit c = true := by
  induction cs with
  | nil => cases h
  | cons c rest ih =>
    unfold digitsBehind? at h
    dsimp only at h
    split at h
    · cases h
      exact fun c hc => List.mem_takeWhile_imp hc
    · exact ih h

/-- The number of a coordinate was read from digits, so it can be written. -/
theorem fewDigits_of_coordinateIndex {message : String} {index : Int}
    (h : coordinateIndex message = .ok (some index)) : fewDigits index = true := by
  unfold coordinateIndex at h
  split at h
  · cases h
  · rename_i digits hdigits
    split at h
    · rename_i n hn
      cases h
      have hascii := all_isDigit_asciiDigits.mpr (isDigit_digitsBehind? hdigits)
      exact fewDigits_of_boundedInteger (List.all_eq_true.mp hascii) hn
    · cases h

/-- The fault behind a code carries at most the number of a point. -/
theorem details_of_answerFault {code message : Json} {fault : Fault}
    (h : answerFault code message = .ok fault) : membersWritable fault.details = true := by
  have hpoint : ∀ {fault}, pointNotFound message = .ok fault →
      membersWritable fault.details = true := by
    intro fault hfault
    have hname : encodable "point_index" = true := by decide
    unfold pointNotFound at hfault
    split at hfault
    · obtain ⟨index, hindex, hfault⟩ := bind_eq_ok.mp hfault
      cases hfault
      cases index with
      | none => rfl
      | some n =>
        have hfew : (Json.int n).writable = true := fewDigits_of_coordinateIndex hindex
        exact membersWritable_iff.mpr (List.forall_mem_singleton.mpr ⟨hname, hfew⟩)
    · cases hfault
  unfold answerFault at h
  split at h
  · exact hpoint h
  · obtain ⟨text, -, h⟩ := bind_eq_ok.mp h
    cases h
    rfl
  · split at h
    · cases h
      rfl
    · cases h
      rfl
  · cases h
  · cases h
  · cases h
    rfl

/-! ## 2. Paths -/

/-- The time of a path is a whole number next to a double. -/
theorem time_of_routePath {r : Request} {snapped : List Point} {route : Json} {path : Path}
    (h : routePath r snapped route = .ok path) : ∃ x, floatOfInt path.time = .ok x := by
  obtain ⟨members, geometry, pairs, -, -, -, -, -, htime, -⟩ := routePath_eq_ok h
  obtain ⟨x, -, hnearest⟩ := millisOf_eq_ok htime
  exact exists_floatOfInt_of_nearest hnearest

/-! ## 3. Outcomes -/

/-- What is read from an answer is regular. -/
theorem regular_ofAnswer {answer : Json} {r : Request} {outcome : Outcome}
    (h : Outcome.ofAnswer answer r = .ok outcome) : outcome.Regular := by
  unfold Outcome.ofAnswer at h
  obtain ⟨members, _, h⟩ := bind_eq_ok.mp h
  dsimp only at h
  split at h
  · obtain ⟨fault, hfault, h⟩ := bind_eq_ok.mp h
    cases h
    exact regular_failure (details_of_answerFault hfault)
  · split at h
    · cases h
      exact regular_failure rfl
    · obtain ⟨snapped, _, h⟩ := bind_eq_ok.mp h
      obtain ⟨routes, _, h⟩ := bind_eq_ok.mp h
      obtain ⟨paths, hpaths, h⟩ := bind_eq_ok.mp h
      cases h
      have hread := exists_mapM.mp ⟨paths, hpaths⟩
      obtain ⟨paths', hpaths', htimes⟩ := exists_mapM_of.mpr fun route hroute => by
        obtain ⟨path, hpath⟩ := hread route hroute
        exact ⟨path, hpath, time_of_routePath hpath⟩
      cases hpaths.symm.trans hpaths'
      exact ⟨htimes, nofun, Or.inl rfl⟩

theorem regular_outcomeOfAnswer {r : Request} {call : Call} {answer : Answer} {outcome : Outcome}
    (h : (outcomeOfAnswer r call answer).result = .ok outcome) : outcome.Regular := by
  unfold outcomeOfAnswer at h
  split at h
  · exact regular_ofAnswer h
  · cases h
  · split at h
    · cases h
      exact regular_failure rfl
    · cases h
      exact regular_failure rfl

/-- **Every outcome of the service is regular**, whatever it answers. -/
theorem regular_osrmRoute {config : OsrmConfig} {transport : Transport} {r : Request}
    {outcome : Outcome} (h : (osrmRoute config transport r).result = .ok outcome) :
    outcome.Regular := by
  unfold osrmRoute at h
  dsimp only at h
  split at h
  · cases h
    exact regular_failure rfl
  · rw [Run.result_bind] at h
    obtain ⟨call, _, h⟩ := bind_eq_ok.mp h
    rw [Run.result_bind] at h
    obtain ⟨reply, _, h⟩ := bind_eq_ok.mp h
    cases reply with
    | ok answer => exact regular_outcomeOfAnswer h
    | error reason =>
      cases h
      exact regular_failure rfl

/-- **Asking the service ends with a regular outcome** that holds faults or paths. -/
theorem regular_invokeOsrm (config : OsrmConfig) (transport : Transport) (r : Request) :
    ∃ outcome, (invokeEngine (osrmEngine config transport) r).result = .ok outcome ∧
      outcome.Regular ∧ (outcome.faults = [] → outcome.paths ≠ []) := by
  refine ⟨_, result_invokeEngine _ r, ?_, paths_ofAsked _⟩
  refine ofAsked_keeps (fun outcome h => regular_osrmRoute h) (regular_failure rfl) ?_
  intro fault hfault
  have hown : fault.Own := own_osrmRoute config transport r fault hfault
  cases fault with
  | refused reason => exact regular_of_own hown
  | reported kind message details => exact hown.elim
  | unexpected cause => exact regular_failure rfl

end Waypost
