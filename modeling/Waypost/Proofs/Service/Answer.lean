import Waypost.Proofs.Fault.First
import Waypost.Proofs.Run
import Waypost.Service.Route

/-!
# How an outcome is answered

A failure is logged and answered with an error document. Both need its message as a text, which
every fault has but a report of an engine with another message.

* `Fault.Worded` -- a fault whose message is a text (`exists_text`);
* `exists_errorResponse` -- worded faults are answered with status 400, in whatever form;
* `exists_logOutcome` -- an outcome of failure is logged exactly when its faults are worded;
* `broken_logOutcome` -- what cannot be logged breaks the answer down;
* `result_routeQuery_of_faults`, `result_routeBody_of_faults` -- **an outcome of worded faults is
  answered with their error document**;
* `result_routeQuery_of_paths`, `result_routeBody_of_paths` -- an outcome without faults is answered
  with a document.
-/

namespace Waypost

/-- A fault whose message is a text. -/
def Fault.Worded (fault : Fault) : Prop := ∃ text, fault.message = .str text

/-! ## 1. Messages -/

theorem worded_refused (reason : Refusal) : (Fault.refused reason).Worded :=
  ⟨reason.message, rfl⟩

theorem worded_unexpected (cause : Breakdown) : (Fault.unexpected cause).Worded := by
  unfold Fault.Worded Fault.message
  dsimp only
  split
  · exact ⟨_, rfl⟩
  · exact ⟨_, rfl⟩

/-- A refusal is worded on its own. -/
theorem worded_of_refusal (reason : Refusal) : ∀ fault ∈ [Fault.refused reason], fault.Worded :=
  List.forall_mem_singleton.mpr (worded_refused reason)

theorem exists_text {fault : Fault} : (∃ s, fault.text = .ok s) ↔ fault.Worded := by
  cases fault with
  | refused reason => exact ⟨fun _ => worded_refused reason, fun _ => ⟨reason.message, rfl⟩⟩
  | unexpected cause => exact ⟨fun _ => worded_unexpected cause, fun _ => ⟨cause.text, rfl⟩⟩
  | reported kind message details =>
    unfold Fault.Worded Fault.text
    dsimp only
    constructor
    · rintro ⟨s, hs⟩
      split at hs
      · rename_i text hm
        exact ⟨text, hm⟩
      · cases hs
    · rintro ⟨text, hm⟩
      rw [hm]
      exact ⟨text, rfl⟩

/-- A fault without a text breaks the log line down. -/
theorem broken_text (fault : Fault) : FailsOnly Fault.Broken fault.text := by
  unfold Fault.text
  split
  · exact failsOnly_of_ok ⟨_, rfl⟩
  · split
    · exact failsOnly_of_ok ⟨_, rfl⟩
    · exact failsOnly_error trivial

theorem messageText_of_worded {fault : Fault} (h : fault.Worded) :
    ∃ s, messageText fault = .ok s := by
  obtain ⟨text, ht⟩ := h
  unfold messageText
  rw [ht]
  exact ⟨text, rfl⟩

/-! ## 2. Error documents -/

theorem exists_errorsXml {faults : List Fault} (hne : faults ≠ [])
    (hw : ∀ fault ∈ faults, fault.Worded) (creator version : String) :
    ∃ text, errorsXml faults creator version = .ok text := by
  cases faults with
  | nil => exact absurd rfl hne
  | cons first rest =>
    obtain ⟨message, hmessage⟩ := messageText_of_worded (hw first List.mem_cons_self)
    have helements : ∀ fault ∈ first :: rest, ∃ element, errorElement fault = .ok element := by
      intro fault hf
      obtain ⟨s, hs⟩ := messageText_of_worded (hw fault hf)
      unfold errorElement
      rw [hs]
      exact ⟨_, rfl⟩
    obtain ⟨elements, hmap⟩ := exists_mapM.mpr helements
    unfold errorsXml
    dsimp only
    rw [hmessage, ok_bind, hmap]
    exact ⟨_, rfl⟩

theorem status_errorResponse {faults : List Fault} {outputType : Option String} {creator : String}
    {response : Response} (h : errorResponse faults outputType creator = .ok response) :
    response.status = 400 := by
  unfold errorResponse at h
  split at h
  · obtain ⟨text, _, h⟩ := bind_eq_ok.mp h
    cases h
    rfl
  · obtain ⟨json, _, h⟩ := bind_eq_ok.mp h
    cases h
    rfl

/-- **Worded faults are answered**, in JSON or in XML, with status 400. -/
theorem exists_errorResponse {faults : List Fault} (hne : faults ≠ [])
    (hw : ∀ fault ∈ faults, fault.Worded) (outputType : Option String) (creator : String) :
    ∃ response, errorResponse faults outputType creator = .ok response ∧
      response.status = 400 := by
  have hok : ∃ response, errorResponse faults outputType creator = .ok response := by
    unfold errorResponse
    split
    · obtain ⟨text, htext⟩ := exists_errorsXml hne hw creator errorXmlVersion
      rw [htext]
      exact ⟨_, rfl⟩
    · cases faults with
      | nil => exact absurd rfl hne
      | cons first rest => exact ⟨_, rfl⟩
  obtain ⟨response, hresponse⟩ := hok
  exact ⟨response, hresponse, status_errorResponse hresponse⟩

/-- An output type that is none of XML leads to the same answer as none at all. -/
theorem errorResponse_of_json {outputType : String} (h : isXmlType outputType = false)
    (faults : List Fault) (creator : String) :
    errorResponse faults (some outputType) creator = errorResponse faults := by
  unfold errorResponse
  rw [Option.filter_some, if_neg (by rw [h]; decide)]
  rfl

/-- The JSON document of a fault needs no text. -/
theorem exists_errorResponse_json (fault : Fault) :
    ∃ response, errorResponse [fault] = .ok response ∧ response.status = 400 := ⟨_, rfl, rfl⟩

namespace Service

/-! ## 3. Log lines -/

/-- An outcome of failure is logged exactly when its faults are worded. -/
theorem exists_logOutcome {outcome : Outcome} (hf : outcome.faults ≠ []) :
    (∃ line, logOutcome outcome = .ok line) ↔ ∀ fault ∈ outcome.faults, fault.Worded := by
  unfold logOutcome
  rw [Outcome.hasFaults_eq_true.mpr hf]
  simp only [← exists_text, ← exists_mapM]
  constructor
  · rintro ⟨line, h⟩
    obtain ⟨texts, ht, _⟩ := bind_eq_ok.mp h
    exact ⟨texts, ht⟩
  · rintro ⟨texts, ht⟩
    refine ⟨_, bind_eq_ok.mpr ⟨texts, ht, rfl⟩⟩

/-- An outcome that cannot be logged breaks the answer down. -/
theorem broken_logOutcome (outcome : Outcome) : FailsOnly Fault.Broken (logOutcome outcome) := by
  unfold logOutcome
  split
  · exact (FailsOnly.mapM fun fault _ => broken_text fault).bind fun _ _ =>
      failsOnly_of_ok ⟨_, rfl⟩
  · have hbest : FailsOnly Fault.Broken outcome.best := by
      unfold Outcome.best
      split
      · exact failsOnly_of_ok ⟨_, rfl⟩
      · exact failsOnly_error trivial
    exact hbest.bind fun best _ => (broken_floatOfInt best.time).bind fun time _ =>
      (broken_wholeNumber _).bind fun _ _ => failsOnly_of_ok ⟨_, rfl⟩

theorem result_logRequest_of_ok {caller : Caller} {attempted : Attempted} {clock : Clock}
    {line : String} (h : logOutcome attempted.outcome = .ok line) :
    (logRequest caller attempted clock).result = .ok () := by
  unfold logRequest
  rw [h]
  rfl

theorem result_logRequest_of_error {caller : Caller} {attempted : Attempted} {clock : Clock}
    {fault : Fault} (h : logOutcome attempted.outcome = .error fault) :
    (logRequest caller attempted clock).result = .error fault := by
  unfold logRequest
  rw [h]
  rfl

/-! ## 4. Answers -/

section Faults

variable {service : Service} {attempted : Attempted} {caller : Caller} {clock : Clock}
  (hf : attempted.outcome.faults ≠ []) (hw : ∀ fault ∈ attempted.outcome.faults, fault.Worded)
include hf hw

/-- **A query whose outcome holds worded faults is answered with their error document.** -/
theorem result_routeQuery_of_faults {q : RouteQuery} {raw : Grouped}
    (ha : (service.run (Request.ofQuery service.options q raw)).result = .ok attempted) :
    (service.routeQuery q raw caller clock).result =
      errorResponse attempted.outcome.faults (some q.outputType) service.settings.gpxCreator := by
  obtain ⟨line, hline⟩ := (exists_logOutcome hf).mpr hw
  unfold routeQuery
  rw [Run.result_bind, ha, ok_bind, Run.result_bind, result_logRequest_of_ok hline, ok_bind]
  dsimp only
  rw [Outcome.hasFaults_eq_true.mpr hf]
  rfl

/-- **A body whose outcome holds worded faults is answered with their error document.** -/
theorem result_routeBody_of_faults {body : RouteBody}
    (ha : (service.run (Request.ofBody service.options body)).result = .ok attempted) :
    (service.routeBody body caller clock).result = errorResponse attempted.outcome.faults := by
  obtain ⟨line, hline⟩ := (exists_logOutcome hf).mpr hw
  unfold routeBody
  rw [Run.result_bind, ha, ok_bind, Run.result_bind, result_logRequest_of_ok hline, ok_bind]
  dsimp only
  rw [Outcome.hasFaults_eq_true.mpr hf]
  rfl

end Faults

section Unlogged

variable {service : Service} {attempted : Attempted} {caller : Caller} {clock : Clock}
  {fault : Fault} (hline : logOutcome attempted.outcome = .error fault)
include hline

theorem result_routeQuery_of_unlogged {q : RouteQuery} {raw : Grouped}
    (ha : (service.run (Request.ofQuery service.options q raw)).result = .ok attempted) :
    (service.routeQuery q raw caller clock).result = .error fault := by
  unfold routeQuery
  rw [Run.result_bind, ha, ok_bind, Run.result_bind, result_logRequest_of_error hline]
  rfl

theorem result_routeBody_of_unlogged {body : RouteBody}
    (ha : (service.run (Request.ofBody service.options body)).result = .ok attempted) :
    (service.routeBody body caller clock).result = .error fault := by
  unfold routeBody
  rw [Run.result_bind, ha, ok_bind, Run.result_bind, result_logRequest_of_error hline]
  rfl

end Unlogged

section Paths

variable {service : Service} {attempted : Attempted} {caller : Caller} {clock : Clock}
  {line : String} {took : Int} (hf : attempted.outcome.faults = [])
  (hline : logOutcome attempted.outcome = .ok line)
include hf hline

/-- Once an outcome without faults is logged, a query waits for the time taken alone, and then it is
    answered with the document it asks for. -/
theorem result_routeQuery_of_logged {q : RouteQuery} {raw : Grouped}
    (ha : (service.run (Request.ofQuery service.options q raw)).result = .ok attempted) :
    (service.routeQuery q raw caller clock).result =
      clock.wholeMillis >>= fun took =>
        if q.writesTrack then
          written (service.trackDocument q attempted.outcome took clock.now) fun fault =>
            errorResponse [fault] (some q.outputType) service.settings.gpxCreator
        else
          written (service.routeDocument (pure q.output) attempted.outcome took) fun fault =>
            errorResponse [fault] := by
  unfold routeQuery
  rw [Run.result_bind, ha, ok_bind, Run.result_bind, result_logRequest_of_ok hline, ok_bind]
  dsimp only
  rw [Outcome.hasFaults_eq_false.mpr hf, if_neg Bool.false_ne_true, Run.result_bind,
    Run.liftM_eq_ofExcept, Run.result_ofExcept]
  refine congrArg _ (funext fun took => ?_)
  cases q.writesTrack <;> rfl

/-- A body waits for nothing: the time taken is part of the document that its hints ask for. -/
theorem result_routeBody_of_logged {body : RouteBody}
    (ha : (service.run (Request.ofBody service.options body)).result = .ok attempted) :
    (service.routeBody body caller clock).result =
      written (clock.wholeMillis >>= service.routeDocument
        ((attempted.request.map (·.hints)).getD Hints.empty).output attempted.outcome)
        fun fault => errorResponse [fault] := by
  unfold routeBody
  rw [Run.result_bind, ha, ok_bind, Run.result_bind, result_logRequest_of_ok hline, ok_bind]
  dsimp only
  rw [Outcome.hasFaults_eq_false.mpr hf, if_neg Bool.false_ne_true]
  rfl

variable (htook : clock.wholeMillis = .ok took)
include htook

/-- A query whose outcome holds no faults is answered with the document it asks for. -/
theorem result_routeQuery_of_paths {q : RouteQuery} {raw : Grouped}
    (ha : (service.run (Request.ofQuery service.options q raw)).result = .ok attempted) :
    (service.routeQuery q raw caller clock).result =
      if q.writesTrack then
        written (service.trackDocument q attempted.outcome took clock.now) fun fault =>
          errorResponse [fault] (some q.outputType) service.settings.gpxCreator
      else
        written (service.routeDocument (pure q.output) attempted.outcome took) fun fault =>
          errorResponse [fault] := by
  rw [result_routeQuery_of_logged hf hline ha, htook, ok_bind]

/-- A body whose outcome holds no faults is answered with the document its hints ask for. -/
theorem result_routeBody_of_paths {body : RouteBody}
    (ha : (service.run (Request.ofBody service.options body)).result = .ok attempted) :
    (service.routeBody body caller clock).result =
      written (service.routeDocument ((attempted.request.map (·.hints)).getD Hints.empty).output
        attempted.outcome took) fun fault => errorResponse [fault] := by
  rw [result_routeBody_of_logged hf hline ha, htook, ok_bind]

end Paths

end Service

end Waypost
