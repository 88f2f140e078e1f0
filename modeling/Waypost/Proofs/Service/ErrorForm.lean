import Waypost.Proofs.Document.Printable
import Waypost.Proofs.Service.Contract
import Waypost.Service.Batch

/-!
# The form of an error document

An error document is XML when its output type asks for it. Queries and batches hand their output
type on to every error document; a body has none, so that its answers are always JSON.

* `AsksForXml` -- an output type that asks for XML;
* `Response.XmlIff` -- what is XML exactly when a condition holds, and else JSON;
* `errorResponse_form` -- **an error document has the form that its output type asks for**;
* `routeQuery_form`, `routeBulk_form` -- so it is when a query or a batch is refused;
* `routeBody_ends` -- **a body is answered in JSON, or its answer breaks down**.
-/

namespace Waypost

open Text

/-- An output type that asks for XML. -/
def AsksForXml (outputType : Option String) : Prop :=
  ∃ kind, outputType = some kind ∧ lower kind ∈ ["gpx", "xml"]

/-- The content is XML exactly when a condition holds, and else JSON. -/
def Response.XmlIff (response : Response) (asked : Prop) : Prop :=
  (response.IsXml ↔ asked) ∧ (response.IsJson ↔ ¬ asked)

/-- An answer in JSON, or none after a breakdown. -/
def JsonOrBroken (answer : Except Fault Response) : Prop :=
  (∃ response, answer = .ok response ∧ response.IsJson) ∨
    ∃ cause, answer = .error (.unexpected cause)

theorem Response.XmlIff.congr {response : Response} {asked other : Prop} (h : response.XmlIff asked)
    (hiff : asked ↔ other) : response.XmlIff other :=
  ⟨h.1.trans hiff, h.2.trans (not_congr hiff)⟩

/-- Whether a response shows a JSON document. -/
def Response.showsJson (response : Response) : Bool :=
  match response.content with
  | .document _ => response.mediaType == some jsonMediaType
  | .text _ => false

theorem isJson_iff {response : Response} : response.showsJson = true ↔ response.IsJson := by
  unfold Response.showsJson Response.IsJson
  cases response.content with
  | document json => exact beq_iff_eq.trans (and_iff_right ⟨json, rfl⟩).symm
  | text s => exact iff_of_false Bool.false_ne_true (by rintro ⟨⟨_, ⟨⟩⟩, _⟩)

theorem Response.IsJson.xmlIff {response : Response} {asked : Prop} (h : response.IsJson)
    (hnot : ¬ asked) : response.XmlIff asked :=
  ⟨iff_of_false (not_isXml_of_isJson h) hnot, iff_of_true h hnot⟩

theorem isJson_ofJson (status : Nat) (json : Json) (headers : List (String × String)) :
    (Response.ofJson status json headers).IsJson := ⟨⟨json, rfl⟩, rfl⟩

/-! ## 1. Error documents -/

theorem asksForXml_some {outputType : String} :
    AsksForXml (some outputType) ↔ lower outputType ∈ ["gpx", "xml"] := by
  constructor
  · rintro ⟨kind, hkind, hasks⟩
    cases hkind
    exact hasks
  · intro h
    exact ⟨outputType, rfl, h⟩

/-- Where nothing was sent, JSON stands for it. -/
theorem asksForXml_getD (outputType : Option String) :
    AsksForXml (some (outputType.getD "json")) ↔ AsksForXml outputType := by
  cases outputType with
  | some kind => exact Iff.rfl
  | none =>
    have hjson : lower "json" ∉ ["gpx", "xml"] := by decide +kernel
    exact iff_of_false (fun h => hjson (asksForXml_some.mp h)) (by rintro ⟨_, ⟨⟩, _⟩)

/-- **An error document has the form that its output type asks for.** -/
theorem errorResponse_form {faults : List Fault} {outputType : Option String} {creator : String}
    {response : Response} (h : errorResponse faults outputType creator = .ok response) :
    response.XmlIff (AsksForXml outputType) := by
  cases outputType with
  | none =>
    unfold errorResponse at h
    obtain ⟨json, -, h⟩ := bind_eq_ok.mp h
    cases h
    exact (isJson_ofJson _ json _).xmlIff (by rintro ⟨_, ⟨⟩, _⟩)
  | some kind =>
    obtain ⟨-, hxml, hjson, -⟩ := errorResponse_says h
    have hform : response.XmlIff (lower kind ∈ ["gpx", "xml"]) := forms_of_type hxml hjson
    exact hform.congr asksForXml_some.symm

namespace Service

/-! ## 2. Queries and batches -/

/-- A query is refused in the form that its output type asks for. -/
theorem routeQuery_form {service : Service} {q : RouteQuery} {raw : Grouped} {caller : Caller}
    {clock : Clock} {response : Response}
    (h : (service.routeQuery q raw caller clock).result = .ok response)
    (hstatus : response.status = 400) : response.XmlIff (AsksForXml (some q.outputType)) := by
  rcases routeQuery_cases h with ⟨outcome, took, content, -, -, rfl⟩ | ⟨faults, -, hanswer⟩
  · rw [status_delivered] at hstatus
    cases hstatus
  · exact errorResponse_form hanswer

/-- So is a batch. -/
theorem routeBulk_form {service : Service} {bulk : BulkRequest} {q : BulkQuery} {raw : Grouped}
    {clock : Clock} {response : Response}
    (h : (service.routeBulk bulk q raw clock).result = .ok response)
    (hstatus : response.status = 400) : response.XmlIff (AsksForXml (some q.outputType)) := by
  unfold routeBulk at h
  split at h
  · exact errorResponse_form h
  · rw [Run.result_bind] at h
    obtain ⟨hints, -, h⟩ := bind_eq_ok.mp h
    rw [Run.result_bind] at h
    obtain ⟨entries, -, h⟩ := bind_eq_ok.mp h
    rw [Run.result_bind] at h
    obtain ⟨_, -, h⟩ := bind_eq_ok.mp h
    rw [Run.result_bind] at h
    obtain ⟨took, -, h⟩ := bind_eq_ok.mp h
    cases h
    cases hstatus

/-! ## 3. Bodies -/

theorem jsonOrBroken_of_broken {fault : Fault} (h : fault.Broken) :
    JsonOrBroken (.error fault) := by
  obtain ⟨cause, rfl⟩ := h.exists_cause
  exact Or.inr ⟨cause, rfl⟩

theorem jsonOrBroken_errorResponse {faults : List Fault} (hne : faults ≠ []) :
    JsonOrBroken (errorResponse faults) := by
  cases faults with
  | nil => exact absurd rfl hne
  | cons first rest => exact Or.inl ⟨_, rfl, isJson_ofJson _ _ _⟩

theorem broken_output (h : Hints) : FailsOnly Fault.Broken h.output := by
  rcases output_cases h with ⟨options, hoptions⟩ | hlarge
  · exact failsOnly_of_ok ⟨options, hoptions⟩
  · rw [hlarge]
    exact failsOnly_error trivial

/-- A document that is written, or refused over a bad value, is one in JSON. -/
theorem jsonOrBroken_written {document : Except Fault Response}
    (hjson : ∀ response, document = .ok response → response.IsJson)
    (hbroken : FailsOnly Fault.Broken document) :
    JsonOrBroken (written document fun fault => errorResponse [fault]) := by
  unfold written
  cases hdocument : document with
  | error fault =>
    dsimp only
    split
    · exact jsonOrBroken_errorResponse (List.cons_ne_nil _ _)
    · exact jsonOrBroken_of_broken (hbroken fault hdocument)
  | ok response => exact Or.inl ⟨response, rfl, hjson response hdocument⟩

theorem isJson_routeDocument {service : Service} {output : Except Fault OutputOptions}
    {outcome : Outcome} {took : Int} {response : Response}
    (h : service.routeDocument output outcome took = .ok response) : response.IsJson := by
  unfold routeDocument at h
  obtain ⟨options, -, h⟩ := bind_eq_ok.mp h
  obtain ⟨json, -, h⟩ := bind_eq_ok.mp h
  cases h
  exact isJson_ofJson _ _ _

theorem broken_routeDocument (service : Service) (h : Hints) (outcome : Outcome) (took : Int) :
    FailsOnly Fault.Broken (service.routeDocument h.output outcome took) :=
  (broken_output h).bind fun options _ =>
    (broken_routeJson options _ outcome).bind fun _ _ => failsOnly_of_ok ⟨_, rfl⟩

/-- **A body is answered in JSON, or its answer breaks down**, whatever resolver, transformer and
    engine do. -/
theorem routeBody_ends (service : Service) (body : RouteBody) (caller : Caller) (clock : Clock) :
    JsonOrBroken (service.routeBody body caller clock).result := by
  obtain ⟨attempted, ha, -⟩ := result_run service (Request.ofBody service.options body)
  cases hline : logOutcome attempted.outcome with
  | error fault =>
    rw [result_routeBody_of_unlogged hline ha]
    exact jsonOrBroken_of_broken (broken_logOutcome _ fault hline)
  | ok line =>
    by_cases hf : attempted.outcome.faults = []
    · rw [result_routeBody_of_logged hf hline ha]
      refine jsonOrBroken_written (fun response hresponse => ?_) ?_
      · obtain ⟨took, -, hdocument⟩ := bind_eq_ok.mp hresponse
        exact isJson_routeDocument hdocument
      · exact (broken_wholeNumber _).bind fun took _ =>
          broken_routeDocument service _ attempted.outcome took
    · rw [result_routeBody_of_faults hf ((exists_logOutcome hf).mp ⟨line, hline⟩) ha]
      exact jsonOrBroken_errorResponse hf

end Service

end Waypost
