import Waypost.Http.App
import Waypost.Proofs.Json.Writable
import Waypost.Proofs.Service.Answer

/-!
# How an answer goes out

An endpoint gives an answer or ends with a fault. What goes out is the answer, if it can be sent,
and otherwise an error document.

* `Response.Sendable` -- an answer that can be written and encoded;
* `told_of_not_sendable` -- any other is lost to a breakdown that can itself be told;
* `sendable_errorsJson` -- the error document of some faults can be sent, if messages and details
  can;
* `sent?` -- what the end of an endpoint sends, or the fault that prevents it;
* `settled_of_sent`, `settled_of_broken` -- the answer itself goes out, or an error document with
  status 500;
* `settled_cases` -- **whatever goes out otherwise is the error document of a classified fault**;
* `App.Reaches` -- a request that is answered by an endpoint with a service;
* `answer_of_sent`, `answer_of_broken` -- **the same for the whole application**;
* `answer_of_unstarted` -- so it is when the service breaks down while it is started.
-/

namespace Waypost

open Text

/-- A response whose content can be written and encoded. -/
def Response.Sendable (response : Response) : Prop :=
  ∃ text, response.content.written = .ok text ∧ encodable text = true

/-- What an answer sends, or the fault that prevents it. -/
def sent? (answer : Except Fault Response) : Except Fault Response := answer >>= sendable

/-! ## 1. What can be sent -/

theorem sendable_ofJson {status : Nat} {json : Json} {headers : List (String × String)} :
    (Response.ofJson status json headers).Sendable ↔ json.writable = true :=
  exists_written json

theorem sent?_of_sendable {response : Response} (h : response.Sendable) :
    sent? (.ok response) = .ok response := by
  obtain ⟨text, htext, hencodable⟩ := h
  show sendable response = .ok response
  unfold sendable
  rw [htext, ok_bind, checkEncoded_eq_ok.mpr hencodable]
  rfl

/-- **What cannot be sent is lost to a breakdown that can itself be told.** -/
theorem told_of_not_sendable {response : Response} (h : ¬ response.Sendable) :
    ∃ fault, sent? (.ok response) = .error fault ∧ fault.Told := by
  have hunsent : FailsOnly Fault.Unsent (sendable response) := by
    unfold sendable
    refine FailsOnly.bind ?_ fun text _ => FailsOnly.bind ?_ fun _ _ => failsOnly_of_ok ⟨_, rfl⟩
    · cases response.content with
      | document json => exact unsent_written json
      | text s => exact failsOnly_of_ok ⟨_, rfl⟩
    · intro fault hfault
      unfold checkEncoded at hfault
      cases hcheck : checkWritten .utf8 text with
      | ok _ =>
        rw [hcheck] at hfault
        cases hfault
      | error why =>
        rw [hcheck] at hfault
        cases hfault
        trivial
  cases hsent : sendable response with
  | error fault => exact ⟨fault, hsent, (hunsent fault hsent).told⟩
  | ok given =>
    unfold sendable at hsent
    obtain ⟨text, htext, hsent⟩ := bind_eq_ok.mp hsent
    obtain ⟨_, hcheck, -⟩ := bind_eq_ok.mp hsent
    exact absurd ⟨text, htext, checkEncoded_eq_ok.mp hcheck⟩ h

theorem sendable_of_sent {answer : Except Fault Response} {response : Response}
    (h : sent? answer = .ok response) : response.Sendable ∧ answer = .ok response := by
  obtain ⟨given, hgiven, h⟩ := bind_eq_ok.mp h
  by_cases hs : given.Sendable
  · have hkept := sent?_of_sendable hs
    cases hkept.symm.trans h
    exact ⟨hs, hgiven⟩
  · obtain ⟨fault, hfault, -⟩ := told_of_not_sendable hs
    cases hfault.symm.trans h

/-- The error document of some faults can be sent exactly when it is writable. -/
theorem sendable_errorsJson {faults : List Fault} (hf : faults ≠ [])
    (h : ∀ fault ∈ faults,
      fault.message.writable = true ∧ membersWritable fault.details = true) :
    ∃ response, errorResponse faults = .ok response ∧ response.Sendable ∧
      response.status = 400 := by
  obtain ⟨first, rest, rfl⟩ := List.exists_cons_of_ne_nil hf
  exact ⟨_, rfl, sendable_ofJson.mpr (writable_errorsJsonFrom h), rfl⟩

/-- The document of a breakdown that can be told. -/
theorem sendable_brokenDown {fault : Fault} (h : fault.Told) :
    (Response.ofJson 500 (errorsJsonFrom fault [])).Sendable := by
  refine sendable_ofJson.mpr (writable_errorsJsonFrom (List.forall_mem_singleton.mpr ?_))
  refine ⟨h.writable_message, ?_⟩
  obtain ⟨cause, rfl, -⟩ := h
  rfl

/-! ## 2. What goes out -/

section Settled

variable {settings : Settings} {request : HttpRequest} {answer : Run Response}

/-- An answer that can be sent goes out, with the headers about its origin. -/
theorem settled_of_sent {response : Response} (h : sent? answer.result = .ok response) :
    (settled settings request answer).result = .ok (withOrigin settings request response) := by
  have hend : (do sendable (← answer) : Run Response).result = .ok response :=
    (Run.result_bind _ _).trans h
  unfold settled
  rw [Run.bind_of_ok (Run.result_attempt _), hend]
  rfl

/-- What is settled with a fault: its error document if it has a classification and can be sent, and
    otherwise a document with status 500, if that can be sent. -/
theorem result_settled_of_fault {fault : Fault} (h : sent? answer.result = .error fault) :
    (settled settings request answer).result =
      match faultResponse settings request fault with
      | .ok response => .ok (withOrigin settings request response)
      | .error cause => sendable (.ofJson 500 (errorsJsonFrom cause [])) := by
  have hend : (do sendable (← answer) : Run Response).result = .error fault :=
    (Run.result_bind _ _).trans h
  unfold settled
  rw [Run.bind_of_ok (Run.result_attempt _), hend]
  dsimp only
  cases faultResponse settings request fault <;> rfl

/-- After a breakdown that can be told an error document goes out with status 500. -/
theorem settled_of_broken {fault : Fault} (h : sent? answer.result = .error fault)
    (htold : fault.Told) :
    (settled settings request answer).result = .ok (.ofJson 500 (errorsJsonFrom fault [])) := by
  have hdocument := sent?_of_sendable (sendable_brokenDown htold)
  obtain ⟨cause, rfl, -⟩ := htold
  exact (result_settled_of_fault h).trans hdocument

theorem faultResponse_eq_ok {fault : Fault} {response : Response}
    (h : faultResponse settings request fault = .ok response) : fault.isClassified = true ∧
      errorResponse [fault] request.outputType? settings.gpxCreator = .ok response := by
  unfold faultResponse at h
  cases hclassified : fault.isClassified with
  | false =>
    rw [hclassified] at h
    cases h
  | true =>
    rw [hclassified] at h
    exact ⟨rfl, (sendable_of_sent h).2⟩

/-- **What goes out with another status than 500** is the answer of the endpoint, or the error
    document of the classified fault that it ended with. -/
theorem settled_cases {response : Response}
    (h : (settled settings request answer).result = .ok response) (hstatus : response.status ≠ 500) :
    ∃ given, response = withOrigin settings request given ∧
      (answer.result = .ok given ∨
        ∃ fault, answer.result = .error fault ∧ fault.isClassified = true ∧
          errorResponse [fault] request.outputType? settings.gpxCreator = .ok given) := by
  cases hsent : sent? answer.result with
  | ok given =>
    rw [settled_of_sent hsent] at h
    cases h
    exact ⟨given, rfl, Or.inl (sendable_of_sent hsent).2⟩
  | error fault =>
    rw [result_settled_of_fault hsent] at h
    cases hfault : faultResponse settings request fault with
    | error cause =>
      rw [hfault] at h
      have hdocument : sent? (.ok (.ofJson 500 (errorsJsonFrom cause []))) = .ok response := h
      cases (sendable_of_sent hdocument).2
      exact absurd rfl hstatus
    | ok given =>
      rw [hfault] at h
      cases h
      obtain ⟨hclassified, hanswer⟩ := faultResponse_eq_ok hfault
      refine ⟨given, rfl, Or.inr ⟨fault, ?_, hclassified, hanswer⟩⟩
      -- a document that cannot be sent leaves a fault without a classification
      cases hend : answer.result with
      | error cause =>
        rw [hend] at hsent
        exact hsent
      | ok document =>
        have hunsent : ¬ document.Sendable := fun hs => by
          rw [hend, sent?_of_sendable hs] at hsent
          cases hsent
        obtain ⟨lost, hlost, cause, rfl, -⟩ := told_of_not_sendable hunsent
        rw [hend, hlost] at hsent
        cases hsent
        cases hclassified

end Settled

/-! ## 3. The application -/

/-- A request that is answered by an endpoint with a service: its path leads there, and there is the
    service or it can be started. -/
structure App.Reaches (app : App) (service : Service) (e : ServiceEndpoint) (request : HttpRequest)
    (bound : Members) : Prop where
  found : findEndpoint app.paths request.method request.path = .ok (.found (.service e) bound)
  served : app.service = some service ∨
    app.service = none ∧ app.configured = true ∧ app.start.result = .ok service

/-- The body that an endpoint reads. -/
def ServiceEndpoint.bodyOf (e : ServiceEndpoint) (request : HttpRequest) : Body :=
  if e.takesBody then request.readBody else .absent

/-- A body that passes a check can be read. -/
theorem unreadableBody?_of_passed {α : Type} {check : Json → Check α} {body : Body} {value : α}
    (h : body.check check = .passed value) : App.unreadableBody? body = none := by
  cases body with
  | json value => rfl
  | absent | opaqueBytes | malformed | unreadable => cases h

namespace App

section Found

variable {app : App} {e : ServiceEndpoint} {request : HttpRequest} {bound : Members}
  (hfound : findEndpoint app.paths request.method request.path = .ok (.found (.service e) bound))

/-- An endpoint answers a body that cannot be read without the service, and any other with it. -/
theorem answerEndpoint_eq (clock : Clock) : app.answerEndpoint (.service e) request bound clock =
    match unreadableBody? (e.bodyOf request) with
    | some early => (early, app)
    | none => app.withService fun service =>
        service.answer e request bound (e.bodyOf request) clock := rfl

include hfound

/-- What the endpoint that is found answers is settled. -/
theorem answer_of_found (clock : Clock) : (app.answer request clock).1 =
    settled app.settings request (app.answerEndpoint (.service e) request bound clock).1 := by
  unfold App.answer
  rw [hfound]

/-- What answers with another status than 503 is a service that is there, or was started. -/
theorem reaches_of_answered {answer : Service → Run Response} {given : Response}
    (h : (app.withService answer).1.result = .ok given) (hstatus : given.status ≠ 503) :
    ∃ service, app.Reaches service e request bound ∧ (answer service).result = .ok given := by
  unfold withService at h
  cases hservice : app.service with
  | some service =>
    rw [hservice] at h
    exact ⟨service, ⟨hfound, Or.inl hservice⟩, h⟩
  | none =>
    rw [hservice] at h
    cases hconfigured : app.configured with
    | false =>
      rw [hconfigured] at h
      cases h
      exact absurd rfl hstatus
    | true =>
      rw [hconfigured] at h
      obtain ⟨service, hstart, hanswer⟩ := bind_eq_ok.mp ((Run.result_bind _ _).symm.trans h)
      exact ⟨service, ⟨hfound, Or.inr ⟨hservice, hconfigured, hstart⟩⟩, hanswer⟩

variable (hbody : unreadableBody? (e.bodyOf request) = none) (clock : Clock)
include hbody

/-- The endpoint answers with the service, and its answer is settled. -/
theorem answer_eq : (app.answer request clock).1 = settled app.settings request
    (app.withService fun service =>
      service.answer e request bound (e.bodyOf request) clock).1 := by
  rw [answer_of_found hfound clock, answerEndpoint_eq, hbody]

/-- A service that breaks down while it is started is answered with status 500, if the breakdown can
    be told. -/
theorem answer_of_unstarted (hnone : app.service = none) (hconfigured : app.configured = true)
    {fault : Fault} (hstart : app.start.result = .error fault) (htold : fault.Told) :
    (app.answer request clock).1.result = .ok (.ofJson 500 (errorsJsonFrom fault [])) := by
  rw [answer_eq hfound hbody clock]
  refine settled_of_broken ?_ htold
  unfold withService
  rw [hnone, hconfigured]
  show sent? (app.start >>= _).result = _
  rw [Run.result_bind, hstart]
  rfl

end Found

section Reached

variable {app : App} {service : Service} {e : ServiceEndpoint} {request : HttpRequest}
  {bound : Members} (h : app.Reaches service e request bound)
include h

/-- What is asked of the service comes to what the service comes to. -/
theorem result_withService (answer : Service → Run Response) :
    (app.withService answer).1.result = (answer service).result := by
  unfold withService
  rcases h.served with hservice | ⟨hnone, hconfigured, hstart⟩
  · rw [hservice]
  · rw [hnone, hconfigured]
    show (app.start >>= _).result = _
    rw [Run.result_bind, hstart]
    rfl

variable (hbody : unreadableBody? (e.bodyOf request) = none) (clock : Clock)
include hbody

/-- The service answers, and its answer is settled. -/
theorem result_answer : ∃ answer : Run Response,
    answer.result = (service.answer e request bound (e.bodyOf request) clock).result ∧
      (app.answer request clock).1 = settled app.settings request answer :=
  ⟨_, result_withService h _, answer_eq h.found hbody clock⟩

/-- **An answer that can be sent goes out.** -/
theorem answer_of_sent {response : Response}
    (hsent : sent? (service.answer e request bound (e.bodyOf request) clock).result =
      .ok response) :
    (app.answer request clock).1.result = .ok (withOrigin app.settings request response) := by
  obtain ⟨answer, hanswer, hsettled⟩ := result_answer h hbody clock
  rw [hsettled]
  exact settled_of_sent (by rw [hanswer]; exact hsent)

/-- **After a breakdown that can be told an error document goes out** with status 500. -/
theorem answer_of_broken {fault : Fault}
    (hsent : sent? (service.answer e request bound (e.bodyOf request) clock).result =
      .error fault) (htold : fault.Told) :
    (app.answer request clock).1.result = .ok (.ofJson 500 (errorsJsonFrom fault [])) := by
  obtain ⟨answer, hanswer, hsettled⟩ := result_answer h hbody clock
  rw [hsettled]
  exact settled_of_broken (by rw [hanswer]; exact hsent) htold

end Reached

end App

end Waypost
