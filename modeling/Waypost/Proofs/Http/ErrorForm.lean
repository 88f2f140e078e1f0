import Waypost.Proofs.Http.EngineAnswers
import Waypost.Proofs.Service.ErrorForm

/-!
# The form of a refusal over HTTP

A request for a route or a batch names in its query string the form of the error document it wants.
Every stage keeps to it but two: a body that cannot be read is answered before the query string is
looked at, and what a body for one route is refused for behind its check is always told in JSON.

* `HttpRequest.AsksForXml` -- a request whose query string asks for XML;
* `App.LosesType` -- the two places where that is not looked at;
* `form_answerQuery`, `form_answerBulk`, `ends_answerBody` -- the answers of the three endpoints;
* `App.error_form` -- **a refusal is XML exactly when its request asks for it and that is looked
  at**.
-/

namespace Waypost

open Text

/-- The query string asks for XML. -/
def HttpRequest.AsksForXml (request : HttpRequest) : Prop := Waypost.AsksForXml request.outputType?

/-- The body that an endpoint reads cannot be read, or it is one for a single route, is read by a
    service and passes its check. -/
inductive App.LosesType (app : App) (e : ServiceEndpoint) (request : HttpRequest)
    (bound : Members) : Prop
  | unread (h : e.bodyOf request = .unreadable)
  | passed (service : Service) (body : RouteBody) (he : e = .routeBody)
      (hreach : app.Reaches service .routeBody request bound)
      (hbody : request.readBody.check (RouteBody.check .byFields) = .passed body)

/-! ## 1. Checked input -/

theorem passed_of_checked {α : Type} {check : Check α} {value : α}
    (h : checked check = .ok value) : check = .passed value := by
  cases check with
  | passed other =>
    cases h
    rfl
  | failed issues => cases h
  | broken cause => cases h

/-- Parameters and request tell the same output type. -/
theorem outputType_of_unbound {request : HttpRequest} {bound : Members} {outputType : String}
    (h : Parameters.unbound ⟨request.grouped, bound⟩ "type" "json" Check.text =
      .passed outputType) : outputType = request.outputType?.getD "json" := by
  have hlast : (Parameters.values ⟨request.grouped, bound⟩ "type").getLast? =
      request.outputType? := by
    unfold Parameters.values HttpRequest.outputType?
    cases request.grouped.lookup "type" <;> rfl
  rw [Parameters.unbound_text, hlast] at h
  exact (Check.passed.inj h).symm

section Endpoints

variable {service : Service} {request : HttpRequest} {bound : Members} {clock : Clock}
  {response : Response}

/-! ## 2. Endpoints -/

/-- A query is refused in the form that its request asks for. -/
theorem form_answerQuery (h : (service.answerQuery request bound clock).result = .ok response)
    (hstatus : response.status = 400) : response.XmlIff request.AsksForXml := by
  unfold Service.answerQuery at h
  rw [Run.result_bind] at h
  obtain ⟨q, hchecked, h⟩ := bind_eq_ok.mp h
  have htype := outputType_of_unbound (fields_of_check (passed_of_checked hchecked)).2
  have hform := Service.routeQuery_form h hstatus
  rw [htype] at hform
  exact hform.congr (asksForXml_getD _)

/-- So is a batch. -/
theorem form_answerBulk {body : Body}
    (h : (service.answerBulk request bound body clock).result = .ok response)
    (hstatus : response.status = 400) : response.XmlIff request.AsksForXml := by
  unfold Service.answerBulk at h
  rw [Run.result_bind] at h
  obtain ⟨⟨q, bulk⟩, hchecked, h⟩ := bind_eq_ok.mp h
  have hq := (Check.passed_of_pair (passed_of_checked hchecked)).1
  have htype := outputType_of_unbound (BulkQuery.outputType_of_check hq)
  have hform := Service.routeBulk_form h hstatus
  rw [htype] at hform
  exact hform.congr (asksForXml_getD _)

theorem status_engineHealth (h : service.engineHealth.result = .ok response) :
    response.status = 200 := by
  unfold Service.engineHealth at h
  rw [Run.result_bind] at h
  obtain ⟨ending, -, h⟩ := bind_eq_ok.mp h
  cases ending with
  | ok healthy =>
    cases h
    rfl
  | error fault =>
    dsimp only at h
    rw [Run.result_bind] at h
    obtain ⟨text, -, h⟩ := bind_eq_ok.mp h
    cases h
    rfl

/-- A body that passes its check is answered in JSON, or its answer breaks down. -/
theorem ends_answerBody {body : Body} {value : RouteBody}
    (hbody : body.check (RouteBody.check .byFields) = .passed value) :
    JsonOrBroken (service.answerBody request body clock).result := by
  unfold Service.answerBody
  rw [hbody]
  exact service.routeBody_ends value _ clock

/-- A body is not answered before it passes its check. -/
theorem passed_of_answerBody {body : Body}
    (h : (service.answerBody request body clock).result = .ok response) :
    ∃ value, body.check (RouteBody.check .byFields) = .passed value := by
  unfold Service.answerBody at h
  rw [Run.result_bind] at h
  obtain ⟨value, hchecked, -⟩ := bind_eq_ok.mp h
  exact ⟨value, passed_of_checked hchecked⟩

end Endpoints

/-! ## 3. The application -/

/-- The headers about the origin leave the form of an answer as it is. -/
theorem xmlIff_withOrigin {settings : Settings} {request : HttpRequest} {given : Response}
    {asked : Prop} : (withOrigin settings request given).XmlIff asked ↔ given.XmlIff asked :=
  Iff.rfl

namespace App

section Found

variable {app : App} {e : ServiceEndpoint} {request : HttpRequest} {bound : Members} {clock : Clock}
  (hfound : findEndpoint app.paths request.method request.path = .ok (.found (.service e) bound))
include hfound

/-- **What an endpoint answers itself with status 400** is XML exactly when the request asks for it
    and that is looked at. -/
theorem form_of_given {given : Response}
    (h : (app.answerEndpoint (.service e) request bound clock).1.result = .ok given)
    (hstatus : given.status = 400) :
    given.XmlIff (request.AsksForXml ∧ ¬ app.LosesType e request bound) := by
  rw [answerEndpoint_eq] at h
  cases hbody : unreadableBody? (e.bodyOf request) with
  | some early =>
    rw [hbody] at h
    cases hread : e.bodyOf request with
    | unreadable =>
      rw [hread] at hbody
      cases hbody
      cases h
      exact (isJson_ofJson _ _ _).xmlIff fun hasks => hasks.2 (.unread hread)
    | malformed index =>
      rw [hread] at hbody
      cases hbody
      cases h
    | absent | opaqueBytes | json =>
      rw [hread] at hbody
      cases hbody
  | none =>
    rw [hbody] at h
    have hreadable : e.bodyOf request ≠ .unreadable := by
      intro hunreadable
      rw [hunreadable] at hbody
      cases hbody
    have hnot503 : given.status ≠ 503 := by
      rw [hstatus]
      decide
    obtain ⟨service, hreach, hanswer⟩ := reaches_of_answered hfound h hnot503
    have hkeeps : e ≠ .routeBody → ¬ app.LosesType e request bound := by
      rintro hne (hunread | ⟨-, -, he, -, -⟩)
      · exact hreadable hunread
      · exact hne he
    cases e with
    | engineHealth =>
      rw [status_engineHealth hanswer] at hstatus
      cases hstatus
    | info =>
      cases hanswer
      cases hstatus
    | routeQuery =>
      exact (form_answerQuery hanswer hstatus).congr (and_iff_left (hkeeps nofun)).symm
    | bulk => exact (form_answerBulk hanswer hstatus).congr (and_iff_left (hkeeps nofun)).symm
    | routeBody =>
      obtain ⟨body, hpassed⟩ := passed_of_answerBody hanswer
      have hjson : given.IsJson := by
        rcases ends_answerBody hpassed with ⟨response, hresponse, hjson⟩ | ⟨cause, hbroken⟩
        · cases hresponse.symm.trans hanswer
          exact hjson
        · cases hbroken.symm.trans hanswer
      exact hjson.xmlIff fun hasks => hasks.2 (.passed service body rfl hreach hpassed)

/-- Where the output type is not looked at, an endpoint ends with no classified fault. -/
theorem not_losesType_of_fault {fault : Fault}
    (h : (app.answerEndpoint (.service e) request bound clock).1.result = .error fault)
    (hclassified : fault.isClassified = true) : ¬ app.LosesType e request bound := by
  rw [answerEndpoint_eq] at h
  rintro (hunread | ⟨service, body, rfl, hreach, hpassed⟩)
  · rw [hunread] at h
    cases h
  · have hbody : unreadableBody? (ServiceEndpoint.routeBody.bodyOf request) = none :=
      unreadableBody?_of_passed hpassed
    rw [hbody] at h
    dsimp only at h
    rw [result_withService hreach] at h
    rcases ends_answerBody hpassed with ⟨response, hresponse, -⟩ | ⟨cause, hbroken⟩
    · cases hresponse.symm.trans h
    · cases hbroken.symm.trans h
      cases hclassified

/-- **The form of a refusal.** Whatever stage refuses a request with status 400, be it the check of
    its parameters, the reading of its body, the start of the service, or the service and its
    engine: the answer is XML when the query string asks for it, and else JSON. Only where a body
    cannot be read, and behind the check of a body for one route, it is JSON in any case. -/
theorem error_form {response : Response}
    (hanswer : (app.answer request clock).1.result = .ok response)
    (hstatus : response.status = 400) :
    response.XmlIff (request.AsksForXml ∧ ¬ app.LosesType e request bound) := by
  rw [answer_of_found hfound] at hanswer
  have hnot500 : response.status ≠ 500 := by
    rw [hstatus]
    decide
  obtain ⟨given, rfl, hend⟩ := settled_cases hanswer hnot500
  rw [xmlIff_withOrigin]
  rcases hend with hgiven | ⟨fault, hfault, hclassified, hdocument⟩
  · exact form_of_given hfound hgiven hstatus
  · have hkept := not_losesType_of_fault hfound hfault hclassified
    exact (errorResponse_form hdocument).congr (and_iff_left hkept).symm

end Found

/-- A query for GPX without points. -/
def pointlessQuery : HttpRequest where
  path := "/route"
  query := "type=GPX"

theorem error_form_pointlessQuery :
    lakeApp.Reaches lake .routeQuery pointlessQuery [] ∧ pointlessQuery.AsksForXml ∧
      ∃ response, (lakeApp.answer pointlessQuery {}).1.result = .ok response ∧
        response.status = 400 ∧ response.IsXml := by
  have hreach : lakeApp.Reaches lake .routeQuery pointlessQuery [] :=
    reaches_lake (by decide +kernel)
  have hasks : pointlessQuery.AsksForXml := ⟨"GPX", by decide +kernel, by decide +kernel⟩
  have hrefused : (lakeApp.answer pointlessQuery {}).1.result.toOption.any
      (·.status == 400) = true := by decide +kernel
  obtain ⟨response, hresponse, hstatus⟩ := exists_ok_of_any hrefused
  have hstatus : response.status = 400 := beq_iff_eq.mp hstatus
  have hkept : ¬ lakeApp.LosesType .routeQuery pointlessQuery [] := by
    rintro (hunread | ⟨-, -, ⟨⟩, -, -⟩)
    cases hunread
  have hform := error_form hreach.found hresponse hstatus
  exact ⟨hreach, hasks, response, hresponse, hstatus, hform.1.mpr ⟨hasks, hkept⟩⟩

/-- A body without points, where GPX is asked for. -/
def pointlessBody : HttpRequest where
  method := "POST"
  path := "/route"
  query := "type=gpx"
  headers := [("content-type", "application/json")]
  body := "\x7b\"points\":[]\x7d"

/-- A batch whose bytes are no text, where GPX is asked for. -/
def garbledBatch : HttpRequest where
  method := "POST"
  path := "/route/bulk"
  query := "type=gpx"
  headers := [("content-type", "application/json")]
  body := "\x7b\x00\x00\x00\""

/-- A body is refused in JSON, and so is a batch that cannot be read, though both ask for XML. -/
theorem error_form_lost :
    (lakeApp.Reaches lake .routeBody pointlessBody [] ∧
      lakeApp.Reaches lake .bulk garbledBatch []) ∧
      ∀ request ∈ [pointlessBody, garbledBatch], request.AsksForXml ∧
        ∃ response, (lakeApp.answer request {}).1.result = .ok response ∧
          response.status = 400 ∧ response.IsJson ∧ ¬ response.IsXml := by
  have hread : ∀ request ∈ [pointlessBody, garbledBatch],
      request.outputType? = some "gpx" ∧ (lakeApp.answer request {}).1.result.toOption.any
        (fun response => response.status == 400 && response.showsJson) = true := by
    decide +kernel
  refine ⟨⟨reaches_lake (by decide +kernel), reaches_lake (by decide +kernel)⟩, ?_⟩
  intro request hrequest
  obtain ⟨htype, hrefused⟩ := hread request hrequest
  obtain ⟨response, hresponse, hshown⟩ := exists_ok_of_any hrefused
  rw [Bool.and_eq_true, beq_iff_eq, isJson_iff] at hshown
  exact ⟨⟨"gpx", htype, by decide +kernel⟩, response, hresponse, hshown.1, hshown.2,
    not_isXml_of_isJson hshown.2⟩

end App

end Waypost
