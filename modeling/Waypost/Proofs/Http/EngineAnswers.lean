import Waypost.Proofs.Http.Sent

/-!
# Requests over an OSRM service

Whatever the service answers, and however the network fails, every request is answered. With
customary options the answer is a document or an error document exactly when what was read can be
written and sent, and the document of a breakdown otherwise.

* `Service.OverOsrm` -- a service over an OSRM engine (`overOsrm_start`);
* `App.AnswersOutcome` -- a request that is answered with the document of an outcome;
* `App.AnswersBatch` -- the same for a batch and its legs;
* `App.osrm_not_started` -- a request that cannot start the service is answered with status 500;
* `App.osrm_answered` -- **what queries, bodies and batches are answered with**.
-/

namespace Waypost

open Decimal Text

/-- A service over an OSRM engine, with configured profiles and a pool that completes all tasks. -/
structure Service.OverOsrm (service : Service) (config : OsrmConfig) (transport : Transport)
    (names : List String) : Prop where
  engine : service.engine = osrmEngine config transport
  resolver : service.resolver = configuredProfiles names
  transformer : service.transformer = keepRequest
  schedule : service.schedule.Fair

/-! ## 1. The start of a service -/

theorem own_askProperties (config : OsrmConfig) (transport : Transport) :
    FailsOnly Fault.Own (askProperties config transport).result := by
  unfold askProperties
  rw [Run.result_bind]
  refine (broken_callOf _ _).own.bind fun call _ => ?_
  rw [Run.result_bind]
  refine (broken_exchange transport call).own.bind fun reply _ => ?_
  cases reply with
  | error reason => exact failsOnly_of_ok ⟨_, rfl⟩
  | ok answer =>
    dsimp only
    split
    · exact failsOnly_of_ok ⟨_, rfl⟩
    · exact failsOnly_error trivial
    · exact failsOnly_of_ok ⟨_, rfl⟩

theorem broken_propertiesOfContent (content : Json) :
    FailsOnly Fault.Broken (propertiesOfContent content) := by
  unfold propertiesOfContent
  split
  · dsimp only
    split
    · exact (broken_writtenText _).bind fun _ _ => failsOnly_of_ok ⟨_, rfl⟩
    · exact failsOnly_of_ok ⟨_, rfl⟩
  · exact failsOnly_of_ok ⟨_, rfl⟩

/-- A service over an OSRM engine that cannot be started broke down. -/
theorem broken_osrmProperties (config : OsrmConfig) (transport : Transport) :
    FailsOnly Fault.Broken (osrmProperties config transport).result := by
  intro fault h
  unfold osrmProperties at h
  rw [Run.bind_of_ok (Run.result_attempt _)] at h
  dsimp only at h
  cases hasked : (askProperties config transport).result with
  | ok asked =>
    rw [hasked] at h
    cases asked with
    | ok content => exact broken_propertiesOfContent content fault h
    | error reason => cases h
  | error cause =>
    rw [hasked] at h
    have hown : cause.Own := own_askProperties config transport cause hasked
    cases cause with
    | reported kind message details => exact hown.elim
    | refused reason => cases h
    | unexpected broken =>
      dsimp only at h
      split at h
      · rw [Run.result_bind] at h
        cases h
      · cases h
        trivial

/-- A service that was started over an OSRM engine is one. -/
theorem overOsrm_start {config : OsrmConfig} {transport : Transport} {names : List String}
    {settings : Settings} {service : Service}
    (h : (Service.start (osrmEngine config transport) (configuredProfiles names) settings).result =
      .ok service) : service.OverOsrm config transport names := by
  unfold Service.start at h
  rw [Run.result_bind] at h
  obtain ⟨members, -, h⟩ := bind_eq_ok.mp h
  cases h
  exact ⟨rfl, rfl, rfl, fun n => List.Perm.refl _⟩

/-! ## 2. What goes out -/

/-- A request that is answered for an outcome of a service: with a document or an error document
    when the outcome is printable, and otherwise with the document of a breakdown. -/
def App.AnswersOutcome (app : App) (service : Service) (request : HttpRequest) (clock : Clock)
    (outcome : Outcome) : Prop :=
  ∃ response, (app.answer request clock).1.result = .ok response ∧ response.Sendable ∧
    (outcome.Printable service → response.status = if outcome.hasFaults then 400 else 200) ∧
    (¬ outcome.Printable service → response.status = 500)

/-- A request that is answered for a batch: with one object for each destination when the batch is
    measured, and otherwise with the document of a breakdown. -/
def App.AnswersBatch (app : App) (service : Service) (request : HttpRequest) (clock : Clock)
    (destinations : List Destination) (route : LegRoute) : Prop :=
  ∃ response, (app.answer request clock).1.result = .ok response ∧ response.Sendable ∧
    (BatchMeasured service.settings.bulkCopyrights destinations route →
      response.status = 200 ∧ ∃ info items,
        response.content = .document (.obj [("info", info), ("data", .arr items)]) ∧
          List.Forall₂ AnswersFor destinations items) ∧
    (¬ BatchMeasured service.settings.bulkCopyrights destinations route → response.status = 500)

section Answers

variable {app : App} {service : Service} {e : ServiceEndpoint} {request : HttpRequest}
  {bound : Members} (h : app.Reaches service e request bound)
  (hbody : App.unreadableBody? (e.bodyOf request) = none) {clock : Clock}
include h hbody

theorem answersOutcome_of_sent {outcome : Outcome}
    (hsent : SentFor service outcome
      (sent? (service.answer e request bound (e.bodyOf request) clock).result)) :
    app.AnswersOutcome service request clock outcome := by
  by_cases hprintable : outcome.Printable service
  · obtain ⟨response, hresponse, hstatus⟩ := hsent.answer hprintable
    -- the headers about the origin change neither status nor content
    have hsendable : (withOrigin app.settings request response).Sendable :=
      (sendable_of_sent hresponse).1
    exact ⟨_, App.answer_of_sent h hbody clock hresponse, hsendable, fun _ => hstatus,
      fun hnot => absurd hprintable hnot⟩
  · obtain ⟨fault, hfault, htold⟩ := hsent.breakdown hprintable
    exact ⟨_, App.answer_of_broken h hbody clock hfault htold, sendable_brokenDown htold,
      fun hp => absurd hp hprintable, fun _ => rfl⟩

end Answers

/-! ## 3. The three endpoints -/

section Osrm

variable {service : Service} {config : OsrmConfig} {transport : Transport} {names : List String}
  (hosrm : service.OverOsrm config transport names)
include hosrm

/-- Every run over the service comes to a regular outcome. -/
theorem regular_run {built : Except Fault Request} (hbuilt : FailsOnly Fault.Own built) :
    ∃ attempted, (service.run built).result = .ok attempted ∧ attempted.outcome.Regular ∧
      (attempted.outcome.faults = [] → attempted.outcome.paths ≠ []) := by
  refine Service.run_keeps hosrm.transformer hosrm.resolver (fun fault h => regular_of_own h) ?_
    hbuilt
  rw [hosrm.engine]
  exact regular_invokeOsrm config transport

/-- Every outcome of a leg over the service is regular. -/
theorem regular_legRoute {q : BulkQuery} {hints : Hints} {origin : Point} {d : Destination}
    {outcome : Outcome} (h : (service.legRoute q hints origin d).result = .ok outcome) :
    outcome.Regular := by
  have hbuilt : FailsOnly Fault.Own
      (Request.ofLeg (service.legOptions q hints) origin d.point) := own_validate _
  rw [Service.result_legRoute] at h
  obtain ⟨attempted, ha, hsame, -⟩ :=
    Service.result_run service (Request.ofLeg (service.legOptions q hints) origin d.point)
  obtain ⟨attempted', ha', hregular, -⟩ := regular_run hosrm hbuilt
  cases ha.symm.trans ha'
  rw [h] at hsame
  have hsame : attempted.outcome = outcome := hsame
  rwa [hsame] at hregular

variable {app : App} {request : HttpRequest} {bound : Members} {clock : Clock}
  (hclock : clock.millis.isFinite = true)
include hclock

theorem answersOutcome_routeQuery (h : app.Reaches service .routeQuery request bound)
    {q : RouteQuery} (hq : RouteQuery.check ⟨request.grouped, bound⟩ = .passed q)
    (htrack : q.writesTrack = false) (houtput : q.output = {}) : ∃ attempted,
      (service.run (Request.ofQuery service.options q request.grouped)).result = .ok attempted ∧
        app.AnswersOutcome service request clock attempted.outcome := by
  obtain ⟨attempted, ha, hregular, hpaths⟩ :=
    regular_run hosrm (own_ofQuery service.options q request.grouped)
  have hanswer : (service.answer .routeQuery request bound
      (ServiceEndpoint.routeQuery.bodyOf request) clock).result =
        (service.routeQuery q request.grouped (Caller.of request) clock).result := by
    unfold Service.answer Service.answerQuery
    dsimp only
    rw [hq]
    rfl
  refine ⟨attempted, ha, answersOutcome_of_sent h rfl ?_⟩
  rw [hanswer]
  exact Service.sent_routeQuery _ hclock hregular hpaths htrack houtput ha

theorem answersOutcome_routeBody (h : app.Reaches service .routeBody request bound)
    {body : RouteBody} (hbody : request.readBody.check (RouteBody.check .byFields) = .passed body)
    (houtput : ∀ hints, Hints.ofBody body.extra = .ok hints → hints.output = .ok {}) :
    ∃ attempted, (service.run (Request.ofBody service.options body)).result = .ok attempted ∧
      app.AnswersOutcome service request clock attempted.outcome := by
  obtain ⟨attempted, ha, hregular, hpaths⟩ :=
    regular_run hosrm (own_ofBody service.options body)
  have hanswer : (service.answer .routeBody request bound
      (ServiceEndpoint.routeBody.bodyOf request) clock).result =
        (service.routeBody body (Caller.of request) clock).result := by
    have hread : ServiceEndpoint.routeBody.bodyOf request = request.readBody := rfl
    unfold Service.answer Service.answerBody
    dsimp only
    rw [hread, hbody]
    rfl
  refine ⟨attempted, ha, answersOutcome_of_sent h (unreadableBody?_of_passed hbody) ?_⟩
  rw [hanswer]
  exact Service.sent_routeBody _ hclock hregular hpaths hosrm.transformer houtput ha

theorem answersBatch_routeBulk (h : app.Reaches service .bulk request bound) {q : BulkQuery}
    (hq : BulkQuery.check ⟨request.grouped, bound⟩ = .passed q) {bulk : BulkRequest}
    (hbulk : request.readBody.check (BulkRequest.check .byFields) = .passed bulk) {hints : Hints}
    {origin : Point} (hhints : Hints.shared q request.grouped = .ok hints)
    (horigin : bulk.checkedOrigin = .ok origin) :
    app.AnswersBatch service request clock bulk.destinations
      (service.legRoute q hints origin) := by
  have hreadable := unreadableBody?_of_passed hbulk
  have hanswer : (service.answer .bulk request bound (ServiceEndpoint.bulk.bodyOf request)
      clock).result = (service.routeBulk bulk q request.grouped clock).result := by
    have hread : ServiceEndpoint.bulk.bodyOf request = request.readBody := rfl
    unfold Service.answer Service.answerBulk
    dsimp only
    rw [hread, hbulk, hq]
    rfl
  by_cases hmeasured : BatchMeasured service.settings.bulkCopyrights bulk.destinations
      (service.legRoute q hints origin)
  · obtain ⟨response, info, items, hresponse, hstatus, hcontent, hitems⟩ :=
      Service.sent_routeBulk_of_measured hosrm.schedule (fun _ _ => regular_legRoute hosrm) hhints
        horigin hclock hmeasured
    have hsendable : (withOrigin app.settings request response).Sendable :=
      (sendable_of_sent hresponse).1
    rw [← hanswer] at hresponse
    exact ⟨_, App.answer_of_sent h hreadable clock hresponse, hsendable,
      fun _ => ⟨hstatus, info, items, hcontent, hitems⟩, fun hnot => absurd hmeasured hnot⟩
  · obtain ⟨fault, hbroken, htold⟩ := Service.sent_routeBulk_of_unmeasured hosrm.schedule
      (fun _ _ => regular_legRoute hosrm) hhints horigin hclock hmeasured
    rw [← hanswer] at hbroken
    exact ⟨_, App.answer_of_broken h hreadable clock hbroken htold, sendable_brokenDown htold,
      fun hall => absurd hall hmeasured, fun _ => rfl⟩

end Osrm

/-- **A request that cannot start the service over an OSRM engine** is answered with status 500, if
    the breakdown behind it can be told. -/
theorem App.osrm_not_started {app : App} {config : OsrmConfig} {transport : Transport}
    {names : List String} {settings : Settings} (hnone : app.service = none)
    (hconfigured : app.configured = true)
    (hstart : app.start = Service.start (osrmEngine config transport) (configuredProfiles names)
      settings) {fault : Fault} (hfault : app.start.result = .error fault) {e : ServiceEndpoint}
    {request : HttpRequest} {bound : Members}
    (hfound : findEndpoint app.paths request.method request.path = .ok (.found (.service e) bound))
    (hbody : App.unreadableBody? (e.bodyOf request) = none) (clock : Clock) :
    fault.Broken ∧ (fault.Told → ∃ response, (app.answer request clock).1.result = .ok response ∧
      response.Sendable ∧ response.status = 500) := by
  have hbroken : fault.Broken := by
    rw [hstart] at hfault
    unfold Service.start at hfault
    rw [Run.result_bind] at hfault
    exact (broken_osrmProperties config transport).bind (fun _ _ => failsOnly_of_ok ⟨_, rfl⟩) _
      hfault
  refine ⟨hbroken, fun htold => ?_⟩
  exact ⟨_, App.answer_of_unstarted hfound hbody clock hnone hconfigured hfault htold,
    sendable_brokenDown htold, rfl⟩

/-- **What requests are answered with over an OSRM service**, whatever it answers. A query and a
    body that ask to see what is customary are answered with status 200 or 400 exactly when their
    outcome is printable, and with status 500 otherwise. A complete batch whose query can be read is
    answered with status 200 and one object for each destination exactly when it is measured, and
    otherwise with status 500. Whatever goes out can be written and encoded. -/
theorem App.osrm_answered (app : App) {service : Service} {config : OsrmConfig}
    {transport : Transport} {names : List String} (hosrm : service.OverOsrm config transport names)
    (request : HttpRequest) (bound : Members) (clock : Clock)
    (hclock : clock.millis.isFinite = true) :
    (app.Reaches service .routeQuery request bound → ∀ q,
      RouteQuery.check ⟨request.grouped, bound⟩ = .passed q → q.writesTrack = false →
        q.output = {} → ∃ attempted,
          (service.run (Request.ofQuery service.options q request.grouped)).result =
            .ok attempted ∧ app.AnswersOutcome service request clock attempted.outcome) ∧
    (app.Reaches service .routeBody request bound → ∀ body,
      request.readBody.check (RouteBody.check .byFields) = .passed body →
        (∀ hints, Hints.ofBody body.extra = .ok hints → hints.output = .ok {}) → ∃ attempted,
          (service.run (Request.ofBody service.options body)).result = .ok attempted ∧
            app.AnswersOutcome service request clock attempted.outcome) ∧
    (app.Reaches service .bulk request bound → ∀ q bulk,
      BulkQuery.check ⟨request.grouped, bound⟩ = .passed q →
        request.readBody.check (BulkRequest.check .byFields) = .passed bulk → bulk.Complete →
          (∀ sent ∈ singleValues request.grouped Key.structural, ¬ Overlong sent.2) →
            ∃ hints origin, Hints.shared q request.grouped = .ok hints ∧
              bulk.checkedOrigin = .ok origin ∧
              app.AnswersBatch service request clock bulk.destinations
                (service.legRoute q hints origin)) := by
  refine ⟨fun h q hq htrack houtput => ?_, fun h body hbody houtput => ?_,
    fun h q bulk hq hbulk hcomplete hread => ?_⟩
  · exact answersOutcome_routeQuery hosrm hclock h hq htrack houtput
  · exact answersOutcome_routeBody hosrm hclock h hbody houtput
  · obtain ⟨origin, horigin⟩ := complete_iff.mp hcomplete
    obtain ⟨hints, hhints⟩ := Service.exists_shared hread
    exact ⟨hints, origin, hhints, horigin,
      answersBatch_routeBulk hosrm hclock h hq hbulk hhints horigin⟩

/-- An answer with one way of some length. -/
def wayOf (distance : String) : String :=
  "\x7b\"code\":\"Ok\",\"routes\":[\x7b\"distance\":" ++ distance
    ++ ",\"duration\":60,\"geometry\":\x7b\"coordinates\":[[13.4,52.5],[13.5,52.6]]\x7d\x7d]\x7d"

/-- An answer that there is no way, with half a character as its message. -/
def halfAnswer : String := "\x7b\"code\":\"NoRoute\",\"message\":\"\\ud800\"\x7d"

/-- A network in which no way to one point has a length that is a number, and the reason why there
    is none to another point cannot be encoded. -/
def lakeNetwork : Transport := fun call =>
  .answered 200 [] (if within "13.2,52.3" call.path then halfAnswer
    else wayOf (if within "13.3,52.4" call.path then "NaN" else "1500.0"))

def lakeConfig : OsrmConfig := ⟨"http" ++ "://osrm", defaultProfilePaths, true, "car"⟩

def lake : Service where
  engine := osrmEngine lakeConfig lakeNetwork
  resolver := configuredProfiles ["car"]
  settings := {}

def lakeApp : App where
  settings := {}
  paths := []
  service := some lake
  start := pure lake

theorem overOsrm_lake : lake.OverOsrm lakeConfig lakeNetwork ["car"] where
  engine := rfl
  resolver := by simp only [lake]
  transformer := rfl
  schedule n := List.Perm.refl _

theorem presentable_lake : lake.Presentable where
  copyrights := by decide
  dataDate := nofun

/-- A query for the way from one point to another. -/
def wayTo (point : String) : HttpRequest where
  path := "/route"
  query := "point=52.5,13.4&point=" ++ point

/-- A batch of the ways from one point to two others. -/
def toLakeAndHill : HttpRequest where
  method := "POST"
  path := "/route/bulk"
  headers := [("content-type", "application/json")]
  body := "\x7b\"originPoint\":[13.4,52.5],\"destinations\":["
    ++ "\x7b\"id\":\"lake\",\"destinationPoint\":[13.3,52.4]\x7d,"
    ++ "\x7b\"id\":\"hill\",\"destinationPoint\":[13.5,52.6]\x7d]\x7d"

/-- The endpoint that is found by a path that binds nothing. -/
def EndpointMatch.unbound? : EndpointMatch → Option Endpoint
  | .found e [] => some e
  | _ => none

theorem EndpointMatch.unbound?_eq_some {place : EndpointMatch} {e : Endpoint}
    (h : place.unbound? = some e) : place = .found e [] := by
  unfold unbound? at h
  split at h
  · cases h
    rfl
  · cases h

theorem reaches_lake {e : ServiceEndpoint} {request : HttpRequest}
    (h : (findEndpoint lakeApp.paths request.method request.path).toOption.any
      (·.unbound? == some (.service e)) = true) : lakeApp.Reaches lake e request [] := by
  obtain ⟨place, hplace, hunbound⟩ := exists_ok_of_any h
  rw [EndpointMatch.unbound?_eq_some (beq_iff_eq.mp hunbound)] at hplace
  exact ⟨hplace, Or.inl rfl⟩

theorem reaches_wayTo (point : String) : lakeApp.Reaches lake .routeQuery (wayTo point) [] := by
  have hfound : (findEndpoint lakeApp.paths (wayTo "").method (wayTo "").path).toOption.any
      (·.unbound? == some (.service .routeQuery)) = true := by decide +kernel
  exact reaches_lake hfound

/-- What a query for a way asks to see is customary. -/
theorem check_wayTo {point : String}
    (h : (RouteQuery.check ⟨(wayTo point).grouped, []⟩).passed?.any
      (fun q => !q.writesTrack && decide (q.output = {})) = true) :
    ∃ q, RouteQuery.check ⟨(wayTo point).grouped, []⟩ = .passed q ∧ q.writesTrack = false ∧
      q.output = {} := by
  obtain ⟨q, hq, hcustomary⟩ := Check.exists_passed_of_any h
  rw [Bool.and_eq_true, Bool.not_eq_true', decide_eq_true_iff] at hcustomary
  exact ⟨q, hq, hcustomary⟩

theorem broken_lake {request : HttpRequest}
    (h : (lakeApp.answer request {}).1.result.toOption.any (·.status == 500) = true) :
    ∃ response, (lakeApp.answer request {}).1.result = .ok response ∧ response.status = 500 := by
  obtain ⟨response, hresponse, hstatus⟩ := exists_ok_of_any h
  exact ⟨response, hresponse, beq_iff_eq.mp hstatus⟩

theorem App.osrm_answered_lake :
    lake.OverOsrm lakeConfig lakeNetwork ["car"] ∧ (Clock.millis {}).isFinite = true ∧
      ∃ response, (lakeApp.answer (wayTo "52.6,13.5") {}).1.result = .ok response ∧
        response.Sendable ∧ response.status = 200 := by
  have hclock : (Clock.millis {}).isFinite = true := by decide +kernel
  obtain ⟨hquery, -, -⟩ :=
    App.osrm_answered lakeApp overOsrm_lake (wayTo "52.6,13.5") [] {} hclock
  have hreach := reaches_wayTo "52.6,13.5"
  obtain ⟨q, hq, htrack, houtput⟩ := @check_wayTo "52.6,13.5" (by decide +kernel)
  obtain ⟨attempted, ha, response, hresponse, hsendable, hstatus, -⟩ :=
    hquery hreach q hq htrack houtput
  have hread : (RouteQuery.check ⟨(wayTo "52.6,13.5").grouped, []⟩).passed?.any (fun q =>
      (lake.run (Request.ofQuery lake.options q (wayTo "52.6,13.5").grouped)).result.toOption.any
        fun attempted => attempted.outcome.faults.isEmpty && attempted.outcome.debug.isEmpty &&
          attempted.outcome.paths.all fun path => path.distance.isFinite && path.weight.isFinite &&
            fewDigits path.time && (path.instructions.getD []).isEmpty &&
              path.details.isEmpty) = true := by
    decide +kernel
  obtain ⟨q', hq', hrun⟩ := Check.exists_passed_of_any hread
  cases hq.symm.trans hq'
  obtain ⟨attempted', ha', hparts⟩ := exists_ok_of_any hrun
  cases ha.symm.trans ha'
  simp only [Bool.and_eq_true, List.isEmpty_iff, List.all_eq_true, and_assoc] at hparts
  obtain ⟨hfaults, hdebug, hpaths⟩ := hparts
  have hprintable : attempted.outcome.Printable lake :=
    printable_of_plain presentable_lake hfaults hdebug hpaths
  refine ⟨overOsrm_lake, hclock, response, hresponse, hsendable, ?_⟩
  rw [hstatus hprintable, Outcome.hasFaults_eq_false.mpr hfaults]
  rfl

/-- A distance that is no number, or half a character in a message, and a query is answered with
    status 500; and so is a batch one of whose two legs has such a distance. -/
theorem App.osrm_breaks_down :
    lake.OverOsrm lakeConfig lakeNetwork ["car"] ∧
      (∀ point ∈ ["52.4,13.3", "52.3,13.2"], lakeApp.Reaches lake .routeQuery (wayTo point) [] ∧
        (∃ q, RouteQuery.check ⟨(wayTo point).grouped, []⟩ = .passed q ∧
          q.writesTrack = false ∧ q.output = {}) ∧
        ∃ response, (lakeApp.answer (wayTo point) {}).1.result = .ok response ∧
          response.status = 500) ∧
      lakeApp.Reaches lake .bulk toLakeAndHill [] ∧
        (∃ bulk, toLakeAndHill.readBody.check (BulkRequest.check .byFields) = .passed bulk ∧
          bulk.Complete) ∧
        ∃ response, (lakeApp.answer toLakeAndHill {}).1.result = .ok response ∧
          response.status = 500 := by
  have hbulk : (toLakeAndHill.readBody.check (BulkRequest.check .byFields)).passed?.any
      (fun bulk => bulk.checkedOrigin.toOption.isSome) = true := by decide +kernel
  have hlost : ∀ point ∈ ["52.4,13.3", "52.3,13.2"],
      (lakeApp.answer (wayTo point) {}).1.result.toOption.any (·.status == 500) = true := by
    decide +kernel
  have hcustomary : ∀ point ∈ ["52.4,13.3", "52.3,13.2"],
      (RouteQuery.check ⟨(wayTo point).grouped, []⟩).passed?.any
        (fun q => !q.writesTrack && decide (q.output = {})) = true := by
    decide +kernel
  refine ⟨overOsrm_lake, fun point hpoint => ⟨reaches_wayTo point, ?_, ?_⟩,
    reaches_lake (by decide +kernel), ?_, ?_⟩
  · exact check_wayTo (hcustomary point hpoint)
  · exact broken_lake (hlost point hpoint)
  · obtain ⟨bulk, hpassed, horigin⟩ := Check.exists_passed_of_any hbulk
    exact ⟨bulk, hpassed, complete_iff.mpr (isSome_toOption.mp horigin)⟩
  · exact broken_lake (by decide +kernel)

end Waypost
