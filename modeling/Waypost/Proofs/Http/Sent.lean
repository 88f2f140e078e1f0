import Waypost.Proofs.Document.Printable
import Waypost.Proofs.Http.Settled
import Waypost.Proofs.Osrm.Outcome
import Waypost.Proofs.Service.Gate
import Waypost.Proofs.Service.SingleAnswer

/-!
# What is sent for an outcome

With customary options the answer to an outcome is sent exactly when the outcome is printable. The
per-leg guard of a batch ends before its document is sent, so one distance is enough to lose it.

* `Outcome.Printable` -- an outcome whose document or error document can be written and sent;
* `SentFor` -- what is sent for an outcome: its document, or nothing after a breakdown that can be
  told;
* `sent_routeQuery`, `sent_routeBody` -- **that is what a query and a body are answered with**;
* `Leg.Measured` -- a leg whose distance is finite, if it has one, and whose failure can be told;
* `BatchMeasured` -- the legs of a batch, and the copyrights that its document names;
* `sent_routeBulk_of_measured`, `sent_routeBulk_of_unmeasured` -- **a batch is sent exactly when it
  is measured**.
-/

namespace Waypost

open Decimal Text

/-- A fault whose message is a text that can be encoded. -/
def Fault.Sendable (fault : Fault) : Prop :=
  ∃ text, fault.message = .str text ∧ encodable text = true

/-- A service that can send what its answers say about themselves: its copyrights, and the date of
    the data as the engine told it. -/
structure Service.Presentable (service : Service) : Prop where
  copyrights : ∀ text ∈ service.settings.copyrights, encodable text = true
  dataDate : service.dataDate.truthy = true → service.dataDate.writable = true

/-- An outcome that a service can write and send an answer for. -/
structure Outcome.Printable (outcome : Outcome) (service : Service) : Prop where
  faults : ∀ fault ∈ outcome.faults, fault.Sendable
  info : outcome.faults = [] → service.Presentable
  paths : ∀ path ∈ outcome.paths, path.Printable
  debug : membersWritable outcome.debug = true

/-- Without faults, debug members, instructions and details it is enough that distances and weights
    are finite and times are short. -/
theorem printable_of_plain {service : Service} (hservice : service.Presentable) {outcome : Outcome}
    (hfaults : outcome.faults = []) (hdebug : outcome.debug = [])
    (hpaths : ∀ path ∈ outcome.paths, path.distance.isFinite = true ∧
      path.weight.isFinite = true ∧ fewDigits path.time = true ∧
        path.instructions.getD [] = [] ∧ path.details = []) :
    outcome.Printable service where
  faults := by
    rw [hfaults]
    exact fun fault hfault => absurd hfault List.not_mem_nil
  info _ := hservice
  paths path hp := by
    obtain ⟨hdistance, hweight, htime, hinstructions, hdetails⟩ := hpaths path hp
    refine ⟨hdistance, hweight, htime, fun list hlist i hi => ?_, ?_⟩
    · rw [hlist] at hinstructions
      cases hinstructions
      exact absurd hi List.not_mem_nil
    · rw [hdetails]
      exact fun detail hdetail => absurd hdetail List.not_mem_nil
  debug := by
    rw [hdebug]
    rfl

/-- An outcome of failure is printable exactly when its fault can be sent. -/
theorem printable_failure {service : Service} {fault : Fault} :
    (Outcome.failure fault).Printable service ↔ fault.Sendable := by
  constructor
  · exact fun hprintable => hprintable.faults fault (List.mem_singleton_self fault)
  · intro hsendable
    refine ⟨List.forall_mem_singleton.mpr hsendable, nofun, ?_, rfl⟩
    exact fun path hp => absurd hp List.not_mem_nil

/-- What is sent for an outcome: a document or an error document when it is printable, and otherwise
    the breakdown that prevents it. -/
structure SentFor (service : Service) (outcome : Outcome) (sent : Except Fault Response) :
    Prop where
  answer : outcome.Printable service → ∃ response, sent = .ok response ∧
    response.status = if outcome.hasFaults then 400 else 200
  breakdown : ¬ outcome.Printable service → ∃ fault, sent = .error fault ∧ fault.Told

/-! ## 1. Outcomes of failure -/

/-- A fault without a text breaks the log line down, and that can be told. -/
theorem told_text (fault : Fault) : FailsOnly Fault.Told fault.text := by
  unfold Fault.text
  split
  · exact failsOnly_of_ok ⟨_, rfl⟩
  · split
    · exact failsOnly_of_ok ⟨_, rfl⟩
    · exact failsOnly_error ⟨_, rfl,
        encodable_kindName (by decide : encodable "__str__ returned non-string (type " = true)
          (by decide : encodable ")" = true) _⟩

/-- A failure that cannot be logged breaks the answer down. -/
theorem exists_unlogged {fault : Fault} (hw : ¬ fault.Worded) :
    ∃ lost, Service.logOutcome (.failure fault) = .error lost ∧ lost.Told := by
  have htold : FailsOnly Fault.Told (Service.logOutcome (.failure fault)) :=
    (FailsOnly.mapM fun fault _ => told_text fault).bind fun _ _ => failsOnly_of_ok ⟨_, rfl⟩
  cases hline : Service.logOutcome (.failure fault) with
  | ok line =>
    have hall := (Service.exists_logOutcome (List.cons_ne_nil fault [])).mp ⟨line, hline⟩
    exact absurd (hall fault (List.mem_singleton_self fault)) hw
  | error lost => exact ⟨lost, rfl, htold lost hline⟩

/-- An error document in JSON is sent exactly when the message of its fault can be encoded. -/
theorem sentFor_document_of_failure {service : Service} {fault : Fault} (hw : fault.Worded)
    (hdetails : membersWritable fault.details = true) :
    SentFor service (.failure fault) (sent? (errorResponse [fault])) := by
  obtain ⟨text, htext⟩ := hw
  have hsendable : fault.Sendable ↔ fault.message.writable = true := by
    rw [htext]
    constructor
    · rintro ⟨other, hother, hencodable⟩
      cases htext.symm.trans hother
      exact hencodable
    · exact fun hencodable => ⟨text, htext, hencodable⟩
  refine ⟨fun hprintable => ?_, fun hnot => ?_⟩
  · have hmessage := hsendable.mp (printable_failure.mp hprintable)
    obtain ⟨response, hresponse, hsent, hstatus⟩ :=
      sendable_errorsJson (List.cons_ne_nil fault []) (List.forall_mem_singleton.mpr
        ⟨hmessage, hdetails⟩)
    refine ⟨response, ?_, hstatus⟩
    rw [hresponse]
    exact sent?_of_sendable hsent
  · have hlost : ¬ (Response.ofJson 400 (errorsJsonFrom fault [])).Sendable := by
      intro hsent
      have hmembers := membersWritable_iff.mp (sendable_ofJson.mp hsent)
      exact hnot (printable_failure.mpr (hsendable.mpr (hmembers _ List.mem_cons_self).2))
    exact told_of_not_sendable hlost

section Answer

variable {service : Service} {answer : Except Fault Response}

/-- A failure is sent with status 400, unless it cannot be logged or its message not be encoded. -/
theorem sentFor_failure {outcome : Outcome} (hregular : outcome.Regular) {fault : Fault}
    (hfailure : outcome = .failure fault)
    (hworded : (∀ other ∈ outcome.faults, other.Worded) → answer = errorResponse [fault])
    (hunlogged : ∀ lost, Service.logOutcome outcome = .error lost → answer = .error lost) :
    SentFor service outcome (sent? answer) := by
  subst hfailure
  by_cases hw : fault.Worded
  · rw [hworded (List.forall_mem_singleton.mpr hw)]
    exact sentFor_document_of_failure hw (hregular.details fault (List.mem_singleton_self fault))
  · obtain ⟨lost, hlost, htold⟩ := exists_unlogged hw
    rw [hunlogged lost hlost]
    refine ⟨fun hprintable => ?_, fun _ => ⟨lost, rfl, htold⟩⟩
    obtain ⟨text, htext, -⟩ := printable_failure.mp hprintable
    exact absurd ⟨text, htext⟩ hw

/-! ## 2. Documents -/

/-- The refusal that stands in for a document is not asked after a breakdown. -/
theorem written_of_unanswered {fault : Fault} (h : fault.Unanswered)
    (refused : Fault → Except Fault Response) :
    Service.written (.error fault) refused = .error fault := by
  unfold Service.written
  dsimp only
  rw [h.value]
  rfl

/-- The whole milliseconds of an answer have few digits. -/
theorem fewDigits_of_wholeMillis {clock : Clock} {took : Int} (h : clock.wholeMillis = .ok took) :
    fewDigits took = true :=
  fewDigits_of_floatOfInt (exists_floatOfInt_of_nearest (wholeNumber_eq_ok.mp h))

/-- What a service says about an answer as a whole can be sent when the service is presentable. -/
theorem writable_responseInfo {took : Int} (htook : fewDigits took = true) :
    (service.responseInfo took).toJson.writable = true ↔ service.Presentable :=
  (writable_info htook).trans ⟨fun ⟨htexts, hdate⟩ => ⟨htexts, hdate⟩,
    fun hservice => ⟨hservice.copyrights, hservice.dataDate⟩⟩

/-- A document is sent with status 200 when the outcome is printable. -/
theorem sentFor_document {outcome : Outcome} {took : Int} (htook : fewDigits took = true)
    (hf : outcome.faults = [])
    (hanswer : answer = Service.written (service.routeDocument (pure {}) outcome took) fun fault =>
      errorResponse [fault]) : SentFor service outcome (sent? answer) := by
  have hdocument : service.routeDocument (pure {}) outcome took =
      (fun json => .ofJson 200 json [(tookHeader, toString took)]) <$>
        routeJson {} (service.responseInfo took) outcome := rfl
  have hparts := @printable_document (service.responseInfo took) outcome
  rw [writable_responseInfo htook] at hparts
  rw [hdocument] at hanswer
  constructor
  · intro hprintable
    obtain ⟨json, hjson, hwritable⟩ :=
      hparts.mpr ⟨hprintable.info hf, hprintable.paths, hprintable.debug⟩
    rw [hjson] at hanswer
    refine ⟨.ofJson 200 json [(tookHeader, toString took)], ?_, ?_⟩
    · rw [hanswer]
      exact sent?_of_sendable (sendable_ofJson.mpr hwritable)
    · rw [Outcome.hasFaults_eq_false.mpr hf]
      rfl
  · intro hnot
    cases hjson : routeJson {} (service.responseInfo took) outcome with
    | ok json =>
      have hunwritable : ¬ json.writable = true := by
        intro hwritable
        obtain ⟨hservice, hpaths, hdebug⟩ := hparts.mp ⟨json, hjson, hwritable⟩
        refine hnot ⟨?_, fun _ => hservice, hpaths, hdebug⟩
        rw [hf]
        exact fun fault hfault => absurd hfault List.not_mem_nil
      rw [hjson] at hanswer
      rw [hanswer]
      exact told_of_not_sendable (mt sendable_ofJson.mp hunwritable)
    | error fault =>
      have hunanswered : fault.Unanswered := unanswered_document fault hjson
      rw [hjson] at hanswer
      refine ⟨fault, ?_, hunanswered.told⟩
      rw [hanswer]
      exact congrArg sent? (written_of_unanswered hunanswered _)

end Answer

namespace Service

/-! ## 3. Queries and bodies -/

section Single

variable {service : Service} (caller : Caller) {clock : Clock}
  (hclock : clock.millis.isFinite = true) {attempted : Attempted}
  (hregular : attempted.outcome.Regular)
  (hpaths : attempted.outcome.faults = [] → attempted.outcome.paths ≠ [])
include hclock hregular hpaths

/-- **What a query is answered with** that asks to see what is customary. -/
theorem sent_routeQuery {q : RouteQuery} (htrack : q.writesTrack = false) (houtput : q.output = {})
    {raw : Grouped}
    (ha : (service.run (Request.ofQuery service.options q raw)).result = .ok attempted) :
    SentFor service attempted.outcome (sent? (service.routeQuery q raw caller clock).result) := by
  rcases hregular.apart with hf | ⟨fault, hfailure⟩
  · obtain ⟨took, htook⟩ := exists_wholeMillis hclock
    obtain ⟨line, hline⟩ := exists_logOutcome_of_paths hf (hpaths hf) hregular.times
    refine sentFor_document (fewDigits_of_wholeMillis htook) hf ?_
    rw [result_routeQuery_of_paths hf hline htook ha, htrack, houtput]
    rfl
  · have hfaults : attempted.outcome.faults = [fault] := congrArg Outcome.faults hfailure
    refine sentFor_failure hregular hfailure (fun hw => ?_) fun lost hlost => ?_
    · rw [result_routeQuery_of_faults (hfaults ▸ List.cons_ne_nil fault []) hw ha,
        errorResponse_of_json htrack _ _, hfaults]
    · exact result_routeQuery_of_unlogged hlost ha

/-- **What a body is answered with** whose hints ask to see what is customary. -/
theorem sent_routeBody (hkeep : service.transformer = keepRequest) {body : RouteBody}
    (houtput : ∀ hints, Hints.ofBody body.extra = .ok hints → hints.output = .ok {})
    (ha : (service.run (Request.ofBody service.options body)).result = .ok attempted) :
    SentFor service attempted.outcome (sent? (service.routeBody body caller clock).result) := by
  rcases hregular.apart with hf | ⟨fault, hfailure⟩
  · obtain ⟨took, htook⟩ := exists_wholeMillis hclock
    obtain ⟨line, hline⟩ := exists_logOutcome_of_paths hf (hpaths hf) hregular.times
    obtain ⟨hints, hhints, hshown⟩ := output_of_run hkeep ha hf
    refine sentFor_document (fewDigits_of_wholeMillis htook) hf ?_
    rw [result_routeBody_of_paths hf hline htook ha, hshown, houtput hints hhints]
    rfl
  · have hfaults : attempted.outcome.faults = [fault] := congrArg Outcome.faults hfailure
    refine sentFor_failure hregular hfailure (fun hw => ?_) fun lost hlost => ?_
    · rw [result_routeBody_of_faults (hfaults ▸ List.cons_ne_nil fault []) hw ha, hfaults]
    · exact result_routeBody_of_unlogged hlost ha

end Single

end Service

/-! ## 4. Batches -/

/-- A leg whose entry can be sent: the name of its destination can be encoded, its distance is
    finite if it has one, and what is said of its failure can be written and encoded. -/
structure Leg.Measured (leg : Leg) : Prop where
  id : encodable leg.destination.id = true
  distance : ∀ outcome best rest, leg.route.result = .ok outcome → outcome.faults = [] →
    outcome.paths = best :: rest → best.distance.isFinite = true
  failure : ∀ error, leg.entry.result = .failed error → error.writable = true

/-- A batch whose document can be sent: the copyrights that it names can be encoded, and its legs
    are measured. -/
structure BatchMeasured (copyrights : List String) (destinations : List Destination)
    (route : LegRoute) : Prop where
  copyrights : ∀ text ∈ copyrights, encodable text = true
  legs : ∀ d ∈ destinations, Leg.Measured ⟨d, route d⟩

theorem BulkEntry.writable_of_failed {entry : BulkEntry} {error : Json}
    (h : entry.result = .failed error) :
    entry.toJson.writable = true ↔ encodable entry.id = true ∧ error.writable = true := by
  unfold BulkEntry.toJson
  rw [h]
  simp +decide [Json.writable, membersWritable]

theorem BulkEntry.writable_of_reached {entry : BulkEntry} {distance : Float} {time : Int}
    (h : entry.result = .reached distance time) :
    entry.toJson.writable = true ↔
      encodable entry.id = true ∧ distance.isFinite = true ∧ fewDigits time = true := by
  unfold BulkEntry.toJson
  rw [h]
  simp +decide [Json.writable, membersWritable]

/-- The object of an entry can be sent exactly when its leg is measured. -/
theorem writable_entry {leg : Leg}
    (hregular : ∀ outcome, leg.route.result = .ok outcome → outcome.Regular) :
    leg.entry.toJson.writable = true ↔ leg.Measured := by
  have hid : leg.entry.id = leg.destination.id := id_entry leg
  by_cases hfails : leg.Fails
  · have hok := ok_entry_of_fails hfails
    cases hresult : leg.entry.result with
    | reached distance time =>
      unfold BulkEntry.ok at hok
      rw [hresult] at hok
      cases hok
    | failed error =>
      rw [BulkEntry.writable_of_failed hresult, hid]
      constructor
      · rintro ⟨hname, herror⟩
        refine ⟨hname, fun outcome best rest hr hf hp => ?_, fun other hother => ?_⟩
        · rcases hfails with ⟨fault, hfault⟩ | ⟨other, hother, hfaults | ⟨-, hnone⟩⟩
          · cases hr.symm.trans hfault
          · cases hr.symm.trans hother
            exact absurd hf hfaults
          · cases hr.symm.trans hother
            cases hp.symm.trans hnone
        · cases hresult.symm.trans hother
          exact herror
      · exact fun hmeasured => ⟨hmeasured.id, hmeasured.failure error hresult⟩
  · obtain ⟨outcome, best, rest, hr, hf, hp, hresult⟩ := entry_of_not_fails hfails
    have htime : fewDigits best.time = true := by
      refine fewDigits_of_floatOfInt ((hregular outcome hr).times best ?_)
      rw [hp]
      exact List.mem_cons_self
    rw [BulkEntry.writable_of_reached hresult, hid, isFinite_roundPlaces]
    constructor
    · rintro ⟨hname, hbest, -⟩
      refine ⟨hname, fun outcome' best' rest' hr' _ hp' => ?_, fun error herror => ?_⟩
      · cases hr.symm.trans hr'
        cases hp.symm.trans hp'
        exact hbest
      · cases hresult.symm.trans herror
    · exact fun hmeasured =>
        ⟨hmeasured.id, hmeasured.distance outcome best rest hr hf hp, htime⟩

namespace Service

section Batch

variable {service : Service} (hfair : service.schedule.Fair) {bulk : BulkRequest} {q : BulkQuery}
  {raw : Grouped} {hints : Hints} {origin : Point}
  (hregular : ∀ d outcome, (service.legRoute q hints origin d).result = .ok outcome →
    outcome.Regular)
  (hhints : Hints.shared q raw = .ok hints) (horigin : bulk.checkedOrigin = .ok origin)
  {clock : Clock} (hclock : clock.millis.isFinite = true)
include hregular

/-- The document of a batch can be sent exactly when the batch is measured. -/
theorem writable_bulkJson (destinations : List Destination) (copyrights : List String) :
    (bulkJson (service.legEntries q hints origin destinations) copyrights).writable = true ↔
      BatchMeasured copyrights destinations (service.legRoute q hints origin) := by
  have hparts : ∀ entries : List Json, (Json.obj [("info", .obj [("copyrights",
      jsonTexts copyrights)]), ("data", .arr entries)]).writable = true ↔
        (∀ text ∈ copyrights, encodable text = true) ∧
          ∀ entry ∈ entries, entry.writable = true := by
    intro entries
    simp +decide [Json.writable, membersWritable, writable_jsonTexts, itemsWritable_iff]
  unfold bulkJson legEntries
  rw [hparts, List.map_map, List.forall_mem_map]
  have hlegs : (∀ d ∈ destinations,
      ((BulkEntry.toJson ∘ fun d => Leg.entry ⟨d, service.legRoute q hints origin d⟩) d).writable =
        true) ↔ ∀ d ∈ destinations, Leg.Measured ⟨d, service.legRoute q hints origin d⟩ :=
    forall_congr' fun d => imp_congr_right fun _ => writable_entry (hregular d)
  rw [hlegs]
  exact ⟨fun ⟨htexts, hall⟩ => ⟨htexts, hall⟩, fun hbatch => ⟨hbatch.copyrights, hbatch.legs⟩⟩

include hfair hhints horigin hclock

/-- **A batch that is measured is sent**, with one object for each destination. -/
theorem sent_routeBulk_of_measured
    (hmeasured : BatchMeasured service.settings.bulkCopyrights bulk.destinations
      (service.legRoute q hints origin)) :
    ∃ response info items, sent? (service.routeBulk bulk q raw clock).result = .ok response ∧
      response.status = 200 ∧
      response.content = .document (.obj [("info", info), ("data", .arr items)]) ∧
      List.Forall₂ AnswersFor bulk.destinations items := by
  obtain ⟨took, htook⟩ := exists_wholeMillis hclock
  refine ⟨.ofJson 200 (bulkJson (service.legEntries q hints origin bulk.destinations)
    service.settings.bulkCopyrights) [(tookHeader, toString took)], _, _, ?_, rfl, rfl,
    answersFor_legEntries service q hints origin bulk.destinations⟩
  rw [result_routeBulk service hfair hhints horigin clock, htook]
  exact sent?_of_sendable (sendable_ofJson.mpr
    ((writable_bulkJson hregular bulk.destinations _).mpr hmeasured))

/-- **One leg that is not measured, and nothing of the batch is sent.** -/
theorem sent_routeBulk_of_unmeasured
    (hunmeasured : ¬ BatchMeasured service.settings.bulkCopyrights bulk.destinations
      (service.legRoute q hints origin)) :
    ∃ fault, sent? (service.routeBulk bulk q raw clock).result = .error fault ∧ fault.Told := by
  obtain ⟨took, htook⟩ := exists_wholeMillis hclock
  rw [result_routeBulk service hfair hhints horigin clock, htook]
  refine told_of_not_sendable fun hsendable => hunmeasured ?_
  exact (writable_bulkJson hregular bulk.destinations _).mp (sendable_ofJson.mp hsendable)

end Batch

end Service

end Waypost
