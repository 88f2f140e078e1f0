import Waypost.Proofs.Document.Moments
import Waypost.Proofs.Document.Rounded
import Waypost.Proofs.Request.OwnFaults
import Waypost.Proofs.Schema.Parameters
import Waypost.Proofs.Service.Attempt
import Waypost.Proofs.Service.Answer
import Waypost.Proofs.Service.BulkAnswer
import Waypost.Schema.Query

/-!
# When a single route is answered

A failure before the document is answered whatever it is. The document itself may break down over a
number that is out of range, and only value faults are answered there.

* `Engine.Sound` -- an engine whose paths can be written and whose faults have words;
* `Answered` -- an answer with status 200 or 400;
* `answered_written` -- a document is answered exactly when it fails with value faults only;
* `single_route_answered` -- **a query and a body are answered, exactly when no number of the
  document is out of range**.
-/

namespace Waypost

open Decimal

/-! ## 1. Sound outcomes -/

/-- An outcome whose paths can be written and whose faults have words. -/
structure Outcome.Sound (outcome : Outcome) : Prop where
  paths : ∀ path ∈ outcome.paths, path.Sound
  worded : ∀ fault ∈ outcome.faults, fault.Worded

/-- An engine that answers with sound outcomes, or ends with a fault that has words. -/
structure Engine.Sound (engine : Engine) : Prop where
  outcomes : ∀ r outcome, (engine.route r).result = .ok outcome → outcome.Sound
  faults : ∀ r fault, (engine.route r).result = .error fault → fault.Worded

theorem worded_of_own {fault : Fault} (h : fault.Own) : fault.Worded := by
  cases fault with
  | refused reason => exact worded_refused reason
  | reported kind message details => exact h.elim
  | unexpected cause => exact worded_unexpected cause

theorem sound_failure {fault : Fault} (h : fault.Worded) : (Outcome.failure fault).Sound where
  paths _ hp := absurd hp List.not_mem_nil
  worded := List.forall_mem_singleton.mpr h

/-- A worded fault keeps its wording on the way out of an engine. -/
theorem worded_atEngine {fault : Fault} (h : fault.Worded) : fault.atEngine.Worded := by
  cases fault with
  | refused reason => exact h
  | reported kind message details => exact h
  | unexpected cause =>
    obtain ⟨text, htext⟩ := h
    unfold Fault.Worded Fault.atEngine
    dsimp only
    rw [htext, Fault.message]
    split
    · exact ⟨_, rfl⟩
    · exact ⟨_, rfl⟩

/-- Asking a sound engine ends with a sound outcome. -/
theorem sound_invokeEngine {engine : Engine} (h : engine.Sound) (r : Request) :
    ∃ outcome, (invokeEngine engine r).result = .ok outcome ∧ outcome.Sound ∧
      (outcome.faults = [] → outcome.paths ≠ []) := by
  refine ⟨_, result_invokeEngine engine r, ?_, paths_ofAsked _⟩
  exact ofAsked_keeps (h.outcomes r) (sound_failure ⟨_, rfl⟩) fun fault hfault =>
    sound_failure (worded_atEngine (h.faults r fault hfault))

namespace Service

/-- **A request is taken to a sound outcome** with faults or paths. -/
theorem sound_run {service : Service} {names : List String}
    (hkeep : service.transformer = keepRequest)
    (hresolver : service.resolver = configuredProfiles names) (hengine : service.engine.Sound)
    {built : Except Fault Request} (hbuilt : FailsOnly Fault.Own built) :
    ∃ attempted, (service.run built).result = .ok attempted ∧ attempted.outcome.Sound ∧
      (attempted.outcome.faults = [] → attempted.outcome.paths ≠ []) :=
  run_keeps hkeep hresolver (fun _ h => sound_failure (worded_of_own h))
    (sound_invokeEngine hengine) hbuilt

/-! ## 2. Log lines -/

/-- An outcome is logged when the times of its paths have doubles. -/
theorem exists_logOutcome_of_paths {outcome : Outcome} (hf : outcome.faults = [])
    (hp : outcome.paths ≠ []) (htime : ∀ path ∈ outcome.paths, ∃ x, floatOfInt path.time = .ok x) :
    ∃ line, logOutcome outcome = .ok line := by
  obtain ⟨best, rest, hpaths⟩ := List.exists_cons_of_ne_nil hp
  have hbest : outcome.best = .ok best := by
    unfold Outcome.best
    rw [hpaths]
  obtain ⟨minutes, hminutes⟩ :=
    exists_minutes (htime best (by rw [hpaths]; exact List.mem_cons_self))
  obtain ⟨x, hx, hminutes⟩ := bind_eq_ok.mp hminutes
  unfold logOutcome
  rw [Outcome.hasFaults_eq_false.mpr hf, hbest]
  exact ⟨_, bind_eq_ok.mpr ⟨best, rfl, bind_eq_ok.mpr ⟨x, hx, bind_eq_ok.mpr
    ⟨minutes, hminutes, rfl⟩⟩⟩⟩

/-! ## 3. Documents -/

/-- An answer with status 200 or 400. -/
def Answered (result : Except Fault Response) : Prop :=
  ∃ response, result = .ok response ∧ (response.status = 200 ∨ response.status = 400)

/-- **A document is answered exactly when it fails with value faults only**, if its refusals are. -/
theorem answered_written {document : Except Fault Response}
    {refused : Fault → Except Fault Response}
    (hok : ∀ response, document = .ok response → response.status = 200)
    (hrefused : ∀ fault, document = .error fault → fault.isValueFault = true →
      ∃ response, refused fault = .ok response ∧ response.status = 400) :
    Answered (written document refused) ↔
      FailsOnly (fun fault => fault.isValueFault = true) document := by
  unfold written
  cases document with
  | ok response => exact iff_of_true ⟨response, rfl, Or.inl (hok response rfl)⟩ nofun
  | error fault =>
    dsimp only
    cases hvalue : fault.isValueFault with
    | true =>
      obtain ⟨response, hresponse, hstatus⟩ := hrefused fault rfl hvalue
      refine iff_of_true ⟨response, hresponse, Or.inr hstatus⟩ ?_
      rintro _ ⟨⟩
      exact hvalue
    | false =>
      refine iff_of_false (by rintro ⟨_, ⟨⟩, _⟩) fun h => ?_
      rw [h fault rfl] at hvalue
      cases hvalue

theorem status_routeDocument {service : Service} {output : Except Fault OutputOptions}
    {outcome : Outcome} {took : Int} {response : Response}
    (h : service.routeDocument output outcome took = .ok response) : response.status = 200 := by
  unfold routeDocument at h
  obtain ⟨options, _, h⟩ := bind_eq_ok.mp h
  obtain ⟨json, _, h⟩ := bind_eq_ok.mp h
  cases h
  rfl

theorem status_trackDocument {service : Service} {q : RouteQuery} {outcome : Outcome}
    {took now : Int} {response : Response}
    (h : service.trackDocument q outcome took now = .ok response) : response.status = 200 := by
  unfold trackDocument at h
  obtain ⟨text, _, h⟩ := bind_eq_ok.mp h
  cases h
  rfl

/-- Only the output options of a body can break down, over a multiplier without a double. -/
theorem output_cases (h : Hints) : (∃ options, h.output = .ok options) ∨
    h.output = .error (.unexpected .integerTooLarge) := by
  have hfloat : (∃ multiplier, h.float? Key.pointsEncodedMultiplier = .ok multiplier) ∨
      h.float? Key.pointsEncodedMultiplier = .error (.unexpected .integerTooLarge) := by
    unfold Hints.float?
    split
    · rename_i n _
      rcases floatOfInt_cases n with hok | hlarge
      · rw [hok]
        exact Or.inl ⟨_, rfl⟩
      · rw [hlarge]
        exact Or.inr rfl
    · exact Or.inl ⟨_, rfl⟩
    · exact Or.inl ⟨_, rfl⟩
    · exact Or.inl ⟨_, rfl⟩
  unfold Hints.output
  rcases hfloat with ⟨multiplier, hok⟩ | hlarge
  · rw [hok]
    exact Or.inl ⟨_, rfl⟩
  · rw [hlarge]
    exact Or.inr rfl

/-- What a query asks to see of an outcome is out of range: a moment of a track document, or a
    double that a route document rounds. -/
def QueryOverflows (service : Service) (q : RouteQuery) (clock : Clock) (outcome : Outcome) :
    Prop :=
  if q.writesTrack then outcome.TrackRunsOut (q.trackOutput service.settings) q.gpxMillis clock.now
  else outcome.DocumentOverflows q.output

/-- What the hints of a body ask to see of an outcome is out of range: the multiplier, or a double
    that the document rounds. -/
def HintsOverflow (h : Hints) (outcome : Outcome) : Prop :=
  match h.output with
  | .ok options => outcome.DocumentOverflows options
  | .error _ => True

/-! ## 4. Answers -/

section Answers

variable {service : Service} {outcome : Outcome} (hsound : outcome.Sound)
  (hp : outcome.paths ≠ []) (took : Int)
include hsound

theorem answered_routeDocument (output : Except Fault OutputOptions) :
    Answered (written (service.routeDocument output outcome took) fun fault =>
      errorResponse [fault]) ↔
        FailsOnly (fun fault => fault.isValueFault = true) output ∧
          ∀ options, output = .ok options → ¬ outcome.DocumentOverflows options := by
  rw [answered_written (fun _ => status_routeDocument) fun fault _ _ =>
    exists_errorResponse_json fault]
  unfold routeDocument
  rw [failsOnly_bind]
  refine and_congr_right fun _ => forall_congr' fun options => imp_congr_right fun _ => ?_
  rw [failsOnly_bind]
  have hdocument := failsOnly_routeJson options (service.responseInfo took) fun path h =>
    (hsound.paths path h).headed
  constructor
  · intro h
    exact hdocument.mp h.1
  · intro h
    exact ⟨hdocument.mpr h, fun _ _ => failsOnly_of_ok ⟨_, rfl⟩⟩

/-- The document of given options is answered exactly when none of its doubles is out of range. -/
theorem answered_routeDocument_of_options (options : OutputOptions) :
    Answered (written (service.routeDocument (.ok options) outcome took) fun fault =>
      errorResponse [fault]) ↔ ¬ outcome.DocumentOverflows options := by
  refine (answered_routeDocument hsound took _).trans ?_
  constructor
  · intro h
    exact h.2 options rfl
  · intro h
    refine ⟨nofun, fun other hother => ?_⟩
    cases hother
    exact h

/-- The document of a body is answered exactly when nothing that its hints ask to see is out of
    range. -/
theorem answered_routeDocument_of_hints (h : Hints) :
    Answered (written (service.routeDocument h.output outcome took) fun fault =>
      errorResponse [fault]) ↔ ¬ HintsOverflow h outcome := by
  unfold HintsOverflow
  rcases output_cases h with ⟨options, hok⟩ | hlarge
  · rw [hok]
    exact answered_routeDocument_of_options hsound took options
  · rw [hlarge]
    refine (answered_routeDocument hsound took _).trans ?_
    exact iff_of_false (fun hanswered => by cases hanswered.1 _ rfl) fun hfits => hfits trivial

include hp in
theorem answered_trackDocument (q : RouteQuery) {now : Int}
    (hnow : ∃ start, clockMillis now = .ok start) (outputType : Option String) (creator : String) :
    Answered (written (service.trackDocument q outcome took now) fun fault =>
      errorResponse [fault] outputType creator) ↔
        ¬ outcome.TrackRunsOut (q.trackOutput service.settings) q.gpxMillis now := by
  have hown : FailsOnly Fault.Own (service.trackDocument q outcome took now) :=
    (own_outcomeTrack hsound.paths hp hnow _ _).bind fun _ _ => failsOnly_of_ok ⟨_, rfl⟩
  rw [answered_written (fun _ => status_trackDocument) fun fault hfault _ => ?_,
    ← failsOnly_outcomeTrack hsound.paths hp hnow]
  · unfold trackDocument
    rw [failsOnly_bind]
    exact ⟨fun h => h.1, fun h => ⟨h, fun _ _ => failsOnly_of_ok ⟨_, rfl⟩⟩⟩
  · refine exists_errorResponse (List.cons_ne_nil _ _) (fun f hf => ?_) outputType creator
    rw [List.mem_singleton.mp hf]
    exact worded_of_own (hown fault hfault)

end Answers

theorem answered_errorResponse {faults : List Fault} (hne : faults ≠ [])
    (hw : ∀ fault ∈ faults, fault.Worded) (outputType : Option String) (creator : String) :
    Answered (errorResponse faults outputType creator) := by
  obtain ⟨response, hresponse, hstatus⟩ := exists_errorResponse hne hw outputType creator
  exact ⟨response, hresponse, Or.inr hstatus⟩

section Attempts

variable {service : Service} {clock : Clock} (hclock : clock.millis.isFinite = true)
  {attempted : Attempted} (hsound : attempted.outcome.Sound)
  (hpaths : attempted.outcome.faults = [] → attempted.outcome.paths ≠ [])
include hclock hsound hpaths

/-- A query is answered, unless what it asks to see of its paths is out of range. -/
theorem answered_routeQuery (hnow : ∃ start, clockMillis clock.now = .ok start) {q : RouteQuery}
    {raw : Grouped} (caller : Caller)
    (ha : (service.run (Request.ofQuery service.options q raw)).result = .ok attempted) :
    Answered (service.routeQuery q raw caller clock).result ↔
      ¬ (attempted.outcome.faults = [] ∧ service.QueryOverflows q clock attempted.outcome) := by
  by_cases hf : attempted.outcome.faults = []
  · have hp := hpaths hf
    obtain ⟨took, htook⟩ := exists_wholeMillis hclock
    obtain ⟨line, hline⟩ := exists_logOutcome_of_paths hf hp fun path h =>
      (hsound.paths path h).time
    rw [result_routeQuery_of_paths hf hline htook ha, and_iff_right hf]
    unfold QueryOverflows
    cases q.writesTrack with
    | true => exact answered_trackDocument hsound hp took q hnow _ _
    | false => exact answered_routeDocument_of_options hsound took q.output
  · refine iff_of_true ?_ fun h => hf h.1
    rw [result_routeQuery_of_faults hf hsound.worded ha]
    exact answered_errorResponse hf hsound.worded _ _

/-- A body is answered, unless what its hints ask to see of its paths is out of range. -/
theorem answered_routeBody {body : RouteBody} (caller : Caller)
    (ha : (service.run (Request.ofBody service.options body)).result = .ok attempted) :
    Answered (service.routeBody body caller clock).result ↔
      ¬ (attempted.outcome.faults = [] ∧
        HintsOverflow ((attempted.request.map (·.hints)).getD Hints.empty)
          attempted.outcome) := by
  by_cases hf : attempted.outcome.faults = []
  · have hp := hpaths hf
    obtain ⟨took, htook⟩ := exists_wholeMillis hclock
    obtain ⟨line, hline⟩ := exists_logOutcome_of_paths hf hp fun path h =>
      (hsound.paths path h).time
    rw [result_routeBody_of_paths hf hline htook ha, and_iff_right hf]
    exact answered_routeDocument_of_hints hsound took _
  · refine iff_of_true ?_ fun h => hf h.1
    rw [result_routeBody_of_faults hf hsound.worded ha]
    exact answered_errorResponse hf hsound.worded _ _

end Attempts

/-- **When a single route is answered.** With configured profiles and an engine whose paths can be
    written, whatever a query or a body holds: a failure before the document is answered, and the
    document is, exactly when nothing that was asked for is out of range. -/
theorem single_route_answered (service : Service) {names : List String}
    (hkeep : service.transformer = keepRequest)
    (hresolver : service.resolver = configuredProfiles names) (hengine : service.engine.Sound)
    (caller : Caller) (clock : Clock) (hclock : clock.millis.isFinite = true)
    (hnow : ∃ start, clockMillis clock.now = .ok start) :
    (∀ q raw, ∃ attempted,
      (service.run (Request.ofQuery service.options q raw)).result = .ok attempted ∧
        (Answered (service.routeQuery q raw caller clock).result ↔
          ¬ (attempted.outcome.faults = [] ∧ service.QueryOverflows q clock attempted.outcome))) ∧
    ∀ body, ∃ attempted,
      (service.run (Request.ofBody service.options body)).result = .ok attempted ∧
        (Answered (service.routeBody body caller clock).result ↔
          ¬ (attempted.outcome.faults = [] ∧
            HintsOverflow ((attempted.request.map (·.hints)).getD Hints.empty)
              attempted.outcome)) := by
  refine ⟨fun q raw => ?_, fun body => ?_⟩
  · obtain ⟨attempted, ha, hsound, hpaths⟩ :=
      sound_run hkeep hresolver hengine (own_ofQuery service.options q raw)
    exact ⟨attempted, ha, answered_routeQuery hclock hsound hpaths hnow caller ha⟩
  · obtain ⟨attempted, ha, hsound, hpaths⟩ :=
      sound_run hkeep hresolver hengine (own_ofBody service.options body)
    exact ⟨attempted, ha, answered_routeBody hclock hsound hpaths caller ha⟩

/-- A service whose engine goes straight from point to point. -/
def village : Service where
  engine := {
    threadSafe := true
    properties := pure []
    route := fun r => pure {
      paths := [{ distance := 1500.0, time := 90000, weight := 90.0, points := r.points }] } }
  resolver := configuredProfiles ["car"]
  settings := {}

theorem sound_village : village.engine.Sound where
  outcomes r outcome h := by
    cases h
    refine ⟨fun path hp => ?_, nofun⟩
    rw [List.mem_singleton.mp hp]
    exact ⟨exists_floatOfInt_of_lt (show (90000 : Int).natAbs < 2 ^ 53 by decide), nofun⟩
  faults r fault h := by cases h

/-- A query string for two points, followed by more parameters. -/
def villagePairs (more : List (String × String)) : List (String × String) :=
  [("point", "52.5,13.4"), ("point", "52.4,13.3")] ++ more

theorem single_route_answered_village :
    village.transformer = keepRequest ∧ village.resolver = configuredProfiles ["car"] ∧
      village.engine.Sound ∧ (Clock.millis {}).isFinite = true ∧
      (∃ start, clockMillis 0 = .ok start) ∧
      ∃ q, RouteQuery.check ⟨groupPairs (villagePairs []), []⟩ = .passed q ∧
        Answered (village.routeQuery q (groupPairs (villagePairs [])) {} {}).result := by
  have hkeep : village.transformer = keepRequest := rfl
  have hresolver : village.resolver = configuredProfiles ["car"] := by simp only [village]
  have hclock : (Clock.millis {}).isFinite = true := by decide +kernel
  have hnow : ∃ start, clockMillis 0 = .ok start := isSome_toOption.mp (by decide +kernel)
  obtain ⟨hquery, -⟩ :=
    single_route_answered village hkeep hresolver sound_village {} {} hclock hnow
  have hread : (RouteQuery.check ⟨groupPairs (villagePairs []), []⟩).passed?.any (fun q =>
      !q.writesTrack && (village.run (Request.ofQuery village.options q
        (groupPairs (villagePairs [])))).result.toOption.any fun attempted =>
          (attempted.outcome.rounded q.output).all (·.isFinite)) = true := by decide +kernel
  obtain ⟨q, hq, hfinite⟩ := Check.exists_passed_of_any hread
  obtain ⟨htrack, hrun⟩ := (Bool.and_eq_true _ _).mp hfinite
  obtain ⟨attempted, ha, hanswered⟩ := hquery q (groupPairs (villagePairs []))
  obtain ⟨attempted', ha', hrounded⟩ := exists_ok_of_any hrun
  cases ha.symm.trans ha'
  refine ⟨hkeep, hresolver, sound_village, hclock, hnow, q, hq, hanswered.mpr ?_⟩
  rintro ⟨-, hover⟩
  unfold QueryOverflows at hover
  rw [Bool.not_eq_true'] at htrack
  rw [htrack] at hover
  exact not_overflows_of_finite (List.all_eq_true.mp hrounded) hover.2

/-- A multiplier may be too large for the coordinates, and a moment too large for the calendar. -/
theorem single_route_unanswered :
    village.transformer = keepRequest ∧ village.resolver = configuredProfiles ["car"] ∧
      village.engine.Sound ∧
      ∀ more ∈ [[("points_encoded_multiplier", "1e308")],
          [("type", "gpx"), ("gpx.millis", "100000000000000000000000")]],
        ∃ q, RouteQuery.check ⟨groupPairs (villagePairs more), []⟩ = .passed q ∧
          ¬ Answered (village.routeQuery q (groupPairs (villagePairs more)) {} {}).result := by
  have hread : ∀ more ∈ [[("points_encoded_multiplier", "1e308")],
      [("type", "gpx"), ("gpx.millis", "100000000000000000000000")]],
      (RouteQuery.check ⟨groupPairs (villagePairs more), []⟩).passed?.any (fun q =>
        (village.routeQuery q (groupPairs (villagePairs more)) {} {}).result.toOption.isNone)
          = true := by decide +kernel
  refine ⟨rfl, by simp only [village], sound_village, fun more hmore => ?_⟩
  obtain ⟨q, hq, hnone⟩ := Check.exists_passed_of_any (hread more hmore)
  refine ⟨q, hq, ?_⟩
  rintro ⟨response, hresponse, -⟩
  rw [hresponse] at hnone
  cases hnone

end Service

end Waypost
