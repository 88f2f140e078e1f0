import Waypost.Proofs.Document.Errors
import Waypost.Proofs.Service.SingleAnswer

/-!
# What the answer to a query says

A query is built, prepared and handed to the engine, and what comes back is rendered. It is answered
with the document when all of this succeeds, and otherwise with the faults of the stage that failed;
the output type alone decides between JSON and XML.

* `Service.Asks`, `Service.Delivers`, `Service.FailsWith` -- the stages, told without the answer;
* `Response.IsXml`, `Response.IsJson`, `Content.Lists` -- what an answer shows;
* `routeQuery_cases` -- **an answer is a rendered document or the errors of one stage**;
* `route_query_contract` -- **status, form, headers and listed faults of every answer**.
-/

namespace Waypost

open Text

/-! ## 1. Forms -/

/-- The content is a GPX document or an error document in XML. -/
def Response.IsXml (response : Response) : Prop :=
  (∃ attributes children,
      response.content = .text (xmlDocument (.node "gpx" attributes children))) ∧
    (response.mediaType = some gpxMediaType ∨ response.mediaType = some xmlMediaType)

/-- The content is a JSON document. -/
def Response.IsJson (response : Response) : Prop :=
  (∃ json, response.content = .document json) ∧ response.mediaType = some jsonMediaType

/-- A document with one entry for each fault, in order. -/
def Content.Lists (faults : List Fault) : Content → Prop
  | .document json => json.ListsFaults faults
  | .text s => xmlListsFaults s faults

theorem isXmlType_iff {outputType : String} :
    isXmlType outputType = true ↔ lower outputType ∈ ["gpx", "xml"] := by
  simp [isXmlType]

theorem not_isXml_of_isJson {response : Response} (h : response.IsJson) : ¬ response.IsXml := by
  intro hxml
  obtain ⟨⟨json, hjson⟩, -⟩ := h
  obtain ⟨⟨attributes, children, htext⟩, -⟩ := hxml
  cases hjson.symm.trans htext

/-- What has the form of its output type has no other. -/
theorem forms_of_type {response : Response} {outputType : String}
    (hxml : isXmlType outputType = true → response.IsXml)
    (hjson : isXmlType outputType = false → response.IsJson) :
    (response.IsXml ↔ lower outputType ∈ ["gpx", "xml"]) ∧
      (response.IsJson ↔ lower outputType ∉ ["gpx", "xml"]) := by
  rw [← isXmlType_iff]
  cases htype : isXmlType outputType with
  | true =>
    have hform := hxml htype
    exact ⟨iff_of_true hform rfl,
      iff_of_false (fun h => not_isXml_of_isJson h hform) fun h => h rfl⟩
  | false =>
    have hform := hjson htype
    exact ⟨iff_of_false (not_isXml_of_isJson hform) Bool.false_ne_true,
      iff_of_true hform Bool.false_ne_true⟩

/-! ## 2. Error documents -/

/-- **An error document has the form of its output type and lists its faults.** -/
theorem errorResponse_says {faults : List Fault} {outputType creator : String}
    {response : Response} (h : errorResponse faults (some outputType) creator = .ok response) :
    response.headers = [] ∧ (isXmlType outputType = true → response.IsXml) ∧
      (isXmlType outputType = false → response.IsJson) ∧ response.content.Lists faults := by
  unfold errorResponse at h
  cases htype : isXmlType outputType with
  | true =>
    rw [Option.filter_some, if_pos htype] at h
    obtain ⟨text, htext, h⟩ := bind_eq_ok.mp h
    cases h
    have hlists := listsFaults_errorsXml htext
    refine ⟨rfl, fun _ => ⟨?_, ?_⟩, nofun, hlists⟩
    · obtain ⟨attributes, message, elements, rfl, -⟩ := hlists
      exact ⟨attributes, _, rfl⟩
    · show some (errorMediaType outputType) = _ ∨ some (errorMediaType outputType) = _
      unfold errorMediaType
      split
      · exact Or.inl rfl
      · exact Or.inr rfl
  | false =>
    rw [Option.filter_some, if_neg (by rw [htype]; decide)] at h
    obtain ⟨json, hjson, h⟩ := bind_eq_ok.mp h
    cases h
    exact ⟨rfl, nofun, fun _ => ⟨⟨json, rfl⟩, rfl⟩, listsFaults_errorsJson hjson⟩

namespace Service

/-! ## 3. Stages -/

/-- A query that is built and prepared, and what the engine that is asked ends with. -/
def Asks (service : Service) (q : RouteQuery) (raw : Grouped) (ending : Except Fault Outcome) :
    Prop :=
  ∃ r prepared, Request.ofQuery service.options q raw = .ok r ∧
    service.prepare r = (prepared, none) ∧ (service.engine.route prepared).result = ending

/-- The document that a query asks for. -/
def rendered (service : Service) (q : RouteQuery) (outcome : Outcome) (took now : Int) :
    Except Fault Content :=
  if q.writesTrack then
    .text <$> outcomeTrack (q.trackOutput service.settings) outcome q.gpxMillis now
  else .document <$> routeJson q.output (service.responseInfo took) outcome

section Stages

variable (service : Service) (q : RouteQuery) (raw : Grouped) (clock : Clock)

/-- A query all of whose stages succeed: the engine answers with paths and without faults, and they
    are rendered. -/
structure Delivers (outcome : Outcome) (content : Content) : Prop where
  asks : service.Asks q raw (.ok outcome)
  faults : outcome.faults = []
  paths : outcome.paths ≠ []
  rendered : ∃ took, clock.wholeMillis = .ok took ∧
    service.rendered q outcome took clock.now = .ok content

/-- The stage at which a query fails, with its faults. -/
inductive FailsWith : List Fault → Prop
  | building {fault : Fault} (h : Request.ofQuery service.options q raw = .error fault) :
      FailsWith [fault]
  | preparing {r changed : Request} {fault : Fault}
      (hr : Request.ofQuery service.options q raw = .ok r)
      (hp : service.prepare r = (changed, some fault)) : FailsWith [fault]
  | breaking {fault : Fault} (h : service.Asks q raw (.error fault)) : FailsWith [fault.atEngine]
  | answering {outcome : Outcome} (h : service.Asks q raw (.ok outcome))
      (hf : outcome.faults ≠ []) : FailsWith outcome.faults
  | nothing {outcome : Outcome} (h : service.Asks q raw (.ok outcome)) (hf : outcome.faults = [])
      (hp : outcome.paths = []) : FailsWith [emptyOutcome]
  | rendering {outcome : Outcome} {took : Int} {fault : Fault}
      (h : service.Asks q raw (.ok outcome)) (hf : outcome.faults = []) (hp : outcome.paths ≠ [])
      (htook : clock.wholeMillis = .ok took)
      (hfails : service.rendered q outcome took clock.now = .error fault) : FailsWith [fault]

end Stages

section Answer

variable {service : Service} {q : RouteQuery} {raw : Grouped} {clock : Clock}

theorem asks_unique {ending other : Except Fault Outcome} (h : service.Asks q raw ending)
    (ho : service.Asks q raw other) : ending = other := by
  obtain ⟨r, prepared, hr, hp, rfl⟩ := h
  obtain ⟨r', prepared', hr', hp', rfl⟩ := ho
  cases hr.symm.trans hr'
  cases hp.symm.trans hp'
  rfl

theorem delivers_unique {outcome other : Outcome} {content different : Content}
    (h : service.Delivers q raw clock outcome content)
    (ho : service.Delivers q raw clock other different) :
    outcome = other ∧ content = different := by
  cases asks_unique h.asks ho.asks
  obtain ⟨took, htook, hrendered⟩ := h.rendered
  obtain ⟨took', htook', hrendered'⟩ := ho.rendered
  cases htook.symm.trans htook'
  cases hrendered.symm.trans hrendered'
  exact ⟨rfl, rfl⟩

/-- **A query that fails delivers nothing.** -/
theorem not_delivers_of_failsWith {faults : List Fault}
    (hfails : service.FailsWith q raw clock faults) (outcome : Outcome) (content : Content) :
    ¬ service.Delivers q raw clock outcome content := by
  intro hd
  have hasks := hd.asks
  obtain ⟨r, prepared, hr, hp, -⟩ := hd.asks
  cases hfails with
  | building h => cases hr.symm.trans h
  | preparing hr' hp' =>
    cases hr.symm.trans hr'
    cases hp.symm.trans hp'
  | breaking h => cases asks_unique hasks h
  | answering h hf =>
    cases asks_unique hasks h
    exact hf hd.faults
  | nothing h hf hnone =>
    cases asks_unique hasks h
    exact hd.paths hnone
  | rendering h hf hpaths htook hfails =>
    cases asks_unique hasks h
    obtain ⟨took, htook', hrendered⟩ := hd.rendered
    cases htook.symm.trans htook'
    cases hfails.symm.trans hrendered

/-! ## 4. Documents -/

/-- The answer that carries a rendered document. -/
def delivered (q : RouteQuery) (took : Int) (content : Content) : Response :=
  if q.writesTrack then
    ⟨200, content, some gpxMediaType, [(tookHeader, toString took), attachmentHeader]⟩
  else ⟨200, content, some jsonMediaType, [(tookHeader, toString took)]⟩

@[simp] theorem status_delivered (q : RouteQuery) (took : Int) (content : Content) :
    (delivered q took content).status = 200 := by
  unfold delivered
  split <;> rfl

@[simp] theorem content_delivered (q : RouteQuery) (took : Int) (content : Content) :
    (delivered q took content).content = content := by
  unfold delivered
  split <;> rfl

theorem took_mem_delivered (q : RouteQuery) (took : Int) (content : Content) :
    (tookHeader, toString took) ∈ (delivered q took content).headers := by
  unfold delivered
  split <;> exact List.mem_cons_self

/-- Only a track document is sent as a file. -/
theorem attachment_delivered_iff (q : RouteQuery) (took : Int) (content : Content) :
    (∃ value, ("Content-Disposition", value) ∈ (delivered q took content).headers) ↔
      q.writesTrack = true := by
  unfold delivered
  split
  · rename_i htrack
    exact iff_of_true ⟨_, List.mem_cons_of_mem _ List.mem_cons_self⟩ htrack
  · rename_i htrack
    simp [tookHeader, htrack]

theorem trackDocument_eq (hxml : q.writesTrack = true) (outcome : Outcome) (took now : Int) :
    service.trackDocument q outcome took now =
      delivered q took <$> service.rendered q outcome took now := by
  unfold trackDocument rendered delivered
  simp only [hxml, if_true]
  cases outcomeTrack (q.trackOutput service.settings) outcome q.gpxMillis now <;> rfl

theorem routeDocument_eq (hjson : q.writesTrack = false) (outcome : Outcome) (took now : Int) :
    service.routeDocument (pure q.output) outcome took =
      delivered q took <$> service.rendered q outcome took now := by
  show (routeJson q.output (service.responseInfo took) outcome >>= _) = _
  unfold rendered delivered
  simp only [hjson, Bool.false_eq_true, if_false]
  cases routeJson q.output (service.responseInfo took) outcome <;> rfl

/-- An outcome without faults is answered with the rendered document, or with the fault of
    rendering it. -/
theorem result_routeQuery_of_rendered {attempted : Attempted} {caller : Caller} {line : String}
    {took : Int} (hf : attempted.outcome.faults = [])
    (hline : logOutcome attempted.outcome = .ok line) (htook : clock.wholeMillis = .ok took)
    (ha : (service.run (Request.ofQuery service.options q raw)).result = .ok attempted) :
    (service.routeQuery q raw caller clock).result =
      written (delivered q took <$> service.rendered q attempted.outcome took clock.now)
        fun fault => errorResponse [fault] (some q.outputType) service.settings.gpxCreator := by
  rw [result_routeQuery_of_paths hf hline htook ha]
  cases htrack : q.writesTrack with
  | true => rw [if_pos rfl, trackDocument_eq htrack]
  | false =>
    rw [if_neg Bool.false_ne_true, routeDocument_eq htrack _ took clock.now]
    simp only [errorResponse_of_json htrack]

/-- The root of a track document. -/
theorem root_of_trackXml {options : TrackOptions} {path : Path} {start : Int} {root : Xml}
    (h : trackXml options path start = .ok root) :
    ∃ children, root = .node "gpx" (trackAttributes options) children := by
  unfold trackXml at h
  obtain ⟨time, -, h⟩ := bind_eq_ok.mp h
  dsimp only at h
  split at h
  all_goals
    obtain ⟨route, -, h⟩ := bind_eq_ok.mp h
    split at h
    all_goals
      obtain ⟨track, -, h⟩ := bind_eq_ok.mp h
      cases h
      exact ⟨_, rfl⟩

/-- **A track document is written for exactly one path.** -/
theorem outcomeTrack_eq_ok {options : TrackOptions} {outcome : Outcome} {millis : Option String}
    {now : Int} {text : String} (hp : outcome.paths ≠ [])
    (h : outcomeTrack options outcome millis now = .ok text) :
    (∃ path, outcome.paths = [path]) ∧
      ∃ attributes children, text = xmlDocument (.node "gpx" attributes children) := by
  match hpaths : outcome.paths with
  | [] => exact absurd hpaths hp
  | first :: second :: rest =>
    rw [outcomeTrack_of_several hpaths] at h
    cases h
  | [path] =>
    rw [outcomeTrack_of_single hpaths] at h
    obtain ⟨start, -, h⟩ := bind_eq_ok.mp h
    obtain ⟨root, hroot, rfl⟩ := map_eq_ok.mp h
    obtain ⟨children, rfl⟩ := root_of_trackXml hroot
    exact ⟨⟨path, rfl⟩, _, children, rfl⟩

/-- **A rendered document has the form of its output type**; in XML it stands for one path. -/
theorem delivered_says {outcome : Outcome} {took now : Int} {content : Content}
    (hp : outcome.paths ≠ []) (h : service.rendered q outcome took now = .ok content) :
    (isXmlType q.outputType = true →
      (delivered q took content).IsXml ∧ ∃ path, outcome.paths = [path]) ∧
    (isXmlType q.outputType = false → (delivered q took content).IsJson) := by
  unfold rendered at h
  show (q.writesTrack = true → _) ∧ (q.writesTrack = false → _)
  unfold delivered
  cases htrack : q.writesTrack with
  | true =>
    rw [htrack] at h
    refine ⟨fun _ => ?_, nofun⟩
    obtain ⟨text, htext, rfl⟩ := map_eq_ok.mp h
    obtain ⟨hsingle, attributes, children, hroot⟩ := outcomeTrack_eq_ok hp htext
    exact ⟨⟨⟨attributes, children, congrArg Content.text hroot⟩, Or.inl rfl⟩, hsingle⟩
  | false =>
    rw [htrack] at h
    refine ⟨nofun, fun _ => ⟨?_, rfl⟩⟩
    obtain ⟨json, -, rfl⟩ := map_eq_ok.mp h
    exact ⟨json, rfl⟩

/-! ## 5. Answers -/

/-- **The outcome of a run belongs to one stage**: the faults of the stage that failed, or the paths
    of the engine. -/
theorem outcome_cases {attempted : Attempted}
    (ha : (service.run (Request.ofQuery service.options q raw)).result = .ok attempted) :
    attempted.outcome.faults ≠ [] ∧ service.FailsWith q raw clock attempted.outcome.faults ∨
    attempted.outcome.faults = [] ∧ attempted.outcome.paths ≠ [] ∧
      service.Asks q raw (.ok attempted.outcome) := by
  rcases run_cases ha with ⟨fault, hbuilt, ho⟩ | ⟨r, changed, fault, hbuilt, hp, ho⟩ |
    ⟨r, prepared, hbuilt, hp, -, ho⟩
  · rw [ho]
    exact Or.inl ⟨List.cons_ne_nil _ _, .building hbuilt⟩
  · rw [ho]
    exact Or.inl ⟨List.cons_ne_nil _ _, .preparing hbuilt hp⟩
  · have hasks : service.Asks q raw (service.engine.route prepared).result :=
      ⟨r, prepared, hbuilt, hp, rfl⟩
    rw [ho]
    cases hend : (service.engine.route prepared).result with
    | error fault => exact Or.inl ⟨List.cons_ne_nil _ _, .breaking (hend ▸ hasks)⟩
    | ok outcome =>
      rw [hend] at hasks
      by_cases hf : outcome.faults = []
      · by_cases hpaths : outcome.paths = []
        · rw [ofAsked_of_neither hf hpaths]
          exact Or.inl ⟨List.cons_ne_nil _ _, .nothing hasks hf hpaths⟩
        · rw [ofAsked_of_paths hpaths]
          exact Or.inr ⟨hf, hpaths, hasks⟩
      · rw [ofAsked_of_faults hf]
        exact Or.inl ⟨hf, .answering hasks hf⟩

/-- What is answered without faults took a time. -/
theorem exists_took {attempted : Attempted} {caller : Caller} {line : String} {response : Response}
    (h : (service.routeQuery q raw caller clock).result = .ok response)
    (hf : attempted.outcome.faults = []) (hline : logOutcome attempted.outcome = .ok line)
    (ha : (service.run (Request.ofQuery service.options q raw)).result = .ok attempted) :
    ∃ took, clock.wholeMillis = .ok took := by
  rw [result_routeQuery_of_logged hf hline ha] at h
  obtain ⟨took, htook, -⟩ := bind_eq_ok.mp h
  exact ⟨took, htook⟩

/-- **An answer is a rendered document or the errors of one stage.** -/
theorem routeQuery_cases {caller : Caller} {response : Response}
    (h : (service.routeQuery q raw caller clock).result = .ok response) :
    (∃ outcome took content, service.Delivers q raw clock outcome content ∧
      service.rendered q outcome took clock.now = .ok content ∧
      response = delivered q took content) ∨
    ∃ faults, service.FailsWith q raw clock faults ∧
      errorResponse faults (some q.outputType) service.settings.gpxCreator = .ok response := by
  obtain ⟨attempted, ha, -⟩ := result_run service (Request.ofQuery service.options q raw)
  cases hline : logOutcome attempted.outcome with
  | error fault =>
    rw [result_routeQuery_of_unlogged hline ha] at h
    cases h
  | ok line =>
    rcases outcome_cases ha with ⟨hf, hfails⟩ | ⟨hf, hp, hasks⟩
    · rw [result_routeQuery_of_faults hf ((exists_logOutcome hf).mp ⟨line, hline⟩) ha] at h
      exact Or.inr ⟨_, hfails, h⟩
    · obtain ⟨took, htook⟩ := exists_took h hf hline ha
      rw [result_routeQuery_of_rendered hf hline htook ha] at h
      cases hrendered : service.rendered q attempted.outcome took clock.now with
      | ok content =>
        rw [hrendered] at h
        cases h
        exact Or.inl ⟨_, took, content, ⟨hasks, hf, hp, took, htook, hrendered⟩, hrendered, rfl⟩
      | error fault =>
        rw [hrendered] at h
        unfold written at h
        dsimp only [Functor.map, Except.map] at h
        split at h
        · exact Or.inr ⟨[fault], .rendering hasks hf hp htook hrendered, h⟩
        · cases h

end Answer

/-- **The contract of the answer to a query**, whatever resolver, transformer and engine do.

    * It has status 200 when the query delivers a document, and else status 400.
    * It is XML when the lower-cased output type is `gpx` or `xml`, and else JSON.
    * The time taken stands in the headers of status 200 alone, a file name in those of a track.
    * With status 200 it carries the document, a track only for exactly one path.
    * With status 400 it lists the faults of the stage that failed. -/
theorem route_query_contract (service : Service) (q : RouteQuery) (raw : Grouped) (caller : Caller)
    (clock : Clock) {response : Response}
    (h : (service.routeQuery q raw caller clock).result = .ok response) :
    (response.status = 200 ∨ response.status = 400) ∧
    (response.status = 200 ↔ ∃ outcome content, service.Delivers q raw clock outcome content) ∧
    (response.IsXml ↔ lower q.outputType ∈ ["gpx", "xml"]) ∧
    (response.IsJson ↔ lower q.outputType ∉ ["gpx", "xml"]) ∧
    ((∃ value, (tookHeader, value) ∈ response.headers) ↔ response.status = 200) ∧
    ((∃ value, ("Content-Disposition", value) ∈ response.headers) ↔
      response.status = 200 ∧ response.IsXml) ∧
    (∀ outcome content, service.Delivers q raw clock outcome content →
      response.content = content ∧ (response.IsXml → ∃ path, outcome.paths = [path])) ∧
    (response.status = 400 →
      ∃ faults, service.FailsWith q raw clock faults ∧ response.content.Lists faults) := by
  rcases routeQuery_cases h with
    ⟨outcome, took, content, hd, hrendered, rfl⟩ | ⟨faults, hfails, hanswer⟩
  · obtain ⟨hxml, hjson⟩ := delivered_says hd.paths hrendered
    obtain ⟨hformXml, hformJson⟩ := forms_of_type (fun htype => (hxml htype).1) hjson
    have hstatus : (delivered q took content).status = 200 := status_delivered q took content
    refine ⟨Or.inl hstatus, iff_of_true hstatus ⟨outcome, content, hd⟩, hformXml, hformJson, ?_, ?_,
      ?_, ?_⟩
    · exact iff_of_true ⟨_, took_mem_delivered q took content⟩ hstatus
    · rw [attachment_delivered_iff, and_iff_right hstatus, hformXml]
      exact isXmlType_iff
    · intro other different ho
      obtain ⟨rfl, rfl⟩ := delivers_unique hd ho
      refine ⟨content_delivered q took content, fun hform => (hxml ?_).2⟩
      exact isXmlType_iff.mpr (hformXml.mp hform)
    · intro hother
      rw [hstatus] at hother
      cases hother
  · obtain ⟨hheaders, hxml, hjson, hlists⟩ := errorResponse_says hanswer
    have hstatus : response.status = 400 := status_errorResponse hanswer
    have hno := not_delivers_of_failsWith hfails
    obtain ⟨hformXml, hformJson⟩ := forms_of_type hxml hjson
    have hnot : response.status ≠ 200 := by
      rw [hstatus]
      decide
    refine ⟨Or.inr hstatus, ?_, hformXml, hformJson, ?_, ?_, ?_, fun _ => ⟨faults, hfails, hlists⟩⟩
    · exact iff_of_false hnot fun ⟨outcome, content, hd⟩ => hno outcome content hd
    · rw [hheaders]
      exact iff_of_false (fun ⟨value, hvalue⟩ => List.not_mem_nil hvalue) hnot
    · rw [hheaders]
      exact iff_of_false (fun ⟨value, hvalue⟩ => List.not_mem_nil hvalue) fun hboth => hnot hboth.1
    · exact fun outcome content hd => absurd hd (hno outcome content)

/-- The parameters of a query for a file without a track. -/
def filePairs : List (String × String) :=
  villagePairs [("type", "GPX"), ("gpx.track", "false")]

theorem route_query_contract_file :
    ∃ q response, RouteQuery.check ⟨groupPairs filePairs, []⟩ = .passed q ∧
      (village.routeQuery q (groupPairs filePairs) {} {}).result = .ok response ∧
      response.IsXml ∧ (∃ value, (tookHeader, value) ∈ response.headers) ∧
      ∃ value, ("Content-Disposition", value) ∈ response.headers := by
  have hread : (RouteQuery.check ⟨groupPairs filePairs, []⟩).passed?.any (fun q =>
      isXmlType q.outputType &&
        (village.routeQuery q (groupPairs filePairs) {} {}).result.toOption.any
          (·.status == 200)) = true := by decide +kernel
  obtain ⟨q, hq, hanswered⟩ := Check.exists_passed_of_any hread
  rw [Bool.and_eq_true] at hanswered
  obtain ⟨htype, hanswered⟩ := hanswered
  obtain ⟨response, hresponse, hstatus⟩ := exists_ok_of_any hanswered
  obtain ⟨-, -, hform, -, htook, hfile, -, -⟩ := route_query_contract village q _ {} {} hresponse
  have hxml : response.IsXml := hform.mpr (isXmlType_iff.mp htype)
  have hok : response.status = 200 := beq_iff_eq.mp hstatus
  exact ⟨q, response, hq, hresponse, hxml, htook.mpr hok, hfile.mpr ⟨hok, hxml⟩⟩

end Service

end Waypost
