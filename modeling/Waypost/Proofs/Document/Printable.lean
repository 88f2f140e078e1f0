import Waypost.Proofs.Document.Sound
import Waypost.Proofs.Geo.Coordinate

/-!
# Documents that can be sent

The document with the customary options of an outcome. What an engine says goes into it as it came,
so it can only be written when headings are numbers, and only be sent when doubles are finite, whole
numbers have few digits and texts can be encoded.

* `Instruction.Printable`, `DetailRun.Printable`, `Path.Printable` -- an instruction, a run of a
  detail and a path of which that is true;
* `printable_instruction`, `printable_path` -- their objects can be written and sent exactly then;
* `printable_document` -- **so it is with the document of an outcome**;
* `Fault.Unanswered` -- a fault that no later stage answers;
* `unanswered_document` -- a document that cannot be written fails with no other fault;
* `broken_routeJson` -- whatever options are asked for, it fails with breakdowns alone.
-/

namespace Waypost

open Decimal Text

/-- An instruction whose object can be written and sent. -/
structure Instruction.Printable (i : Instruction) : Prop where
  distance : i.distance.isFinite = true
  counts : ∀ n ∈ [i.sign, i.first, i.last, i.time], fewDigits n = true
  text : encodable i.text = true
  streetName : i.streetName.writable = true
  headed : i.Headed
  heading : ∀ value, i.heading = some value → value.writable = true

/-- A run of a detail that can be sent. -/
structure DetailRun.Printable (run : DetailRun) : Prop where
  first : fewDigits run.first = true
  last : fewDigits run.last = true
  value : run.value.writable = true

/-- A path whose object can be written and sent. -/
structure Path.Printable (path : Path) : Prop where
  distance : path.distance.isFinite = true
  weight : path.weight.isFinite = true
  time : fewDigits path.time = true
  instructions : ∀ list, path.instructions = some list → ∀ i ∈ list, i.Printable
  details : ∀ detail ∈ path.details, encodable detail.1 = true ∧ ∀ run ∈ detail.2, run.Printable

/-- A breakdown that is not one over a value, and that can be told. -/
structure Fault.Unanswered (fault : Fault) : Prop where
  value : fault.isValueFault = false
  told : fault.Told

/-- What no later stage answers broke down. -/
theorem Fault.Unanswered.broken {fault : Fault} (h : fault.Unanswered) : fault.Broken := by
  obtain ⟨cause, rfl, -⟩ := h.told
  trivial

/-! ## 1. Instructions -/

theorem printable_heading {value : Json} :
    (∃ json, roundHeading value = .ok json ∧ json.writable = true) ↔
      value.writable = true ∧ ∃ number, Number.ofJson? value = some number := by
  cases value with
  | bool b => exact iff_of_true ⟨_, rfl, by cases b <;> decide⟩ ⟨rfl, _, rfl⟩
  | int n => exact ⟨fun ⟨_, hint, hfew⟩ => ⟨by cases hint; exact hfew, _, rfl⟩,
      fun ⟨hfew, _⟩ => ⟨_, rfl, hfew⟩⟩
  | float x =>
    constructor
    · rintro ⟨_, ⟨⟩, hfinite⟩
      exact ⟨(isFinite_roundPlaces 2 x).symm.trans hfinite, _, rfl⟩
    · rintro ⟨hfinite, -⟩
      exact ⟨_, rfl, (isFinite_roundPlaces 2 x).trans hfinite⟩
  | null | str | arr | obj =>
    exact iff_of_false (by rintro ⟨_, ⟨⟩, -⟩) (by rintro ⟨-, _, ⟨⟩⟩)

/-- A wording around the name of a kind can be encoded if the words can. -/
theorem encodable_kindName {before after : String} (hbefore : encodable before = true)
    (hafter : encodable after = true) (value : Json) :
    encodable (before ++ value.kindName ++ after) = true := by
  have hnames : ∀ name ∈ ["NoneType", "bool", "int", "float", "str", "list", "dict"],
      encodable name = true := by decide
  have hname : encodable value.kindName = true := hnames _ (by cases value <;> simp [Json.kindName])
  rw [encodable_append, encodable_append, hbefore, hname, hafter]
  rfl

theorem unanswered_heading (value : Json) : FailsOnly Fault.Unanswered (roundHeading value) := by
  cases value with
  | bool | int | float => exact failsOnly_of_ok ⟨_, rfl⟩
  | null | str | arr | obj =>
    refine failsOnly_error ⟨rfl, _, rfl, ?_⟩
    exact encodable_kindName (by decide : encodable "type " = true)
      (by decide : encodable " doesn't define __round__ method" = true) _

/-- The members that the object of an instruction has whatever its heading is. -/
def Instruction.plainMembers (i : Instruction) : Members :=
  [("distance", .float (roundPlaces 3 i.distance)), ("sign", .int i.sign),
    ("interval", .arr [.int i.first, .int i.last]), ("text", .str i.text), ("time", .int i.time),
    ("street_name", i.streetName)]

theorem instructionJson_of_none {i : Instruction} (h : i.heading = none) :
    instructionJson i = .ok (.obj i.plainMembers) := by
  unfold instructionJson
  rw [h]
  rfl

theorem instructionJson_of_some {i : Instruction} {value : Json} (h : i.heading = some value) :
    instructionJson i =
      (fun heading => .obj (i.plainMembers ++ [("heading", heading)])) <$> roundHeading value := by
  unfold instructionJson
  rw [h]
  dsimp only
  cases roundHeading value <;> rfl

theorem membersWritable_plainMembers (i : Instruction) :
    membersWritable i.plainMembers = true ↔
      i.distance.isFinite = true ∧ (∀ n ∈ [i.sign, i.first, i.last, i.time], fewDigits n = true) ∧
        encodable i.text = true ∧ i.streetName.writable = true := by
  simp +decide [Instruction.plainMembers, membersWritable, itemsWritable, Json.writable,
    isFinite_roundPlaces]
  tauto

/-- The object of an instruction can be written and sent exactly when the instruction is
    printable. -/
theorem printable_instruction {i : Instruction} :
    (∃ json, instructionJson i = .ok json ∧ json.writable = true) ↔ i.Printable := by
  cases h : i.heading with
  | none =>
    rw [instructionJson_of_none h]
    constructor
    · rintro ⟨_, ⟨⟩, hwritable⟩
      obtain ⟨hdistance, hcounts, htext, hname⟩ := (membersWritable_plainMembers i).mp hwritable
      refine ⟨hdistance, hcounts, htext, hname, fun value hvalue => ?_, fun value hvalue => ?_⟩
      · rw [h] at hvalue
        cases hvalue
      · rw [h] at hvalue
        cases hvalue
    · intro hp
      exact ⟨_, rfl,
        (membersWritable_plainMembers i).mpr ⟨hp.distance, hp.counts, hp.text, hp.streetName⟩⟩
  | some value =>
    have hword : encodable "heading" = true := by decide
    rw [instructionJson_of_some h, exists_map_of]
    constructor
    · rintro ⟨heading, hheading, hwritable⟩
      obtain ⟨hplain, hlast⟩ := membersWritable_append.mp hwritable
      obtain ⟨hdistance, hcounts, htext, hname⟩ := (membersWritable_plainMembers i).mp hplain
      have hsent : heading.writable = true := (membersWritable_iff.mp hlast _ List.mem_cons_self).2
      obtain ⟨hvalue, hnumber⟩ := printable_heading.mp ⟨heading, hheading, hsent⟩
      refine ⟨hdistance, hcounts, htext, hname, fun other hother => ?_, fun other hother => ?_⟩
      · cases h.symm.trans hother
        exact hnumber
      · cases h.symm.trans hother
        exact hvalue
    · intro hp
      obtain ⟨heading, hheading, hsent⟩ :=
        printable_heading.mpr ⟨hp.heading value h, hp.headed value h⟩
      refine ⟨heading, hheading, membersWritable_append.mpr ⟨?_, ?_⟩⟩
      · exact (membersWritable_plainMembers i).mpr
          ⟨hp.distance, hp.counts, hp.text, hp.streetName⟩
      · exact membersWritable_iff.mpr (List.forall_mem_singleton.mpr ⟨hword, hsent⟩)

theorem unanswered_instruction (i : Instruction) :
    FailsOnly Fault.Unanswered (instructionJson i) := by
  cases h : i.heading with
  | none => exact failsOnly_of_ok ⟨_, instructionJson_of_none h⟩
  | some value =>
    rw [instructionJson_of_some h, failsOnly_map]
    exact unanswered_heading value

theorem instructionMembers_of_some {path : Path} {list : List Instruction}
    (h : path.instructions = some list) : instructionMembers path =
      (fun items => [("instructions", .arr items)]) <$> list.mapM instructionJson := by
  unfold instructionMembers
  rw [h]
  dsimp only
  cases list.mapM instructionJson <;> rfl

theorem instructionMembers_of_none {path : Path} (h : path.instructions = none) :
    instructionMembers path = .ok [] := by
  unfold instructionMembers
  rw [h]

theorem printable_instructions {path : Path} :
    (∃ members, instructionMembers path = .ok members ∧ membersWritable members = true) ↔
      ∀ list, path.instructions = some list → ∀ i ∈ list, i.Printable := by
  cases h : path.instructions with
  | none => exact iff_of_true ⟨[], instructionMembers_of_none h, rfl⟩ nofun
  | some list =>
    have hword : encodable "instructions" = true := by decide
    have hitems : ∀ items : List Json, membersWritable [("instructions", .arr items)] = true ↔
        ∀ item ∈ items, item.writable = true := by
      intro items
      rw [membersWritable_iff, List.forall_mem_singleton]
      exact (and_iff_right hword).trans itemsWritable_iff
    simp only [instructionMembers_of_some h, exists_map_of, hitems, exists_mapM_of,
      printable_instruction]
    exact ⟨fun hall other hother => by cases hother; exact hall, fun hall => hall list rfl⟩

theorem unanswered_instructions (path : Path) :
    FailsOnly Fault.Unanswered (instructionMembers path) := by
  cases h : path.instructions with
  | none => exact failsOnly_of_ok ⟨[], instructionMembers_of_none h⟩
  | some list =>
    rw [instructionMembers_of_some h, failsOnly_map]
    exact FailsOnly.mapM fun i _ => unanswered_instruction i

/-! ## 2. Paths -/

/-- The geometry of a path can always be written and sent. -/
theorem exists_geometryMembers (path : Path) :
    ∃ members, geometryMembers {} path = .ok members ∧ membersWritable members = true := by
  have hpoints : ∀ points, ∃ text, pointsJson {} points none = .ok (.str text) ∧
      encodable text = true := by
    intro points
    obtain ⟨text, htext⟩ := exists_encodePolyline points
    refine ⟨text, ?_, encodable_polyline htext⟩
    unfold pointsJson
    rw [if_pos rfl, htext]
    rfl
  obtain ⟨line, hline, hlineText⟩ := hpoints path.points
  obtain ⟨snapped, hsnapped, hsnappedText⟩ := hpoints path.snapped
  have hmultiplier : (1e5 : Float).isFinite = true := by decide +kernel
  have hbox := itemsWritable_boundingBox path.points
  unfold geometryMembers
  rw [show ((({} : OutputOptions).elevation && path.hasElevation) = false) from rfl]
  simp only [Bool.false_eq_true, if_false, hline, hsnapped, ok_bind, if_true]
  cases path.snapped.isEmpty <;> cases path.points.isEmpty <;>
    exact ⟨_, rfl, by
      simp +decide [membersWritable, Json.writable, hmultiplier, hbox, hlineText, hsnappedText]⟩

/-- The members that the object of a path has besides geometry and instructions. -/
def Path.plainMembers (path : Path) : Members :=
  [("distance", .float (roundPlaces 3 path.distance)),
    ("weight", .float (roundPlaces 6 path.weight)), ("time", .int path.time), ("transfers", .int 0)]

theorem membersWritable_pathMembers (path : Path) :
    membersWritable path.plainMembers = true ↔
      path.distance.isFinite = true ∧ path.weight.isFinite = true ∧
        fewDigits path.time = true := by
  have hzero : fewDigits 0 = true := by decide
  simp +decide [Path.plainMembers, membersWritable, Json.writable, isFinite_roundPlaces, hzero]

theorem writable_run {run : DetailRun} : run.toJson.writable = true ↔ run.Printable := by
  simp only [DetailRun.toJson, Json.writable, itemsWritable, Bool.and_eq_true, and_true]
  exact ⟨fun ⟨hfirst, hlast, hvalue⟩ => ⟨hfirst, hlast, hvalue⟩,
    fun hp => ⟨hp.first, hp.last, hp.value⟩⟩

theorem writable_detailsJson {details : List (String × List DetailRun)} :
    (detailsJson details).writable = true ↔
      ∀ detail ∈ details, encodable detail.1 = true ∧ ∀ run ∈ detail.2, run.Printable := by
  have hruns : ∀ runs : List DetailRun, (Json.arr (runs.map DetailRun.toJson)).writable = true ↔
      ∀ run ∈ runs, run.Printable := by
    intro runs
    rw [Json.writable, itemsWritable_iff, List.forall_mem_map]
    simp only [writable_run]
  rw [detailsJson, Json.writable, membersWritable_iff, List.forall_mem_map]
  simp only [hruns]

/-- With the customary options the object of a path waits for its instructions alone. -/
theorem pathJson_eq (path : Path) : ∃ geometry, membersWritable geometry = true ∧
    pathJson {} path = (fun instructions => .obj (path.plainMembers ++ geometry ++ instructions
      ++ [("legs", .arr []), ("details", detailsJson path.details)])) <$>
        instructionMembers path := by
  obtain ⟨geometry, hgeometry, hwritable⟩ := exists_geometryMembers path
  refine ⟨geometry, hwritable, ?_⟩
  unfold pathJson
  simp only [if_true, hgeometry, ok_bind, Bool.false_eq_true, if_false, List.append_nil]
  cases instructionMembers path <;> rfl

/-- The object of a path can be written and sent exactly when the path is printable. -/
theorem printable_path {path : Path} :
    (∃ json, pathJson {} path = .ok json ∧ json.writable = true) ↔ path.Printable := by
  obtain ⟨geometry, hgeometry, hpath⟩ := pathJson_eq path
  have hwritable : ∀ instructions : Members,
      (Json.obj (path.plainMembers ++ geometry ++ instructions
        ++ [("legs", .arr []), ("details", detailsJson path.details)])).writable = true ↔
      (path.distance.isFinite = true ∧ path.weight.isFinite = true ∧
          fewDigits path.time = true) ∧
        membersWritable instructions = true ∧
          ∀ detail ∈ path.details, encodable detail.1 = true ∧
            ∀ run ∈ detail.2, run.Printable := by
    intro instructions
    have hlast : membersWritable [("legs", .arr []), ("details", detailsJson path.details)] = true ↔
        (detailsJson path.details).writable = true := by
      simp +decide [membersWritable, Json.writable, itemsWritable]
    rw [Json.writable, membersWritable_append, membersWritable_append, membersWritable_append,
      hlast, writable_detailsJson, membersWritable_pathMembers]
    simp only [hgeometry, and_true, and_assoc]
  rw [hpath, exists_map_of]
  constructor
  · rintro ⟨instructions, hinstructions, hsent⟩
    obtain ⟨⟨hdistance, hweight, htime⟩, hmembers, hdetails⟩ := (hwritable instructions).mp hsent
    have hall := printable_instructions.mp ⟨instructions, hinstructions, hmembers⟩
    exact ⟨hdistance, hweight, htime, hall, hdetails⟩
  · intro hp
    obtain ⟨instructions, hinstructions, hmembers⟩ := printable_instructions.mpr hp.instructions
    exact ⟨instructions, hinstructions, (hwritable instructions).mpr
      ⟨⟨hp.distance, hp.weight, hp.time⟩, hmembers, hp.details⟩⟩

theorem unanswered_path (path : Path) : FailsOnly Fault.Unanswered (pathJson {} path) := by
  obtain ⟨geometry, _, hpath⟩ := pathJson_eq path
  rw [hpath, failsOnly_map]
  exact unanswered_instructions path

/-! ## 3. Documents -/

section Document

variable (info : ResponseInfo) (outcome : Outcome)

theorem routeJson_eq : routeJson {} info outcome =
    (fun paths => .obj [("hints", .obj outcome.debug), ("info", info.toJson),
      ("paths", .arr paths)]) <$> outcome.paths.mapM (pathJson {}) := by
  unfold routeJson
  cases outcome.paths.mapM (pathJson {}) <;> rfl

variable {info outcome}

/-- **A document can be written and sent exactly when all of its parts can**: what is said about the
    answer as a whole, the paths and the debug members. -/
theorem printable_document :
    (∃ json, routeJson {} info outcome = .ok json ∧ json.writable = true) ↔
      info.toJson.writable = true ∧ (∀ path ∈ outcome.paths, path.Printable) ∧
        membersWritable outcome.debug = true := by
  have hwritable : ∀ paths : List Json,
      (Json.obj [("hints", .obj outcome.debug), ("info", info.toJson),
        ("paths", .arr paths)]).writable = true ↔
      info.toJson.writable = true ∧ membersWritable outcome.debug = true ∧
        ∀ path ∈ paths, path.writable = true := by
    intro paths
    simp +decide [membersWritable, Json.writable, itemsWritable_iff, and_left_comm]
  rw [routeJson_eq, exists_map_of]
  simp only [hwritable]
  constructor
  · rintro ⟨paths, hpaths, hinfo, hdebug, hsent⟩
    have hall := exists_mapM_of.mp ⟨paths, hpaths, hsent⟩
    exact ⟨hinfo, fun path hp => printable_path.mp (hall path hp), hdebug⟩
  · intro ⟨hinfo, hall, hdebug⟩
    obtain ⟨paths, hpaths, hsent⟩ :=
      exists_mapM_of.mpr fun path hp => printable_path.mpr (hall path hp)
    exact ⟨paths, hpaths, hinfo, hdebug, hsent⟩

/-- **A document that cannot be written fails with a fault that no later stage answers.** -/
theorem unanswered_document : FailsOnly Fault.Unanswered (routeJson {} info outcome) := by
  rw [routeJson_eq, failsOnly_map]
  exact FailsOnly.mapM fun path _ => unanswered_path path

end Document

theorem broken_pathJson (options : OutputOptions) (path : Path) :
    FailsOnly Fault.Broken (pathJson options path) := by
  have hinstructions : FailsOnly Fault.Broken (instructionMembers path) :=
    (unanswered_instructions path).mono fun _ => Fault.Unanswered.broken
  unfold pathJson
  dsimp only
  -- geometry and instructions are there or not
  cases options.calcPoints with
  | true =>
    refine (broken_geometryMembers options path).bind fun geometry _ => ?_
    cases options.instructions with
    | true => exact hinstructions.bind fun instructions _ => failsOnly_of_ok ⟨_, rfl⟩
    | false => exact failsOnly_of_ok ⟨_, rfl⟩
  | false =>
    cases options.instructions with
    | true => exact hinstructions.bind fun instructions _ => failsOnly_of_ok ⟨_, rfl⟩
    | false => exact failsOnly_of_ok ⟨_, rfl⟩

/-- **A document with whatever options that cannot be written broke down.** -/
theorem broken_routeJson (options : OutputOptions) (info : ResponseInfo) (outcome : Outcome) :
    FailsOnly Fault.Broken (routeJson options info outcome) :=
  (FailsOnly.mapM fun path _ => broken_pathJson options path).bind fun _ _ =>
    failsOnly_of_ok ⟨_, rfl⟩

/-- **What is said about an answer as a whole can be sent exactly when its parts can.** -/
theorem writable_info {info : ResponseInfo} (htook : fewDigits info.took = true) :
    info.toJson.writable = true ↔
      (∀ text ∈ info.copyrights, encodable text = true) ∧
        (info.roadDataTimestamp.truthy = true → info.roadDataTimestamp.writable = true) := by
  have hfixed : membersWritable [("copyrights", jsonTexts info.copyrights),
      ("took", .int info.took)] = true ↔ ∀ text ∈ info.copyrights, encodable text = true := by
    simp +decide [membersWritable, writable_jsonTexts, Json.writable, htook]
  unfold ResponseInfo.toJson
  rw [Json.writable, membersWritable_append, hfixed]
  refine and_congr_right fun _ => ?_
  split
  · rename_i htruthy
    simp +decide [membersWritable, htruthy]
  · rename_i hnot
    exact iff_of_true rfl fun htruthy => absurd htruthy hnot

end Waypost
