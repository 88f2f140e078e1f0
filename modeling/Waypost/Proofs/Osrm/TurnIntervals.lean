import Waypost.Proofs.Osrm.Content
import Waypost.Proofs.Tiling

/-!
# Turn instructions tile a path

Steps are read leg by leg, with a pointer that moves on by the segments of each step. The geometries
of the steps and that of the whole path come from different parts of an answer, so they need not
fit: steps may be too short or too long for the path, empty, or without a geometry.

* `Json.steps` -- the steps of legs, each with the number of its leg;
* `Json.segments`, `segmentsOf` -- the segments of one step and of several;
* `ReadAs` -- a step and the instruction that it is read as;
* `Instruction.Tells` -- what an instruction says about its step;
* `read_stepInstruction`, `read_legInstructions`, `read_instructionsFrom` -- one step, a leg, then
  all legs: each row of instructions begins at the pointer and ends where the pointer is left;
* `turnInstructions_tile` -- **the instructions of legs tile the points of a path** up to its last
  one or as far as the steps reach, one instruction for each step.
-/

namespace Waypost

/-! ## 1. Steps -/

namespace Json

/-- How many parts a value has. What cannot be counted has none. -/
def parts : Json → Nat
  | .arr items => items.length
  | .str s => Text.pointCount s
  | .obj members => members.length
  | _ => 0

/-- Whether a step arrives at the end of its leg. -/
def arrives (step : Json) : Bool := ((step.member "maneuver").member "type").isText "arrive"

/-- The segments of a step: one less than the points of its geometry. To arrive takes none. -/
def segments (step : Json) : Nat :=
  if step.arrives then 0 else ((step.member "geometry").member "coordinates").parts - 1

/-- The steps of some legs in order, each with the number of its leg. -/
def stepsFrom (number : Nat) (legs : List Json) : List (Nat × Json) :=
  (legs.zipIdx number).flatMap fun (leg, n) => (leg.member "steps").listed.map fun step => (n, step)

/-- The steps of all legs in order, each with the number of its leg. -/
def steps (legs : Json) : List (Nat × Json) := stepsFrom 0 legs.listed

theorem stepsFrom_cons (number : Nat) (leg : Json) (rest : List Json) :
    stepsFrom number (leg :: rest) =
      (leg.member "steps").listed.map (fun step => (number, step)) ++
        stepsFrom (number + 1) rest := rfl

theorem parts_of_count {value : Json} {n : Nat} (h : value.count = .ok n) : n = value.parts := by
  cases value <;> cases h <;> rfl

/-- A list that is not there has no parts. -/
theorem parts_getD (members : Members) (key : String) :
    (members.getD key (.arr [])).parts = (members.getD key .null).parts := by
  unfold Members.getD
  cases members.get? key <;> rfl

/-- An object that is not there has no members. -/
theorem member_getD_obj (members : Members) (key inner : String) :
    (members.getD key (.obj [])).member inner = (members.getD key .null).member inner := by
  unfold Members.getD
  cases members.get? key <;> rfl

end Json

/-- The segments of several steps. -/
def segmentsOf : List (Nat × Json) → Nat
  | [] => 0
  | step :: rest => step.2.segments + segmentsOf rest

theorem segmentsOf_append (steps more : List (Nat × Json)) :
    segmentsOf (steps ++ more) = segmentsOf steps + segmentsOf more := by
  induction steps with
  | nil => exact (Nat.zero_add _).symm
  | cons step rest ih =>
    rw [List.cons_append, segmentsOf, ih, segmentsOf, Nat.add_assoc]

/-- A step that does not arrive has as many segments as its geometry has. -/
theorem segments_of_stepSegments {members : Members} {n : Nat}
    (h : stepSegments members = .ok n) (hturn : (Json.obj members).arrives = false) :
    n = (Json.obj members).segments := by
  unfold stepSegments at h
  obtain ⟨geometry, hgeometry, h⟩ := bind_eq_ok.mp h
  obtain ⟨count, hcount, h⟩ := bind_eq_ok.mp h
  cases h
  have hparts := Json.parts_of_count hcount
  rw [Json.parts_getD, ← Json.member_obj, Json.member_of_present hgeometry] at hparts
  unfold Json.segments
  rw [hturn, if_neg Bool.false_ne_true, hparts]

/-! ## 2. Signs -/

theorem mem_of_lookup_eq_some {table : List (String × Int)} {name : String} {sign : Int}
    (h : table.lookup name = some sign) : sign ∈ table.map (·.2) := by
  obtain ⟨before, after, rfl, -⟩ := List.lookup_eq_some_iff.mp h
  exact List.mem_map_of_mem (List.mem_append_right before List.mem_cons_self)

/-- A sign for neither kind of arrival. -/
def Sign.IsTurn (sign : Int) : Prop := sign ≠ Sign.finish ∧ sign ≠ Sign.reachedVia

instance (sign : Int) : Decidable (Sign.IsTurn sign) := inferInstanceAs (Decidable (_ ∧ _))

theorem isTurn_of_modifierSign {modifier : Json} {sign : Int}
    (h : modifierSign modifier = .ok sign) : Sign.IsTurn sign := by
  have hknown : ∀ sign ∈ Sign.ofModifier.map (·.2), Sign.IsTurn sign := by decide
  unfold modifierSign at h
  split at h
  · rename_i name
    cases h
    cases hfound : Sign.ofModifier.lookup name with
    | none => exact hknown Sign.straight (by decide)
    | some sign => exact hknown sign (mem_of_lookup_eq_some hfound)
  · cases h
  · cases h
  · cases h
    exact hknown Sign.straight (by decide)

/-- **Arriving, and nothing else, has the sign of an arrival**: that of the goal in the last leg,
    and that of a stop in any other. -/
theorem stepSign_cases {maneuver : Members} {isLastLeg : Bool} {sign : Int}
    (h : stepSign maneuver isLastLeg = .ok sign) :
    if (maneuver.getD "type" .null).isText "arrive" then
      sign = if isLastLeg then Sign.finish else Sign.reachedVia
    else Sign.IsTurn sign := by
  have hkind : (maneuver.getD "type" (.str "")).isText "arrive" =
      (maneuver.getD "type" .null).isText "arrive" := by
    unfold Members.getD
    cases maneuver.get? "type" <;> rfl
  unfold stepSign at h
  dsimp only at h
  rw [hkind] at h
  split at h
  · rename_i harrives
    cases h
    rw [if_pos harrives]
  · rename_i harrives
    rw [if_neg harrives]
    split at h
    · cases h
      decide
    · split at h
      · cases h
        decide
      · split at h
        · obtain ⟨isLeft, _, h⟩ := bind_eq_ok.mp h
          cases isLeft <;> cases h <;> decide
        · exact isTurn_of_modifierSign h

/-! ## 3. One step -/

section Reading

variable {lastIndex leg pointer length : Nat} {isLastLeg : Bool} {step : Json} {i : Instruction}

/-- What is read from one step, and from where. -/
theorem stepInstruction_eq_ok
    (h : stepInstruction lastIndex leg isLastLeg pointer step = .ok (i, length)) :
    ∃ members maneuver : Members, step = .obj members ∧
      (maneuver.getD "type" .null).isText "arrive" = step.arrives ∧
      stepSign maneuver isLastLeg = .ok i.sign ∧
      (if step.arrives then length = 0 else stepSegments members = .ok length) ∧
      stepText members maneuver i.sign leg = .ok i.text ∧
      millisOf (members.getD "duration" (.float 0.0)) = .ok i.time ∧
      i.first = (min pointer lastIndex : Nat) ∧
      i.last = (min (pointer + length) lastIndex : Nat) ∧
      (step.arrives = true → i.heading = none) := by
  unfold stepInstruction at h
  rw [Json.members_bind_eq_ok] at h
  obtain ⟨members, rfl, h⟩ := h
  rw [Json.members_bind_eq_ok] at h
  obtain ⟨maneuver, hmaneuver, h⟩ := h
  obtain ⟨sign, hsign, h⟩ := bind_eq_ok.mp h
  have harrives : (Members.getD maneuver "type" .null).isText "arrive" =
      (Json.obj members).arrives := by
    unfold Json.arrives
    rw [Json.member_obj members, ← Json.member_getD_obj, hmaneuver, Json.member_obj]
  refine ⟨members, maneuver, rfl, harrives, ?_⟩
  rw [← harrives]
  dsimp only at h
  -- where the step arrives it takes no segments; what follows is read either way
  split at h
  all_goals
    rename_i hkind
    obtain ⟨segments, hsegments, h⟩ := bind_eq_ok.mp h
    obtain ⟨text, htext, h⟩ := bind_eq_ok.mp h
    obtain ⟨distance, _, h⟩ := bind_eq_ok.mp h
    obtain ⟨time, htime, h⟩ := bind_eq_ok.mp h
    cases h
    refine ⟨hsign, ?_, htext, htime, rfl, rfl, fun hyes => ?_⟩
  · cases hsegments
    rw [if_pos hkind]
  · dsimp only
    split <;> rfl
  · rw [if_neg hkind]
    exact hsegments
  · exact absurd hyes hkind

/-- What an instruction says about a step of one of so many legs. -/
structure Instruction.Tells (lastIndex legs : Nat) (step : Nat × Json) (i : Instruction) :
    Prop where
  last : i.last = min (i.first + (step.2.segments : Int)) lastIndex
  arrival : step.2.arrives = true →
    i.first = i.last ∧ i.heading = none ∧
    (i.sign = Sign.finish ↔ step.1 + 1 = legs) ∧
    (step.1 + 1 ≠ legs →
      i.sign = Sign.reachedVia ∧ i.text = "Waypoint " ++ toString (step.1 + 1))
  turn : step.2.arrives = false → Sign.IsTurn i.sign

/-- **One step: its instruction begins at the pointer**, and the pointer moves on by the segments of
    the step. -/
theorem interval_of_stepInstruction
    (h : stepInstruction lastIndex leg isLastLeg pointer step = .ok (i, length)) :
    length = step.segments ∧ i.first = (min pointer lastIndex : Nat) ∧
      i.last = (min (pointer + length) lastIndex : Nat) := by
  obtain ⟨members, maneuver, rfl, -, -, hlength, -, -, hfirst, hlast, -⟩ :=
    stepInstruction_eq_ok h
  refine ⟨?_, hfirst, hlast⟩
  split at hlength
  · rename_i harrives
    unfold Json.segments
    rw [if_pos harrives, hlength]
  · rename_i hturn
    exact segments_of_stepSegments hlength (Bool.not_eq_true _ ▸ hturn)

/-- The instruction of a step says what there is to say about it. -/
theorem tells_of_stepInstruction
    (h : stepInstruction lastIndex leg isLastLeg pointer step = .ok (i, length)) {legs : Nat}
    (hlast : isLastLeg = true ↔ leg + 1 = legs) : i.Tells lastIndex legs (leg, step) := by
  obtain ⟨hlength, hfirst, hend⟩ := interval_of_stepInstruction h
  obtain ⟨members, maneuver, rfl, hkind, hsign, -, htext, -, -, -, hheading⟩ :=
    stepInstruction_eq_ok h
  have hsign := stepSign_cases hsign
  rw [hkind] at hsign
  refine ⟨?_, fun harrives => ?_, fun hturn => ?_⟩
  · rw [hfirst, hend, hlength]
    dsimp only
    omega
  · have hnone : length = 0 := by
      rw [hlength]
      exact if_pos harrives
    rw [harrives, if_pos rfl] at hsign
    refine ⟨by rw [hfirst, hend, hnone, Nat.add_zero], hheading harrives, ?_, fun hother => ?_⟩
    · rw [← hlast, hsign]
      cases isLastLeg <;> decide
    · have hnot : isLastLeg = false := Bool.eq_false_iff.mpr fun hyes => hother (hlast.mp hyes)
      rw [hnot] at hsign
      rw [hsign] at htext
      obtain ⟨onto, _, htext⟩ := bind_eq_ok.mp htext
      exact ⟨hsign, (Except.ok.inj htext).symm⟩
  · rw [hturn] at hsign
    exact hsign

end Reading

/-! ## 4. Legs -/

/-- A step of a leg and the instruction that it is read as, wherever the pointer stands. -/
def ReadAs (lastIndex leg : Nat) (isLastLeg : Bool) (step : Json) (i : Instruction) : Prop :=
  ∃ pointer length, stepInstruction lastIndex leg isLastLeg pointer step = .ok (i, length)

/-- No text is among what is read as steps. -/
theorem no_text_of_read {lastIndex leg : Nat} {isLastLeg : Bool} {steps : List Json}
    {list : List Instruction} (h : List.Forall₂ (ReadAs lastIndex leg isLastLeg) steps list)
    (s : String) : .str s ∉ steps := by
  induction h with
  | nil => exact List.not_mem_nil
  | cons hread _ ih =>
    intro hmem
    rcases List.mem_cons.mp hmem with rfl | hmem
    · obtain ⟨pointer, length, hread⟩ := hread
      cases hread
    · exact ih hmem

/-- **One leg: its instructions begin at the pointer and end where the pointer is left.** -/
theorem read_legInstructions {lastIndex leg pointer final : Nat} {isLastLeg : Bool}
    {steps : List Json} {list : List Instruction}
    (h : legInstructions lastIndex leg isLastLeg pointer steps = .ok (list, final)) :
    final = pointer + segmentsOf (steps.map fun step => (leg, step)) ∧
    Tiles (min pointer lastIndex : Nat) (list.map Instruction.interval)
      (min final lastIndex : Nat) ∧
    List.Forall₂ (ReadAs lastIndex leg isLastLeg) steps list := by
  induction steps generalizing pointer list with
  | nil =>
    cases h
    exact ⟨rfl, rfl, List.Forall₂.nil⟩
  | cons step rest ih =>
    obtain ⟨⟨i, length⟩, hstep, h⟩ := bind_eq_ok.mp h
    obtain ⟨⟨more, final'⟩, hrest, h⟩ := bind_eq_ok.mp h
    cases h
    obtain ⟨hlength, hfirst, hlast⟩ := interval_of_stepInstruction hstep
    obtain ⟨hfinal, htiles, hread⟩ := ih hrest
    refine ⟨?_, tiles_cons.mpr ⟨hfirst, ?_, ?_⟩, List.Forall₂.cons ⟨_, _, hstep⟩ hread⟩
    · rw [hfinal, hlength, List.map_cons, segmentsOf, Nat.add_assoc]
    · show i.first ≤ i.last
      rw [hfirst, hlast]
      omega
    · show Tiles i.last _ _
      rw [hlast]
      exact htiles

/-- No text is among what is read as legs. -/
theorem no_text_of_legs {lastIndex number pointer : Nat} {legs : List Json}
    {list : List Instruction} (h : instructionsFrom lastIndex number pointer legs = .ok list)
    (s : String) : .str s ∉ legs := by
  induction legs generalizing number pointer list with
  | nil => exact List.not_mem_nil
  | cons leg rest ih =>
    intro hmem
    obtain ⟨members, hmembers, h⟩ := bind_eq_ok.mp h
    obtain ⟨steps, _, h⟩ := bind_eq_ok.mp h
    obtain ⟨⟨here, final⟩, _, h⟩ := bind_eq_ok.mp h
    obtain ⟨more, hrest, _⟩ := bind_eq_ok.mp h
    rcases List.mem_cons.mp hmem with rfl | hmem
    · cases hmembers
    · exact ih hrest hmem

/-- A step with the number of its leg and the instruction that it is read as. -/
def ReadFrom (lastIndex legs : Nat) (step : Nat × Json) (i : Instruction) : Prop :=
  ReadAs lastIndex step.1 (decide (step.1 + 1 = legs)) step.2 i

/-- **All legs: their instructions begin at the pointer** and end as many segments behind it as
    their steps have. -/
theorem read_instructionsFrom {lastIndex number pointer : Nat} {legs : List Json}
    {list : List Instruction} (h : instructionsFrom lastIndex number pointer legs = .ok list) :
    Tiles (min pointer lastIndex : Nat) (list.map Instruction.interval)
      (min (pointer + segmentsOf (Json.stepsFrom number legs)) lastIndex : Nat) ∧
    List.Forall₂ (ReadFrom lastIndex (number + legs.length)) (Json.stepsFrom number legs) list := by
  induction legs generalizing number pointer list with
  | nil =>
    cases h
    exact ⟨rfl, List.Forall₂.nil⟩
  | cons leg rest ih =>
    unfold instructionsFrom at h
    rw [Json.members_bind_eq_ok] at h
    obtain ⟨members, rfl, h⟩ := h
    obtain ⟨steps, hsteps, h⟩ := bind_eq_ok.mp h
    obtain ⟨⟨here, final⟩, hleg, h⟩ := bind_eq_ok.mp h
    obtain ⟨more, hrest, h⟩ := bind_eq_ok.mp h
    cases h
    obtain ⟨hfinal, htiles, hread⟩ := read_legInstructions hleg
    obtain ⟨htilesRest, hreadRest⟩ := ih hrest
    have hlisted : steps = ((Json.obj members).member "steps").listed := by
      rw [Json.items_eq_listed hsteps (no_text_of_read hread), Json.listed_getD, Json.member_obj]
    have hlast : rest.isEmpty = decide (number + 1 = number + (rest.length + 1)) := by
      cases rest with
      | nil => simp
      | cons => simp
    rw [Json.stepsFrom_cons, ← hlisted, segmentsOf_append, List.map_append,
      List.length_cons]
    refine ⟨tiles_append htiles ?_, List.rel_append ?_ ?_⟩
    · rw [← Nat.add_assoc, ← hfinal]
      exact htilesRest
    · rw [List.forall₂_map_left_iff]
      rw [hlast] at hread
      exact hread
    · rw [show number + (rest.length + 1) = number + 1 + rest.length by omega]
      exact hreadRest

/-! ## 5. All legs -/

theorem tells_of_read {lastIndex legs : Nat} {step : Nat × Json} {i : Instruction}
    (h : ReadFrom lastIndex legs step i) : i.Tells lastIndex legs step := by
  obtain ⟨pointer, length, hread⟩ := h
  exact tells_of_stepInstruction hread decide_eq_true_iff

/-- What is read as the instructions of legs for a path with so many points. -/
theorem read_turnInstructions {legs : Json} {count : Nat} {list : List Instruction}
    (h : turnInstructions legs count = .ok list) :
    Tiles 0 (list.map Instruction.interval)
      (min (segmentsOf legs.steps) (count - 1) : Nat) ∧
    List.Forall₂ (ReadFrom (count - 1) legs.listed.length) legs.steps list := by
  obtain ⟨items, hitems, h⟩ := bind_eq_ok.mp h
  have hlisted : items = legs.listed := Json.items_eq_listed hitems (no_text_of_legs h)
  obtain ⟨htiles, hread⟩ := read_instructionsFrom h
  rw [Nat.zero_add, hlisted] at htiles hread
  rw [Nat.zero_min] at htiles
  exact ⟨htiles, hread⟩

/-- **The instructions of legs tile the points of a path.** There is one for each step, in order,
    and it says what there is to say about its step. Each begins where the one before ends, the
    first at the first point, and the last ends at the last point of the path or as far as the steps
    reach. Where they reach it, every segment of the path lies in exactly one instruction. -/
theorem turnInstructions_tile {legs : Json} {count : Nat} {list : List Instruction}
    (h : turnInstructions legs count = .ok list) :
    List.Forall₂ (Instruction.Tells (count - 1) legs.listed.length) legs.steps list ∧
    (∀ i ∈ list, 0 ≤ i.first ∧ i.first ≤ i.last ∧ i.last ≤ (count - 1 : Nat)) ∧
    Tiles 0 (list.map Instruction.interval) (min (segmentsOf legs.steps) (count - 1) : Nat) ∧
    (count - 1 ≤ segmentsOf legs.steps → ∀ index : Int, 0 < index → index ≤ (count - 1 : Nat) →
      ∃! k, LiesAt (list.map Instruction.interval) index k) := by
  obtain ⟨htiles, hread⟩ := read_turnInstructions h
  refine ⟨hread.imp fun _ _ => tells_of_read, fun i hi => ?_, htiles, ?_⟩
  · obtain ⟨hlow, hle, hhigh⟩ := bounds_of_tiles htiles i.interval (List.mem_map_of_mem hi)
    exact ⟨hlow, hle, by dsimp only [Instruction.interval] at hhigh; omega⟩
  · intro hreach index hlow hhigh
    rw [Nat.min_eq_right hreach] at htiles
    exact existsUnique_of_tiles htiles hlow hhigh

/-- Two legs whose steps do not fit a path with five points: the step that arrives at the stop has a
    geometry, the next has none, one is empty, and the last turn has more points than are left. -/
def unfitLegs : Json :=
  let points (n : Nat) : Json := .obj [("coordinates", .arr (List.replicate n (.arr [])))]
  let maneuver (kind : String) : Json := .obj [("type", .str kind), ("bearing_after", .int 30)]
  .arr [
    .obj [("steps", .arr [
      .obj [("maneuver", maneuver "depart"), ("geometry", points 3)],
      .obj [("maneuver", maneuver "arrive"), ("geometry", points 2)]])],
    .obj [("steps", .arr [
      .obj [("maneuver", maneuver "turn")],
      .obj [("maneuver", maneuver "fork"), ("geometry", points 0)],
      .obj [("maneuver", maneuver "turn"), ("geometry", points 5)],
      .obj [("maneuver", maneuver "arrive")]])]]

theorem turnInstructions_tile_unfitLegs :
    ∃ list, turnInstructions unfitLegs 5 = .ok list ∧
      list.map Instruction.interval = [(0, 2), (2, 2), (2, 2), (2, 2), (2, 4), (4, 4)] ∧
      List.Forall₂ (Instruction.Tells 4 2) unfitLegs.steps list ∧
      ∀ index : Int, 0 < index → index ≤ 4 →
        ∃! k, LiesAt (list.map Instruction.interval) index k := by
  have hread : (turnInstructions unfitLegs 5).toOption.any (fun list =>
      list.map Instruction.interval ==
        [(0, 2), (2, 2), (2, 2), (2, 2), (2, 4), (4, 4)]) = true := by
    decide +kernel
  obtain ⟨list, hlist, hintervals⟩ := exists_ok_of_any hread
  obtain ⟨htells, -, -, hunique⟩ := turnInstructions_tile hlist
  exact ⟨list, hlist, beq_iff_eq.mp hintervals, htells, hunique (by decide +kernel)⟩

end Waypost
