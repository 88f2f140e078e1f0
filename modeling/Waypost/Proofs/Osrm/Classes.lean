import Waypost.Proofs.Osrm.Shape

/-!
# Classes of faults

Which class the fault of an outcome has depends on what the OSRM service tells. The request is
blamed for a code that says so, and also for a place off the globe in an answer that says all is
well; a point is missed for one code; everything else counts as a failure of the engine.

* `Json.BlamesRequest`, `Json.MissesPoint`, `Json.LeavesGlobe` -- answers with a class of their own;
* `exists_fault_of_code` -- the class behind a code other than `Ok`;
* `exists_fault_of_ok` -- an answer with the code `Ok` is read, refused, or a failure;
* `osrm_error_classes` -- **the class of the fault by what is told**.
-/

namespace Waypost

/-! ## 1. Answers with a class of their own -/

namespace Json

/-- An answer whose code blames the request. -/
def BlamesRequest (answer : Json) : Prop :=
  ∃ name ∈ invalidInputCodes, answer.member "code" = .str name

/-- An answer whose code says that a point was not found. Its message is a text, and the number of
    a coordinate that it may name can be read. -/
def MissesPoint (answer : Json) : Prop :=
  answer.member "code" = .str "NoSegment" ∧
    ∃ s index, (answer.member "message").orElse (.str "NoSegment") = .str s ∧
      coordinateIndex s = .ok index

/-- An answer that says all is well and has a place off the globe, where reading it ends. -/
def LeavesGlobe (answer : Json) (r : Request) : Prop :=
  answer.member "code" = .str "Ok" ∧
    ∃ pair ∈ answer.places, ∃ reason, coordinatePoint pair = .error (.refused reason) ∧
      Outcome.ofAnswer answer r = .error (.refused reason)

theorem orElse_orElse {value other : Json} (h : other.truthy = true) (last : Json) :
    (value.orElse other).orElse last = value.orElse other := by
  unfold orElse
  split
  · rfl
  · rfl

end Json

/-! ## 2. Codes -/

theorem answerFault_of_invalid {name : String} (h : name ∈ invalidInputCodes) (message : Json) :
    answerFault (.str name) message = .ok (.reported .invalidArgument message []) := by
  unfold invalidInputCodes at h
  simp only [List.mem_cons, List.not_mem_nil, or_false] at h
  rcases h with rfl | rfl | rfl | rfl | rfl | rfl | rfl <;> rfl

theorem answerFault_noSegment {message : Json} {fault : Fault} :
    answerFault (.str "NoSegment") message = .ok fault ↔
      ∃ s index, message = .str s ∧ coordinateIndex s = .ok index ∧
        fault = .reported .pointNotFound (.str ("Cannot find point: " ++ s))
          (index.elim [] fun n => [("point_index", .int n)]) := by
  show pointNotFound message = .ok fault ↔ _
  unfold pointNotFound
  cases message with
  | str s =>
    rw [bind_eq_ok]
    constructor
    · rintro ⟨index, hindex, hfault⟩
      cases index <;> cases hfault <;> exact ⟨s, _, rfl, hindex, rfl⟩
    · rintro ⟨_, index, ⟨⟩, hindex, rfl⟩
      cases index <;> exact ⟨_, hindex, rfl⟩
  | null | bool | int | float | arr | obj => exact iff_of_false nofun (by rintro ⟨_, _, ⟨⟩, _⟩)

/-- The class of the fault behind a code. -/
theorem typeId_of_answerFault {code message : Json} {fault : Fault}
    (h : answerFault code message = .ok fault) :
    code = .str "NoSegment" ∧ fault.typeId = .pointNotFound ∨
      (∃ name ∈ invalidInputCodes, code = .str name) ∧ fault.typeId = .invalidArgument ∨
      fault.typeId = .engineFailure := by
  unfold answerFault at h
  split at h
  · obtain ⟨s, index, -, -, rfl⟩ := answerFault_noSegment.mp h
    exact Or.inl ⟨rfl, rfl⟩
  · obtain ⟨text, -, h⟩ := bind_eq_ok.mp h
    cases h
    exact Or.inr (Or.inr rfl)
  · split at h
    · rename_i hname
      cases h
      exact Or.inr (Or.inl ⟨⟨_, List.contains_iff_mem.mp hname, rfl⟩, rfl⟩)
    · cases h
      exact Or.inr (Or.inr rfl)
  · cases h
  · cases h
  · cases h
    exact Or.inr (Or.inr rfl)

/-! ## 3. Answers -/

/-- A failure of the engine has no fault of another class. -/
theorem no_other_class {fault : Fault} (hclass : fault.typeId = .engineFailure) {kind : TypeId}
    (hkind : kind ≠ .engineFailure) :
    ¬ ∃ other ∈ (Outcome.failure fault).faults, other.typeId = kind := by
  rintro ⟨other, hmem, hother⟩
  rw [List.mem_singleton.mp hmem, hclass] at hother
  exact hkind hother.symm

section Answers

variable {members : Members} {r : Request}

/-- The message of an answer. An answer without one goes by its code. -/
def messageOf (members : Members) : Json :=
  ((members.getD "message" .null).orElse (members.getD "code" (.str ""))).orElse
    (.str "Unknown routing engine error")

theorem ofAnswer_of_code (h : members.getD "code" (.str "") ≠ .str "Ok") :
    Outcome.ofAnswer (.obj members) r =
      Outcome.failure <$> answerFault (members.getD "code" (.str "")) (messageOf members) := by
  have hcode : (members.getD "code" (.str "")).isText "Ok" = false := by
    rw [Bool.eq_false_iff]
    exact fun htext => h (Json.isText_eq_true.mp htext)
  show (if (!(members.getD "code" (.str "")).isText "Ok") = true then _ else _) = _
  rw [hcode]
  rfl

/-- A fault of its own class behind a code other than `Ok` is the one that stands for the code. -/
theorem exists_fault_of_code (h : members.getD "code" (.str "") ≠ .str "Ok") {kind : TypeId}
    (hkind : kind ≠ .engineFailure) :
    (∃ fault ∈ (Outcome.ofAsked (Outcome.ofAnswer (.obj members) r)).faults, fault.typeId = kind) ↔
      ∃ fault, answerFault (members.getD "code" (.str "")) (messageOf members) = .ok fault ∧
        fault.typeId = kind := by
  rw [ofAnswer_of_code h]
  cases hfault : answerFault (members.getD "code" (.str "")) (messageOf members) with
  | ok fault =>
    have hasked : Outcome.ofAsked (Outcome.failure <$> (.ok fault : Except Fault Fault)) =
        .failure fault := ofAsked_of_faults (List.cons_ne_nil _ _)
    rw [hasked]
    constructor
    · rintro ⟨other, hmem, hclass⟩
      rw [List.mem_singleton.mp hmem] at hclass
      exact ⟨fault, rfl, hclass⟩
    · rintro ⟨other, ⟨⟩, hclass⟩
      exact ⟨fault, List.mem_singleton_self fault, hclass⟩
  | error why =>
    obtain ⟨fault, hasked, hclass⟩ := asked_of_broken (broken_answerFault _ _ why hfault)
    refine iff_of_false ?_ (by rintro ⟨_, ⟨⟩, _⟩)
    show ¬ ∃ other ∈ (Outcome.ofAsked (.error why)).faults, other.typeId = kind
    rw [hasked]
    exact no_other_class hclass hkind

/-- **An answer with the code `Ok` is refused or fails as the engine's**: it is refused when reading
    it ends at a place off the globe. -/
theorem exists_fault_of_ok {answer : Json} (hcode : answer.member "code" = .str "Ok")
    {kind : TypeId} (hkind : kind ≠ .engineFailure) :
    (∃ fault ∈ (Outcome.ofAsked (Outcome.ofAnswer answer r)).faults, fault.typeId = kind) ↔
      kind = .invalidArgument ∧ answer.LeavesGlobe r := by
  cases hread : Outcome.ofAnswer answer r with
  | error why =>
    cases why with
    | unexpected cause =>
      refine iff_of_false (no_other_class rfl hkind) ?_
      rintro ⟨-, -, pair, -, reason, -, hrefused⟩
      cases hread.symm.trans hrefused
    | reported => exact (own_ofAnswer answer r _ hread).elim
    | refused reason =>
      have hplaces : FailsOnly
          (fun fault => fault.Broken ∨ ∃ pair ∈ answer.places, coordinatePoint pair = .error fault)
          (Outcome.ofAnswer answer r) :=
        failsOnly_ofAnswer (fun _ => Or.inl) fun pair hpair fault hfault =>
          Or.inr ⟨pair, hpair, hfault⟩
      constructor
      · rintro ⟨fault, hmem, hclass⟩
        rw [List.mem_singleton.mp hmem] at hclass
        rcases hplaces _ hread with hbroken | ⟨pair, hpair, hfault⟩
        · exact hbroken.elim
        · exact ⟨hclass.symm, hcode, pair, hpair, reason, hfault, hread⟩
      · rintro ⟨rfl, -⟩
        exact ⟨_, List.mem_singleton_self _, rfl⟩
  | ok read =>
    refine iff_of_false ?_ ?_
    · rcases ofAnswer_cases hread with ⟨fault, rfl, hclass⟩ | hholds
      · rw [ofAsked_of_faults (List.cons_ne_nil _ _)]
        exact no_other_class (hclass hcode) hkind
      · rw [ofAsked_of_paths hholds.paths_ne, hholds.faults]
        rintro ⟨fault, hmem, -⟩
        cases hmem
    · rintro ⟨-, -, pair, -, reason, -, hrefused⟩
      cases hread.symm.trans hrefused

end Answers

theorem not_blames_of_ok {answer : Json} (h : answer.member "code" = .str "Ok") :
    ¬ answer.BlamesRequest := by
  rintro ⟨name, hname, hcode⟩
  cases h.symm.trans hcode
  exact absurd hname (by decide)

theorem blamesRequest_iff {members : Members} :
    (Json.obj members).BlamesRequest ↔
      ∃ fault, answerFault (members.getD "code" (.str "")) (messageOf members) = .ok fault ∧
        fault.typeId = .invalidArgument := by
  have hnamed : ∀ name ∈ invalidInputCodes, name ≠ "" := by decide
  constructor
  · rintro ⟨name, hname, hcode⟩
    rw [(Json.member_eq_str (hnamed name hname)).mp hcode]
    exact ⟨_, answerFault_of_invalid hname _, rfl⟩
  · rintro ⟨fault, hfault, hclass⟩
    rcases typeId_of_answerFault hfault with ⟨-, hmissed⟩ | ⟨⟨name, hname, hcode⟩, -⟩ | hfailed
    · cases hmissed.symm.trans hclass
    · exact ⟨name, hname, (Json.member_eq_str (hnamed name hname)).mpr hcode⟩
    · cases hfailed.symm.trans hclass

theorem missesPoint_iff {members : Members} :
    (Json.obj members).MissesPoint ↔
      ∃ fault, answerFault (members.getD "code" (.str "")) (messageOf members) = .ok fault ∧
        fault.typeId = .pointNotFound := by
  unfold Json.MissesPoint
  rw [Json.member_eq_str (by decide), Json.member_obj]
  constructor
  · rintro ⟨hcode, s, index, hmessage, hindex⟩
    unfold messageOf
    rw [hcode, Json.orElse_orElse rfl, hmessage]
    exact ⟨_, answerFault_noSegment.mpr ⟨s, index, rfl, hindex, rfl⟩, rfl⟩
  · rintro ⟨fault, hfault, hclass⟩
    rcases typeId_of_answerFault hfault with ⟨hcode, -⟩ | ⟨-, hblamed⟩ | hfailed
    · refine ⟨hcode, ?_⟩
      unfold messageOf at hfault
      rw [hcode, Json.orElse_orElse rfl] at hfault
      obtain ⟨s, index, hmessage, hindex, -⟩ := answerFault_noSegment.mp hfault
      exact ⟨s, index, hmessage, hindex⟩
    · cases hblamed.symm.trans hclass
    · cases hfailed.symm.trans hclass

/-- **The class of the fault by what an answer says.** -/
theorem classes_ofAnswer (answer : Json) (r : Request) :
    ((∃ fault ∈ (Outcome.ofAsked (Outcome.ofAnswer answer r)).faults,
        fault.typeId = .invalidArgument) ↔ answer.BlamesRequest ∨ answer.LeavesGlobe r) ∧
    ((∃ fault ∈ (Outcome.ofAsked (Outcome.ofAnswer answer r)).faults,
        fault.typeId = .pointNotFound) ↔ answer.MissesPoint) := by
  by_cases hok : answer.member "code" = .str "Ok"
  · rw [exists_fault_of_ok hok (by decide), exists_fault_of_ok hok (by decide),
      or_iff_right (not_blames_of_ok hok)]
    refine ⟨and_iff_right rfl, iff_of_false (fun h => by cases h.1) fun hmisses => ?_⟩
    exact absurd (Json.str.inj (hok.symm.trans hmisses.1)) (by decide)
  · have hstays : ¬ answer.LeavesGlobe r := fun hleaves => hok hleaves.1
    rw [or_iff_left hstays]
    cases answer with
    | obj members =>
      rw [Json.member_eq_str (by decide)] at hok
      rw [exists_fault_of_code hok (by decide), exists_fault_of_code hok (by decide)]
      exact ⟨blamesRequest_iff.symm, missesPoint_iff.symm⟩
    | null | bool | int | float | str | arr =>
      -- what is no object has no code, and reading it breaks down
      refine ⟨iff_of_false (no_other_class rfl (by decide)) ?_,
        iff_of_false (no_other_class rfl (by decide)) ?_⟩
      · rintro ⟨name, -, hcode⟩
        cases hcode
      · rintro ⟨hcode, -⟩
        cases hcode

/-! ## 4. Asking -/

/-- **The class of the fault by what a service tells.** The request is blamed exactly when the code
    says so or the answer leaves the globe, a point is missed exactly when the code says so, and
    every other fault is a failure of the engine. -/
theorem osrm_error_classes (config : OsrmConfig) (transport : Transport) {r : Request}
    (hsupported : ∀ name ∈ r.pathDetails, name ∈ supportedDetails) :
    ∃ outcome, (invokeEngine (osrmEngine config transport) r).result = .ok outcome ∧
      ((∃ fault ∈ outcome.faults, fault.typeId = .invalidArgument) ↔
        ∃ answer, told? config transport r = some answer ∧
          (answer.BlamesRequest ∨ answer.LeavesGlobe r)) ∧
      ((∃ fault ∈ outcome.faults, fault.typeId = .pointNotFound) ↔
        ∃ answer, told? config transport r = some answer ∧ answer.MissesPoint) ∧
      ∀ fault ∈ outcome.faults, fault.typeId ≠ .engineFailure →
        ∃ answer, told? config transport r = some answer ∧
          (answer.BlamesRequest ∨ answer.LeavesGlobe r ∨ answer.MissesPoint) := by
  refine ⟨_, result_invokeEngine _ r, ?_⟩
  show (_ ↔ _) ∧ (_ ↔ _) ∧
    ∀ fault ∈ (Outcome.ofAsked (osrmRoute config transport r).result).faults, _
  have hclasses :
      ((∃ fault ∈ (Outcome.ofAsked (osrmRoute config transport r).result).faults,
          fault.typeId = .invalidArgument) ↔
        ∃ answer, told? config transport r = some answer ∧
          (answer.BlamesRequest ∨ answer.LeavesGlobe r)) ∧
      ((∃ fault ∈ (Outcome.ofAsked (osrmRoute config transport r).result).faults,
          fault.typeId = .pointNotFound) ↔
        ∃ answer, told? config transport r = some answer ∧ answer.MissesPoint) := by
    rcases @osrmRoute_cases config transport r hsupported with
      ⟨answer, htold, hread⟩ | ⟨hsilent, fault, hfault, hclass⟩
    · simp only [hread, htold, Option.some.injEq, exists_eq_left']
      exact classes_ofAnswer answer r
    · rw [hfault, hsilent]
      exact ⟨iff_of_false (no_other_class hclass (by decide)) (by rintro ⟨_, ⟨⟩, _⟩),
        iff_of_false (no_other_class hclass (by decide)) (by rintro ⟨_, ⟨⟩, _⟩)⟩
  refine ⟨hclasses.1, hclasses.2, fun fault hmem hclass => ?_⟩
  cases hkind : fault.typeId with
  | invalidArgument =>
    obtain ⟨answer, htold, hblames | hleaves⟩ := hclasses.1.mp ⟨fault, hmem, hkind⟩
    · exact ⟨answer, htold, Or.inl hblames⟩
    · exact ⟨answer, htold, Or.inr (Or.inl hleaves)⟩
  | pointNotFound =>
    obtain ⟨answer, htold, hmisses⟩ := hclasses.2.mp ⟨fault, hmem, hkind⟩
    exact ⟨answer, htold, Or.inr (Or.inr hmisses)⟩
  | engineFailure => exact absurd hkind hclass

/-- A service on an island, and a network in which it gives one answer to every call. -/
def islandConfig : OsrmConfig := ⟨"http" ++ "://osrm", defaultProfilePaths, true, "car"⟩

def alwaysAnswers (status : Nat) (text : String) : Transport := fun _ => .answered status [] text

/-- The answer that there is no road near a point. -/
def offshoreAnswer : String :=
  "\x7b\"code\":\"NoSegment\",\"message\":\"No segment found for coordinate 1\"\x7d"

/-- An answer whose way begins beyond the pole. -/
def polarAnswer : String :=
  "\x7b\"code\":\"Ok\",\"routes\":[\x7b\"geometry\":"
    ++ "\x7b\"coordinates\":[[200,95],[13.3,52.4]]\x7d\x7d]\x7d"

theorem osrm_error_classes_offshore :
    ∃ r outcome, sampleRequest = .ok r ∧ (∀ name ∈ r.pathDetails, name ∈ supportedDetails) ∧
      (invokeEngine (osrmEngine islandConfig (alwaysAnswers 400 offshoreAnswer)) r).result =
        .ok outcome ∧
      ∃ fault ∈ outcome.faults, fault.typeId = .pointNotFound := by
  have htells : (sampleRequest.toOption.any fun r => r.pathDetails.isEmpty &&
      (told? islandConfig (alwaysAnswers 400 offshoreAnswer) r).any fun answer =>
        (answer.member "code").isText "NoSegment" &&
          (answer.member "message").isText "No segment found for coordinate 1") = true := by
    decide +kernel
  have hindex : (coordinateIndex "No segment found for coordinate 1").toOption.isSome = true := by
    decide +kernel
  obtain ⟨r, hr, htells⟩ := exists_ok_of_any htells
  rw [Bool.and_eq_true, List.isEmpty_iff, Option.any_eq_true] at htells
  obtain ⟨hnone, answer, htold, hsays⟩ := htells
  rw [Bool.and_eq_true, Json.isText_eq_true, Json.isText_eq_true] at hsays
  obtain ⟨hcode, hmessage⟩ := hsays
  obtain ⟨index, hindex⟩ := isSome_toOption.mp hindex
  have hsupported : ∀ name ∈ r.pathDetails, name ∈ supportedDetails := by
    rw [hnone]
    exact nofun
  obtain ⟨outcome, houtcome, -, hmissed, -⟩ := osrm_error_classes islandConfig
    (alwaysAnswers 400 offshoreAnswer) hsupported
  have hmisses : answer.MissesPoint := by
    refine ⟨hcode, _, index, ?_, hindex⟩
    rw [hmessage]
    rfl
  exact ⟨r, outcome, hr, hsupported, houtcome, hmissed.mpr ⟨answer, htold, hmisses⟩⟩

/-- A way that begins beyond the pole, in an answer that says all is well, and the request is
    blamed. -/
theorem osrm_blames_request_beyond_pole :
    ∃ r answer outcome, sampleRequest = .ok r ∧
      (∀ name ∈ r.pathDetails, name ∈ supportedDetails) ∧
      told? islandConfig (alwaysAnswers 200 polarAnswer) r = some answer ∧
      answer.member "code" = .str "Ok" ∧
      (invokeEngine (osrmEngine islandConfig (alwaysAnswers 200 polarAnswer)) r).result =
        .ok outcome ∧
      ∃ fault ∈ outcome.faults, fault.typeId = .invalidArgument := by
  have hends : (sampleRequest.toOption.any fun r => r.pathDetails.isEmpty &&
      ((told? islandConfig (alwaysAnswers 200 polarAnswer) r).any fun answer =>
        (answer.member "code").isText "Ok") &&
      (invokeEngine (osrmEngine islandConfig (alwaysAnswers 200 polarAnswer)) r).result.toOption.any
        fun outcome => outcome.faults.any (·.typeId == .invalidArgument)) = true := by
    decide +kernel
  obtain ⟨r, hr, hends⟩ := exists_ok_of_any hends
  rw [Bool.and_eq_true, Bool.and_eq_true, List.isEmpty_iff, Option.any_eq_true] at hends
  obtain ⟨⟨hnone, answer, htold, hcode⟩, hblamed⟩ := hends
  obtain ⟨outcome, houtcome, hfault⟩ := exists_ok_of_any hblamed
  obtain ⟨fault, hmem, hclass⟩ := List.any_eq_true.mp hfault
  refine ⟨r, answer, outcome, hr, ?_, htold, Json.isText_eq_true.mp hcode, houtcome, fault, hmem,
    beq_iff_eq.mp hclass⟩
  rw [hnone]
  exact nofun

end Waypost
