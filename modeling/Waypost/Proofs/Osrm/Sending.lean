import Waypost.Proofs.Hints.Getters
import Waypost.Proofs.Osrm.CallLists
import Waypost.Proofs.Request.Parity

/-!
# Which requests can be sent

A request that a builder accepts may still have no call. A heading may be infinite, which no
bearing shows, and the hint for the number of paths may have no whole part, or no double at all.
Nothing else keeps a request from being sent.

* `pathsOfQuery`, `pathsOfBody` -- the value that was sent for the number of paths, of which the
  last spelling counts;
* `Accepted` -- a request next to the parts of the query string or body that matter for its call;
* `HasPathCount`, `NoPathCount` -- whether a value gives a number of paths, and why not;
* `Unsendable` -- what keeps a request from being sent, and the fault it leads to;
* `exists_routeParams`, `routeParams_eq_error` -- **when the parameters of a request are made, and
  what happens otherwise**;
* `accepted_requests_sent` -- the same for what was sent by a client.
-/

namespace Waypost

open Text Decimal

/-! ## 1. What was sent -/

/-- The value for the number of paths in a query string. -/
def pathsOfQuery (raw : Grouped) : Option HintValue :=
  (raw.sentOnce Key.maxPaths).getLast?.map fun sent => HintValue.read (.str sent.2)

/-- The value for the number of paths in a body. -/
def pathsOfBody (b : RouteBody) : Option HintValue :=
  (valuesUnder Key.maxPaths (b.extra.filter fun member => isHintable member.2)).getLast?.map
    HintValue.read

/-- A request that is accepted, next to the headings, the algorithm and the value for the number of
    paths as they were sent. -/
inductive Accepted : List Float → String → Option HintValue → Request → Prop
  | query {options : ServerOptions} {q : RouteQuery} {raw : Grouped} {r : Request}
      (h : Request.ofQuery options q raw = .ok r) :
      Accepted q.headings q.algorithm (pathsOfQuery raw) r
  | body {options : ServerOptions} {b : RouteBody} {r : Request}
      (h : Request.ofBody options b = .ok r) :
      Accepted b.headings b.algorithm (pathsOfBody b) r

/-- What was sent arrives in the request. -/
structure Arrives (headings : List Float) (algorithm : String) (asked : Option HintValue)
    (r : Request) : Prop where
  headings : r.headings = headings
  algorithm : r.algorithm = algorithm
  paths : r.hints.get? Key.maxPaths = asked

/-- No switch and no default is put under the key for the number of paths. -/
theorem maxPaths_apart : ∀ key ∈ [Key.calcPoints, Key.instructions, Key.wayPointMaxDistance,
    Key.elevationWayPointMaxDistance], normalizeKey Key.maxPaths ≠ normalizeKey key := by
  decide +kernel

theorem maxPaths_not_structural :
    normalizeKey Key.maxPaths ∉ Key.structural.map normalizeKey := by
  rw [map_normalizeKey_structural]
  decide +kernel

theorem get?_switches (q : RouteQuery) (h : Hints) :
    (q.switches h).get? Key.maxPaths = h.get? Key.maxPaths := by
  unfold RouteQuery.switches
  dsimp only
  rw [Hints.get?_set_of_ne _ (maxPaths_apart _ (by simp)),
    Hints.get?_set_of_ne _ (maxPaths_apart _ (by simp)),
    Hints.get?_set_of_ne _ (maxPaths_apart _ (by simp))]
  cases q.elevationWayPointMaxDistance with
  | none => rfl
  | some distance => exact Hints.get?_set_of_ne h (maxPaths_apart _ (by simp)) _

theorem get?_putDefault_of_ne {h h' : Hints} {key other : String} {value : Json}
    (hp : h.putDefault key value = .ok h') (hne : normalizeKey other ≠ normalizeKey key) :
    h'.get? other = h.get? other := by
  rcases Hints.putDefault_eq_ok hp with ⟨-, rfl⟩ | ⟨-, v, rfl⟩
  · rfl
  · exact Hints.get?_set_of_ne h hne v

theorem get?_ofBody {extra : Members} {h : Hints} (hb : Hints.ofBody extra = .ok h) {key : String}
    (hcalcPoints : normalizeKey key ≠ normalizeKey Key.calcPoints)
    (hinstructions : normalizeKey key ≠ normalizeKey Key.instructions)
    (hdistance : normalizeKey key ≠ normalizeKey Key.wayPointMaxDistance) :
    h.get? key = (valuesUnder key (extra.filter fun member => isHintable member.2)).getLast?.map
      HintValue.read := by
  unfold Hints.ofBody at hb
  obtain ⟨own, hown, hb⟩ := bind_eq_ok.mp hb
  obtain ⟨first, hfirst, hb⟩ := bind_eq_ok.mp hb
  obtain ⟨second, hsecond, hlast⟩ := bind_eq_ok.mp hb
  have hnone : Hints.empty.get? key = none := rfl
  rw [get?_putDefault_of_ne hlast hdistance, get?_putDefault_of_ne hsecond hinstructions,
    get?_putDefault_of_ne hfirst hcalcPoints, Hints.get?_putAll hown, hnone, Option.or_none]

/-- **What was sent arrives.** -/
theorem Accepted.arrives {headings : List Float} {algorithm : String} {asked : Option HintValue}
    {r : Request} (h : Accepted headings algorithm asked r) :
    Arrives headings algorithm asked r := by
  cases h with
  | query h =>
    unfold Request.ofQuery at h
    obtain ⟨_, -, h⟩ := bind_eq_ok.mp h
    obtain ⟨hints, hhints, h⟩ := bind_eq_ok.mp h
    obtain ⟨points, -, h⟩ := bind_eq_ok.mp h
    obtain ⟨rfl, -⟩ := validate_eq_ok.mp h
    exact ⟨rfl, rfl, (get?_switches _ hints).trans (get?_ofQuery hhints maxPaths_not_structural)⟩
  | body h =>
    unfold Request.ofBody at h
    obtain ⟨hints, hhints, h⟩ := bind_eq_ok.mp h
    obtain ⟨_, -, h⟩ := bind_eq_ok.mp h
    obtain ⟨rfl, -⟩ := validate_eq_ok.mp h
    exact ⟨rfl, rfl, get?_ofBody hhints (maxPaths_apart _ (by simp)) (maxPaths_apart _ (by simp))
      (maxPaths_apart _ (by simp))⟩

/-! ## 2. The number of paths -/

/-- A value for the number of paths that gives a finite double; two paths where it gives none of
    its own. -/
def HasPathCount (asked : Option HintValue) : Prop :=
  ∃ x, Hints.Answers 2.0 asked x ∧ x.isFinite = true

/-- Why a value gives no number of paths: it is a whole number beyond the range of doubles, or a
    number that is infinite or none at all. -/
inductive NoPathCount (asked : Option HintValue) : Fault → Prop
  | beyond (h : Hints.BeyondDoubles asked) : NoPathCount asked (.unexpected .integerTooLarge)
  | unwhole {x : Float} {why : NoInteger} (h : Hints.Answers 2.0 asked x) (hx : Unwhole x why) :
      NoPathCount asked (.unexpected (.noInteger why))

theorem alternativesText_eq (hints : Hints) :
    alternativesText hints = hints.floatOr Key.maxPaths 2.0 >>= fun x =>
      (fun paths : Int => toString (max (paths - 1) 1)) <$> wholeNumber (truncate? x) := by
  unfold alternativesText Hints.floatOr
  cases hints.float? Key.maxPaths <;> rfl

theorem exists_alternativesText {hints : Hints} :
    (∃ value, alternativesText hints = .ok value) ↔
      HasPathCount (hints.get? Key.maxPaths) := by
  unfold HasPathCount
  simp only [alternativesText_eq, bind_eq_ok, Hints.floatOr_eq_ok, map_eq_ok, wholeNumber_eq_ok,
    ← (wholeOf_truncate? _).ok]
  constructor
  · rintro ⟨_, x, hx, n, hn, -⟩
    exact ⟨x, hx, n, hn⟩
  · rintro ⟨x, hx, n, hn⟩
    exact ⟨_, x, hx, n, hn, rfl⟩

theorem alternativesText_eq_error {hints : Hints} {fault : Fault} :
    alternativesText hints = .error fault ↔ NoPathCount (hints.get? Key.maxPaths) fault := by
  rw [alternativesText_eq, bind_eq_error, Hints.floatOr_eq_error]
  constructor
  · rintro (⟨hbeyond, rfl⟩ | ⟨x, hx, herror⟩)
    · exact .beyond hbeyond
    · obtain ⟨why, hwhy, rfl⟩ := wholeNumber_eq_error.mp (map_eq_error.mp herror)
      exact .unwhole (Hints.floatOr_eq_ok.mp hx) (((wholeOf_truncate? _).error _).mp hwhy)
  · intro h
    cases h with
    | beyond hbeyond => exact Or.inl ⟨hbeyond, rfl⟩
    | unwhole hx hwhy =>
      exact Or.inr ⟨_, Hints.floatOr_eq_ok.mpr hx, map_eq_error.mpr
        (wholeNumber_eq_error.mpr ⟨_, ((wholeOf_truncate? _).error _).mpr hwhy, rfl⟩)⟩

/-! ## 3. Headings -/

/-- **A heading has no bearing exactly when it is infinite.** -/
theorem bearingText_eq_error (heading : Float) (fault : Fault) :
    bearingText heading = .error fault ↔
      heading.isInf = true ∧ fault = .unexpected (.noInteger .infinite) := by
  unfold bearingText
  cases hnan : heading.isNaN with
  | true =>
    refine iff_of_false nofun ?_
    rw [isInf_of_isNaN hnan]
    exact fun h => absurd h.1 Bool.false_ne_true
  | false =>
    show (fun angle : Int => toString (angle % 360) ++ "," ++ toString bearingTolerance) <$>
      wholeNumber (nearest? heading) = .error fault ↔ _
    rw [map_eq_error, wholeNumber_eq_error]
    constructor
    · rintro ⟨why, hwhy, rfl⟩
      cases ((wholeOf_nearest? heading).error why).mp hwhy with
      | nan h =>
        rw [hnan] at h
        cases h
      | infinite h => exact ⟨h, rfl⟩
    · rintro ⟨hinf, rfl⟩
      exact ⟨_, ((wholeOf_nearest? heading).error _).mpr (.infinite hinf), rfl⟩

theorem exists_bearingText {heading : Float} :
    (∃ piece, bearingText heading = .ok piece) ↔ heading.isInf = false := by
  rw [Bool.eq_false_iff]
  cases h : bearingText heading with
  | ok piece =>
    refine iff_of_true ⟨piece, rfl⟩ fun hinf => ?_
    rw [(bearingText_eq_error heading _).mpr ⟨hinf, rfl⟩] at h
    cases h
  | error fault =>
    have hinf := ((bearingText_eq_error heading fault).mp h).1
    exact iff_of_false nofun fun hnot => hnot hinf

/-! ## 4. Requests -/

/-- What keeps a request from being sent. The number of paths is looked at first. -/
inductive Unsendable (headings : List Float) (algorithm : String) (asked : Option HintValue) :
    Fault → Prop
  | paths {fault : Fault} (halgorithm : algorithm = alternativeRoute)
      (h : NoPathCount asked fault) : Unsendable headings algorithm asked fault
  | heading {heading : Float} (hpaths : algorithm = alternativeRoute → HasPathCount asked)
      (hmem : heading ∈ headings) (hinf : heading.isInf = true) :
      Unsendable headings algorithm asked (.unexpected (.noInteger .infinite))

/-- Whatever keeps a request from being sent is a breakdown. -/
theorem Unsendable.broken {headings : List Float} {algorithm : String} {asked : Option HintValue}
    {fault : Fault} (h : Unsendable headings algorithm asked fault) : fault.Broken := by
  cases h with
  | paths _ hpaths => cases hpaths <;> trivial
  | heading => trivial

section Request

variable {r : Request}

theorem exists_alternativesPart : (∃ part, alternativesPart r = .ok part) ↔
    (r.algorithm = alternativeRoute → HasPathCount (r.hints.get? Key.maxPaths)) := by
  unfold alternativesPart
  split
  · rename_i halgorithm
    rw [forall_prop_of_true (beq_iff_eq.mp halgorithm), ← exists_alternativesText]
    simp only [map_eq_ok]
    exact ⟨fun ⟨_, value, h, _⟩ => ⟨value, h⟩, fun ⟨value, h⟩ => ⟨_, value, h, rfl⟩⟩
  · rename_i halgorithm
    exact iff_of_true ⟨[], rfl⟩ fun h => absurd (beq_iff_eq.mpr h) halgorithm

theorem alternativesPart_eq_error {fault : Fault} : alternativesPart r = .error fault ↔
    r.algorithm = alternativeRoute ∧ NoPathCount (r.hints.get? Key.maxPaths) fault := by
  unfold alternativesPart
  split
  · rename_i halgorithm
    rw [map_eq_error, alternativesText_eq_error]
    exact ⟨fun h => ⟨beq_iff_eq.mp halgorithm, h⟩, fun h => h.2⟩
  · rename_i halgorithm
    exact iff_of_false nofun fun h => halgorithm (beq_iff_eq.mpr h.1)

theorem exists_bearingsPart : (∃ part, bearingsPart r = .ok part) ↔
    ∀ heading ∈ r.headings, heading.isInf = false := by
  have hpieces : (∃ pieces, r.headings.mapM bearingText = .ok pieces) ↔
      ∀ heading ∈ r.headings, heading.isInf = false :=
    exists_mapM.trans (forall₂_congr fun _ _ => exists_bearingText)
  unfold bearingsPart
  split
  · rename_i hempty
    rw [List.isEmpty_iff.mp hempty]
    exact iff_of_true ⟨[], rfl⟩ fun _ h => absurd h List.not_mem_nil
  · rw [← hpieces]
    simp only [map_eq_ok]
    exact ⟨fun ⟨_, pieces, h, _⟩ => ⟨pieces, h⟩, fun ⟨pieces, h⟩ => ⟨_, pieces, h, rfl⟩⟩

theorem bearingsPart_eq_error {fault : Fault} : bearingsPart r = .error fault ↔
    (∃ heading ∈ r.headings, heading.isInf = true) ∧
      fault = .unexpected (.noInteger .infinite) := by
  unfold bearingsPart
  split
  · rename_i hempty
    rw [List.isEmpty_iff.mp hempty]
    refine iff_of_false nofun ?_
    rintro ⟨⟨heading, hmem, -⟩, -⟩
    exact List.not_mem_nil hmem
  · rw [map_eq_error]
    exact mapM_eq_error bearingText_eq_error

/-- **The parameters of a request are made** unless a heading is infinite or the number of paths,
    where it is asked for, cannot be told. -/
theorem exists_routeParams : (∃ params, routeParams r = .ok params) ↔
    (∀ heading ∈ r.headings, heading.isInf = false) ∧
      (r.algorithm = alternativeRoute → HasPathCount (r.hints.get? Key.maxPaths)) := by
  rw [← exists_bearingsPart, ← exists_alternativesPart, routeParams_eq]
  simp only [bind_eq_ok]
  constructor
  · rintro ⟨_, alternatives, halternatives, bearings, hbearings, -⟩
    exact ⟨⟨bearings, hbearings⟩, alternatives, halternatives⟩
  · rintro ⟨⟨bearings, hbearings⟩, alternatives, halternatives⟩
    exact ⟨_, alternatives, halternatives, bearings, hbearings, rfl⟩

/-- **Otherwise they break down.** -/
theorem routeParams_eq_error {fault : Fault} : routeParams r = .error fault ↔
    Unsendable r.headings r.algorithm (r.hints.get? Key.maxPaths) fault := by
  rw [routeParams_eq, bind_eq_error, alternativesPart_eq_error]
  constructor
  · rintro (⟨halgorithm, hpaths⟩ | ⟨alternatives, halternatives, h⟩)
    · exact .paths halgorithm hpaths
    · rcases bind_eq_error.mp h with hbearings | ⟨_, -, ⟨⟩⟩
      obtain ⟨⟨heading, hmem, hinf⟩, rfl⟩ := bearingsPart_eq_error.mp hbearings
      exact .heading (exists_alternativesPart.mp ⟨alternatives, halternatives⟩) hmem hinf
  · intro h
    cases h with
    | paths halgorithm hpaths => exact Or.inl ⟨halgorithm, hpaths⟩
    | heading hpaths hmem hinf =>
      obtain ⟨alternatives, halternatives⟩ := exists_alternativesPart.mpr hpaths
      exact Or.inr ⟨alternatives, halternatives,
        bind_eq_error.mpr (Or.inl (bearingsPart_eq_error.mpr ⟨⟨_, hmem, hinf⟩, rfl⟩))⟩

end Request

/-! ## 5. Clients -/

/-- **When what a client sent leads to a call.** The request is accepted, but its call is made only
    when no heading is infinite, and the number of paths can be told where the algorithm asks for
    it; in every other case the engine breaks down. -/
theorem accepted_requests_sent {headings : List Float} {algorithm : String}
    {asked : Option HintValue} {r : Request} (h : Accepted headings algorithm asked r) :
    ((∃ params, routeParams r = .ok params) ↔
      (∀ heading ∈ headings, heading.isInf = false) ∧
        (algorithm = alternativeRoute → HasPathCount asked)) ∧
    ∀ fault, routeParams r = .error fault ↔ Unsendable headings algorithm asked fault := by
  obtain ⟨rfl, rfl, rfl⟩ := h.arrives
  exact ⟨exists_routeParams, fun _ => routeParams_eq_error⟩

/-- A query string with two points, between which several paths are asked for. -/
def pierQuery : RouteQuery where
  points := ["8,0", "9,-1"]
  algorithm := alternativeRoute

/-- The call for three paths is made. -/
theorem accepted_requests_sent_pier : ∃ r,
    Request.ofQuery {} pierQuery [("alternativeRoute.maxPaths", ["3"])] = .ok r ∧
      ∃ params, routeParams r = .ok params := by
  obtain ⟨r, hbuilt⟩ : ∃ r,
      Request.ofQuery {} pierQuery [("alternativeRoute.maxPaths", ["3"])] = .ok r :=
    isSome_toOption.mp (by decide +kernel)
  have honce : Grouped.sentOnce [("alternativeRoute.maxPaths", ["3"])] Key.maxPaths =
      [("alternativeRoute.maxPaths", "3")] := by decide +kernel
  have hpaths : pathsOfQuery [("alternativeRoute.maxPaths", ["3"])] = some (.int 3) := by
    unfold pathsOfQuery
    rw [honce]
    rfl
  have hsmall : (3 : Int).natAbs < rangeBound := by decide +kernel
  refine ⟨r, hbuilt, (accepted_requests_sent (.query hbuilt)).1.mpr ⟨?_, fun _ => ?_⟩⟩
  · exact fun _ h => absurd h List.not_mem_nil
  · rw [hpaths]
    exact ⟨_, .int hsmall, (isFinite_ofInt 3).mpr hsmall⟩

/-- A body with an infinite heading. -/
def endlessBody : RouteBody where
  points := quayBody.points
  headings := [1.0 / 0.0, 0.0]

/-- An infinite heading is accepted, and so are infinitely many paths; neither can be sent. -/
theorem infinities_not_sent :
    (∃ r, Request.ofBody {} endlessBody = .ok r ∧
      routeParams r = .error (.unexpected (.noInteger .infinite))) ∧
    ∃ r, Request.ofQuery {} pierQuery [(Key.maxPaths, ["inf"])] = .ok r ∧
      routeParams r = .error (.unexpected (.noInteger .infinite)) := by
  constructor
  · obtain ⟨r, hbuilt⟩ : ∃ r, Request.ofBody {} endlessBody = .ok r :=
      isSome_toOption.mp (by decide +kernel)
    have harrives := (Accepted.body hbuilt).arrives
    refine ⟨r, hbuilt, routeParams_eq_error.mpr ?_⟩
    rw [harrives.headings, harrives.algorithm]
    exact .heading (fun h => absurd h (by decide)) List.mem_cons_self (by decide +kernel)
  · obtain ⟨r, hbuilt⟩ : ∃ r, Request.ofQuery {} pierQuery [(Key.maxPaths, ["inf"])] = .ok r :=
      isSome_toOption.mp (by decide +kernel)
    have honce : Grouped.sentOnce [(Key.maxPaths, ["inf"])] Key.maxPaths =
        [(Key.maxPaths, "inf")] := by decide +kernel
    have hpaths : pathsOfQuery [(Key.maxPaths, ["inf"])] = some (.text "inf") := by
      unfold pathsOfQuery
      rw [honce]
      rfl
    have harrives := (Accepted.query hbuilt).arrives
    obtain ⟨x, hx, hinf⟩ : ∃ x, looseFloat? "inf" = some x ∧ x.isInf = true :=
      ⟨_, rfl, by decide +kernel⟩
    refine ⟨r, hbuilt, routeParams_eq_error.mpr ?_⟩
    rw [harrives.algorithm, harrives.paths, hpaths]
    exact .paths rfl (.unwhole (.number (looseFloat?_eq_some.mp hx)) (.infinite hinf))

end Waypost
