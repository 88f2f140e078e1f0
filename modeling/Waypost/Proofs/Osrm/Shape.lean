import Waypost.Proofs.Engine
import Waypost.Proofs.Osrm.OwnFaults

/-!
# The shape of an outcome

Whatever an OSRM service answers, asking it ends with one fault and nothing else, or with a path
for each route of the answer. There is no outcome with some of the routes, and none with paths
beside a fault.

* `told?` -- what a service tells about a request;
* `result_osrmRoute_of_told`, `asked_of_silent` -- the outcome depends on nothing else;
* `PathOf`, `Outcome.Holds` -- a path that stands for a route, an outcome that holds all routes;
* `pathOf_of_routePath` -- one route is read, `ofAnswer_cases` -- then a whole answer;
* `osrm_outcome_shape` -- **asking ends with one fault or with a path for each route**, and with
  paths exactly when the answer could be read.
-/

namespace Waypost

/-! ## 1. What is told -/

/-- The content that a service tells about a request: a call for the request can be made, an answer
    to it arrives, and the answer is JSON. Its status does not matter. -/
def told? (config : OsrmConfig) (transport : Transport) (r : Request) : Option Json := do
  let call ← (routeCall config r).toOption
  let answer ← (receive call (transport call)).toOption
  (Json.ofBytes answer.bytes).toOption

theorem asked_of_broken {fault : Fault} (h : fault.Broken) :
    ∃ other, Outcome.ofAsked (.error fault) = .failure other ∧ other.typeId = .engineFailure := by
  cases fault with
  | unexpected cause => exact ⟨_, rfl, rfl⟩
  | refused reason => exact h.elim
  | reported kind message details => exact h.elim

section Told

variable {config : OsrmConfig} {transport : Transport} {r : Request}

theorem unknown_isEmpty_iff :
    (r.pathDetails.filter fun name => !supportedDetails.contains name).isEmpty = true ↔
      ∀ name ∈ r.pathDetails, name ∈ supportedDetails := by
  rw [List.isEmpty_iff, List.filter_eq_nil_iff]
  refine forall_congr' fun name => imp_congr_right fun _ => ?_
  rw [Bool.not_eq_true, Bool.not_eq_false', List.contains_iff_mem]

/-- Details that are not supported are refused without a call. -/
theorem result_osrmRoute_of_unsupported (h : ¬ ∀ name ∈ r.pathDetails, name ∈ supportedDetails) :
    ∃ fault, (osrmRoute config transport r).result = .ok (.failure fault) := by
  rw [← unknown_isEmpty_iff, Bool.not_eq_true] at h
  unfold osrmRoute
  dsimp only
  rw [h]
  exact ⟨_, rfl⟩

theorem result_osrmRoute_of_supported (h : ∀ name ∈ r.pathDetails, name ∈ supportedDetails) :
    (osrmRoute config transport r).result = (do
      let call ← routeCall config r
      match ← (exchange transport call).result with
      | .ok answer => (outcomeOfAnswer r call answer).result
      | .error reason => (unreachable reason).result) := by
  rw [← unknown_isEmpty_iff] at h
  unfold osrmRoute
  dsimp only
  rw [h, if_neg (by decide), Run.result_bind]
  refine congrArg _ (funext fun call => ?_)
  rw [Run.result_bind]
  refine congrArg _ (funext fun reply => ?_)
  cases reply <;> rfl

theorem result_exchange (transport : Transport) (call : Call) :
    (exchange transport call).result =
      match receive call (transport call) with
      | .ok answer => .ok (.ok answer)
      | .error (.failed reason) => .ok (.error reason)
      | .error (.broken cause) => .error (.unexpected cause) := by
  unfold exchange
  rw [Run.bind_of_ok rfl]
  dsimp only
  cases receive call (transport call) with
  | ok answer => rfl
  | error why => cases why <;> rfl

/-- **What is told is read; where nothing is told, the engine has failed.** -/
theorem osrmRoute_cases (h : ∀ name ∈ r.pathDetails, name ∈ supportedDetails) :
    (∃ content, told? config transport r = some content ∧
      (osrmRoute config transport r).result = Outcome.ofAnswer content r) ∨
    told? config transport r = none ∧
      ∃ fault, Outcome.ofAsked (osrmRoute config transport r).result = .failure fault ∧
        fault.typeId = .engineFailure := by
  rw [result_osrmRoute_of_supported h]
  unfold told?
  cases hcall : routeCall config r with
  | error fault => exact Or.inr ⟨rfl, asked_of_broken (broken_routeCall config r fault hcall)⟩
  | ok call =>
    rw [ok_bind, result_exchange]
    dsimp only [Except.toOption, Option.bind_eq_bind, Option.bind_some]
    cases receive call (transport call) with
    | error why => cases why <;> exact Or.inr ⟨rfl, _, rfl, rfl⟩
    | ok answer =>
      rw [ok_bind]
      dsimp only [Option.bind_some]
      unfold outcomeOfAnswer
      cases Json.ofBytes answer.bytes with
      | ok content => exact Or.inl ⟨content, rfl, rfl⟩
      | error why =>
        -- text that is no JSON is a failure, whatever the status, and so is content too deep
        refine Or.inr ⟨rfl, ?_⟩
        split
        · rename_i heq
          cases heq
        · exact ⟨_, rfl, rfl⟩
        · split <;> exact ⟨_, rfl, rfl⟩

end Told

/-! ## 2. Places -/

theorem forall₂_points {pairs : List Json} {points : List Point}
    (h : pairs.mapM coordinatePoint = .ok points) : List.Forall₂ PairOf pairs points :=
  (forall₂_of_mapM h).imp fun _ _ => coordinatePoint_eq_ok

/-- No text is among pairs that are read as points. -/
theorem no_text_of_points {pairs : List Json} {points : List Point}
    (h : pairs.mapM coordinatePoint = .ok points) (s : String) : .str s ∉ pairs := by
  intro hmem
  obtain ⟨p, hp⟩ := exists_mapM.mp ⟨points, h⟩ _ hmem
  obtain ⟨rest, hrest⟩ := coordinatePoint_eq_ok hp
  cases hrest

/-- What one entry gives: a point when it tells a place, and nothing otherwise. -/
theorem snappedPoint_cases {waypoint : Json} {kept : Option Point}
    (h : (do
      let location := (← waypoint.members).getD "location" .null
      if location.truthy then return some (← coordinatePoint location) else return none) =
        .ok kept) :
    (∃ members, waypoint = .obj members) ∧
      ((waypoint.member "location").truthy = false ∧ kept = none ∨
        (waypoint.member "location").truthy = true ∧
          ∃ p, kept = some p ∧ PairOf (waypoint.member "location") p) := by
  rw [Json.members_bind_eq_ok] at h
  obtain ⟨members, rfl, h⟩ := h
  refine ⟨⟨members, rfl⟩, ?_⟩
  rw [Json.member_obj]
  dsimp only at h
  split at h
  · rename_i htold
    obtain ⟨p, hp, h⟩ := bind_eq_ok.mp h
    cases h
    exact Or.inr ⟨htold, p, rfl, coordinatePoint_eq_ok hp⟩
  · rename_i hsilent
    cases h
    exact Or.inl ⟨Bool.not_eq_true _ ▸ hsilent, rfl⟩

/-- **The snapped points are the places that are told**, in order. -/
theorem forall₂_snappedPoints {waypoints : Json} {points : List Point}
    (h : snappedPoints waypoints = .ok points) :
    List.Forall₂ PairOf ((waypoints.listed.map (·.member "location")).filter Json.truthy)
      points := by
  unfold snappedPoints at h
  rw [bind_eq_ok] at h
  obtain ⟨items, hitems, h⟩ := h
  suffices hall : (∀ s, .str s ∉ items) ∧
      List.Forall₂ PairOf ((items.map (·.member "location")).filter Json.truthy) points by
    rw [← Json.items_eq_listed hitems hall.1]
    exact hall.2
  clear hitems
  induction items generalizing points with
  | nil =>
    cases h
    exact ⟨fun s => List.not_mem_nil, List.Forall₂.nil⟩
  | cons waypoint rest ih =>
    rw [List.filterMapM_cons] at h
    obtain ⟨kept, hkept, h⟩ := bind_eq_ok.mp h
    obtain ⟨⟨members, rfl⟩, hplace⟩ := snappedPoint_cases hkept
    have hno : ∀ s, Json.str s ∉ rest → Json.str s ∉ Json.obj members :: rest := by
      intro s hrest hmem
      cases hmem with
      | tail _ hmem => exact hrest hmem
    rw [List.map_cons, List.filter_cons]
    rcases hplace with ⟨hsilent, rfl⟩ | ⟨htold, p, rfl, hp⟩
    · obtain ⟨htexts, hpoints⟩ := ih h
      rw [hsilent]
      exact ⟨fun s => hno s (htexts s), hpoints⟩
    · obtain ⟨others, hothers, h⟩ := bind_eq_ok.mp h
      cases h
      obtain ⟨htexts, hpoints⟩ := ih hothers
      rw [htold]
      exact ⟨fun s => hno s (htexts s), List.Forall₂.cons hp hpoints⟩

/-! ## 3. Routes -/

/-- A path that stands for a route: it has a point for each coordinate pair, and instructions unless
    they are switched off. -/
structure PathOf (r : Request) (snapped : List Point) (route : Json) (path : Path) : Prop where
  points : List.Forall₂ PairOf route.coordinates path.points
  instructions : path.instructions.isSome = true ↔ r.hints.flag? Key.instructions ≠ some false
  snapped : path.snapped = snapped

/-- **A route is read as a path that stands for it.** -/
theorem pathOf_of_routePath {r : Request} {snapped : List Point} {route : Json} {path : Path}
    (h : routePath r snapped route = .ok path) : PathOf r snapped route path := by
  obtain ⟨members, geometry, pairs, rfl, hgeometry, hpairs, hpoints, hread, -, hsnapped⟩ :=
    routePath_eq_ok h
  have hcoordinates : List.Forall₂ PairOf (Json.obj members).coordinates path.points := by
    rw [← Json.coordinates_of_geometry hgeometry,
      ← Json.items_eq_listed hpairs (no_text_of_points hpoints)]
    exact forall₂_points hpoints
  have hswitch : (r.hints.flag? Key.instructions).getD true = true ↔
      r.hints.flag? Key.instructions ≠ some false := by
    cases r.hints.flag? Key.instructions with
    | none => exact iff_of_true rfl nofun
    | some flag => cases flag <;> decide
  refine ⟨hcoordinates, ?_, hsnapped⟩
  split at hread
  · rename_i hon
    obtain ⟨list, -, hlist⟩ := map_eq_ok.mp hread
    rw [← hlist]
    exact iff_of_true rfl (hswitch.mp hon)
  · rename_i hoff
    rw [← Except.ok.inj hread]
    exact iff_of_false nofun fun hswitched => hoff (hswitch.mpr hswitched)

/-! ## 4. Answers -/

/-- An outcome that holds all routes of an answer, each as a path, with one list of snapped
    points. -/
structure Outcome.Holds (outcome : Outcome) (answer : Json) (r : Request) : Prop where
  code : answer.member "code" = .str "Ok"
  routes : answer.routes ≠ []
  faults : outcome.faults = []
  paths : ∃ snapped, List.Forall₂ PairOf answer.locations snapped ∧
    List.Forall₂ (PathOf r snapped) answer.routes outcome.paths

/-- An answer is read as one fault, or route by route. -/
theorem read_ofAnswer {answer : Json} {r : Request} {outcome : Outcome}
    (h : Outcome.ofAnswer answer r = .ok outcome) :
    (∃ fault, outcome = .failure fault ∧
      (answer.member "code" = .str "Ok" → fault.typeId = .engineFailure)) ∨
    answer.member "code" = .str "Ok" ∧ answer.routes ≠ [] ∧ outcome.faults = [] ∧
      ∃ snapped, List.Forall₂ PairOf answer.locations snapped ∧
        List.Forall₂ (fun route path => routePath r snapped route = .ok path) answer.routes
          outcome.paths := by
  unfold Outcome.ofAnswer at h
  rw [Json.members_bind_eq_ok] at h
  obtain ⟨members, rfl, h⟩ := h
  dsimp only at h
  split at h
  · rename_i hother
    obtain ⟨fault, _, h⟩ := bind_eq_ok.mp h
    cases h
    refine Or.inl ⟨fault, rfl, fun hcode => ?_⟩
    rw [(Json.member_eq_str (by decide)).mp hcode] at hother
    exact absurd hother (by decide)
  · rename_i hcode
    split at h
    · cases h
      exact Or.inl ⟨_, rfl, fun _ => rfl⟩
    · rename_i hroutes
      obtain ⟨snapped, hsnapped, h⟩ := bind_eq_ok.mp h
      obtain ⟨routes, hitems, h⟩ := bind_eq_ok.mp h
      obtain ⟨paths, hpaths, h⟩ := bind_eq_ok.mp h
      cases h
      have hread := forall₂_of_mapM hpaths
      have hno : ∀ s, Json.str s ∉ routes := by
        intro s hmem
        obtain ⟨path, hpath⟩ := exists_mapM.mp ⟨paths, hpaths⟩ _ hmem
        cases hpath
      have hlisted : routes = (Json.obj members).routes := Json.items_eq_listed hitems hno
      rw [Bool.not_eq_true, Bool.not_eq_false'] at hcode hroutes
      refine Or.inr ⟨?_, ?_, rfl, snapped, ?_, ?_⟩
      · exact (Json.member_eq_str (by decide)).mpr (Json.isText_eq_true.mp hcode)
      · exact hlisted ▸ Json.items_ne_nil hitems hroutes
      · have hplaces := forall₂_snappedPoints hsnapped
        rwa [Json.listed_getD] at hplaces
      · rw [← hlisted]
        exact hread

/-- **An answer is read as one fault, or as all its routes.** When its code says all is well, the
    fault is that there are no routes. -/
theorem ofAnswer_cases {answer : Json} {r : Request} {outcome : Outcome}
    (h : Outcome.ofAnswer answer r = .ok outcome) :
    (∃ fault, outcome = .failure fault ∧
      (answer.member "code" = .str "Ok" → fault.typeId = .engineFailure)) ∨
    outcome.Holds answer r := by
  rcases read_ofAnswer h with hfault | ⟨hcode, hroutes, hfaults, snapped, hsnapped, hpaths⟩
  · exact Or.inl hfault
  · have hread := hpaths.imp fun _ _ => pathOf_of_routePath
    exact Or.inr ⟨hcode, hroutes, hfaults, snapped, hsnapped, hread⟩

/-- Every path that is read from an answer is read from one of its routes. -/
theorem exists_route_of_path {answer : Json} {r : Request} {outcome : Outcome} {path : Path}
    (h : Outcome.ofAnswer answer r = .ok outcome) (hpath : path ∈ outcome.paths) :
    ∃ route ∈ answer.routes, ∃ snapped, routePath r snapped route = .ok path := by
  rcases read_ofAnswer h with ⟨fault, rfl, -⟩ | ⟨-, -, -, snapped, -, hread⟩
  · exact absurd hpath List.not_mem_nil
  · obtain ⟨route, hroute, hpath⟩ := exists_mem_of_forall₂ hread hpath
    exact ⟨route, hroute, snapped, hpath⟩

theorem Outcome.Holds.paths_ne {outcome : Outcome} {answer : Json} {r : Request}
    (h : outcome.Holds answer r) : outcome.paths ≠ [] := by
  obtain ⟨snapped, -, hpaths⟩ := h.paths
  intro hnone
  rw [hnone] at hpaths
  exact h.routes (List.forall₂_nil_right_iff.mp hpaths)

/-! ## 5. Asking -/

/-- A request that a service answers with paths: its details are supported, and the content that is
    told can be read without a fault. -/
def Readable (config : OsrmConfig) (transport : Transport) (r : Request) : Prop :=
  (∀ name ∈ r.pathDetails, name ∈ supportedDetails) ∧
    ∃ answer read, told? config transport r = some answer ∧
      Outcome.ofAnswer answer r = .ok read ∧ read.faults = []

/-- **Either the answer is not readable and there is one fault, or it is and all its routes are
    there.** -/
theorem asked_cases (config : OsrmConfig) (transport : Transport) (r : Request) :
    ¬ Readable config transport r ∧
      (∃ fault, Outcome.ofAsked (osrmRoute config transport r).result = .failure fault) ∨
    Readable config transport r ∧
      ∃ answer, told? config transport r = some answer ∧
        (Outcome.ofAsked (osrmRoute config transport r).result).Holds answer r := by
  by_cases hsupported : ∀ name ∈ r.pathDetails, name ∈ supportedDetails
  · rcases osrmRoute_cases hsupported with ⟨answer, htold, hend⟩ | ⟨hsilent, fault, hfault, -⟩
    · rw [hend]
      cases hread : Outcome.ofAnswer answer r with
      | error fault =>
        refine Or.inl ⟨?_, fault.atEngine, rfl⟩
        rintro ⟨-, other, read, hother, hok, -⟩
        cases htold.symm.trans hother
        cases hread.symm.trans hok
      | ok read =>
        rcases ofAnswer_cases hread with ⟨fault, rfl, -⟩ | hholds
        · refine Or.inl ⟨?_, fault, ofAsked_of_faults (List.cons_ne_nil _ _)⟩
          rintro ⟨-, other, read, hother, hok, hnone⟩
          cases htold.symm.trans hother
          cases hread.symm.trans hok
          cases hnone
        · rw [ofAsked_of_paths hholds.paths_ne]
          have hreadable : Readable config transport r :=
            ⟨hsupported, answer, read, htold, hread, hholds.faults⟩
          exact Or.inr ⟨hreadable, answer, htold, hholds⟩
    · refine Or.inl ⟨?_, fault, hfault⟩
      rintro ⟨-, answer, read, htold, -, -⟩
      cases hsilent.symm.trans htold
  · obtain ⟨fault, hfault⟩ := result_osrmRoute_of_unsupported hsupported
    rw [hfault]
    refine Or.inl ⟨fun h => hsupported h.1, fault, ofAsked_of_faults (List.cons_ne_nil _ _)⟩

/-- **Asking a service ends with one fault and nothing else, or with a path for each route of its
    answer**, whatever it answers; with paths exactly when the answer is readable. An engine that
    breaks off anywhere counts as one fault. -/
theorem osrm_outcome_shape (config : OsrmConfig) (transport : Transport) (r : Request) :
    (∃ outcome, (invokeEngine (osrmEngine config transport) r).result = .ok outcome ∧
      ((∃ fault, outcome = .failure fault) ∨
        ∃ answer, told? config transport r = some answer ∧ outcome.Holds answer r) ∧
      (outcome.faults = [] ↔ Readable config transport r)) ∧
    ∀ events fault,
      (invokeEngine { osrmEngine config transport with route := fun _ => ⟨events, .error fault⟩ }
        r).result = .ok (.failure fault.atEngine) := by
  refine ⟨⟨_, result_invokeEngine _ r, ?_⟩, fun events fault => result_invokeEngine _ r⟩
  rcases asked_cases config transport r with ⟨hno, fault, hfault⟩ | ⟨hyes, answer, htold, hholds⟩
  · refine ⟨Or.inl ⟨fault, hfault⟩, iff_of_false (fun hnone => ?_) hno⟩
    have hnone : (Outcome.failure fault).faults = [] := hfault ▸ hnone
    cases hnone
  · exact ⟨Or.inr ⟨answer, htold, hholds⟩, iff_of_true hholds.faults hyes⟩

end Waypost
