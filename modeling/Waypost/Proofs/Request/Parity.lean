import Waypost.Proofs.Hints.Entries
import Waypost.Proofs.Hints.Map
import Waypost.Request.Build

/-!
# One question, put as a query and as a body

* `SameQuestion` -- a query with its whole map and a body that ask the same;
* `SameEnd` -- the same fault, or requests that differ in the order of their hints at most;
* `ofQuery_sameEnd_ofBody` -- **both forms of a question come to the same end**.

A query writes its switches over the hints, a body brings them among the others. The first comes to
the entries of the extras and then to the three switches (`lookup_switches`); the second to all at
once (`hints_of_members`).
-/

namespace Waypost

/-- The switches that a query writes over its hints. -/
def Key.switches : List String := [Key.calcPoints, Key.instructions, Key.wayPointMaxDistance]

/-- The text of a switch in a query string. -/
def switchText (b : Bool) : String := if b then "true" else "false"

/-- The members by which a body sends the switches of a query. -/
def RouteQuery.switchMembers (q : RouteQuery) : Members :=
  [(Key.calcPoints, .bool q.calcPoints), (Key.instructions, .bool q.instructions),
    (Key.wayPointMaxDistance, .float q.wayPointMaxDistance), (Key.elevation, .bool q.elevation)]

/-- Pairs that are hints and nothing else: their keys are distinct in normal form and none of those
    that a query reads itself, and their texts can be read. -/
structure LooseHints (extras : List (String × String)) : Prop where
  distinct : (extras.map fun e => normalizeKey e.1).Nodup
  loose : ∀ e ∈ extras, normalizeKey e.1 ∉ Key.structural ++ Key.switches ++ [Key.elevation]
  readable : ∀ e ∈ extras, HintValue.Readable (.str e.2)

/-- The map of a query: its typed keys with whatever values, some of its switches as texts, the
    elevation as a text, and the extras, in any order. -/
def SentByQuery (q : RouteQuery) (extras : List (String × String)) (raw : Grouped) : Prop :=
  ∃ (typed : Grouped) (switches : List (String × String)),
    raw.Perm (typed ++ (switches ++ (Key.elevation, switchText q.elevation) :: extras).map
      fun e => (e.1, [e.2])) ∧
    (∀ e ∈ typed, normalizeKey e.1 ∈ Key.structural) ∧
    (switches.map (·.1)).Nodup ∧ (∀ e ∈ switches, e.1 ∈ Key.switches) ∧
    ∀ e ∈ switches, HintValue.Readable (.str e.2)

/-- A query with its whole map and a body that ask the same, with the same extras. -/
structure SameQuestion (q : RouteQuery) (raw : Grouped) (b : RouteBody)
    (extras : List (String × String)) : Prop where
  points : q.points.mapM Point.parse = .ok b.points
  profile : b.profile = q.profile
  algorithm : b.algorithm = q.algorithm
  locale : b.locale = q.locale
  headings : b.headings = q.headings
  pointHints : b.pointHints = q.pointHints
  curbsides : b.curbsides = q.curbsides
  details : b.details = q.pathDetails
  snapSent : b.snapPreventions.isSome = raw.has Key.snapPrevention
  snapPreventions : ∀ values, b.snapPreventions = some values → q.snapPreventions = values
  json : q.writesTrack = false
  elevationDistance : q.elevationWayPointMaxDistance = none
  customModel : b.customModel = none
  loose : LooseHints extras
  query : SentByQuery q extras raw
  body : b.extra.Perm (q.switchMembers ++ extras.map fun e => (e.1, .str e.2))

/-- The same fault, or requests that differ in the order of their hints at most. -/
inductive SameEnd : Except Fault Request → Except Fault Request → Prop
  | fault (fault : Fault) : SameEnd (.error fault) (.error fault)
  | request (r : Request) {h other : Hints} (hsame : h.Same other) :
    SameEnd (.ok { r with hints := h }) (.ok { r with hints := other })

/-! ## 1. Keys and their values -/

theorem map_normalizeKey_structural : Key.structural.map normalizeKey = Key.structural := by
  decide +kernel

theorem normalizeKey_calcPoints : normalizeKey Key.calcPoints = Key.calcPoints := by
  decide +kernel

theorem normalizeKey_instructions : normalizeKey Key.instructions = Key.instructions := by
  decide +kernel

theorem normalizeKey_wayPointMaxDistance :
    normalizeKey Key.wayPointMaxDistance = Key.wayPointMaxDistance := by
  decide +kernel

theorem normalizeKey_elevation : normalizeKey Key.elevation = Key.elevation := by decide +kernel

theorem mem_switches {key : String} : key ∈ Key.switches ↔
    key = Key.calcPoints ∨ key = Key.instructions ∨ key = Key.wayPointMaxDistance := by
  simp [Key.switches]

theorem normalizeKey_of_mem_switches {key : String} (h : key ∈ Key.switches) :
    normalizeKey key = key := by
  rcases mem_switches.mp h with rfl | rfl | rfl
  · exact normalizeKey_calcPoints
  · exact normalizeKey_instructions
  · exact normalizeKey_wayPointMaxDistance

theorem ofText_switchText (b : Bool) : HintValue.ofText (switchText b) = .ok (.flag b) := by
  have hflag : ∀ b, HintValue.flagOfText? (switchText b) = some b := by decide +kernel
  unfold HintValue.ofText
  rw [hflag]

theorem readable_switchText (b : Bool) : HintValue.Readable (.str (switchText b)) :=
  ⟨.flag b, (HintValue.ofJson_str _).trans (ofText_switchText b)⟩

/-- The elevation is the same entry, sent as a text or as a truth value. -/
theorem entryOf_elevation (b : Bool) :
    entryOf (Key.elevation, .str (switchText b)) = (Key.elevation, .flag b) := by
  unfold entryOf HintValue.read
  dsimp only
  rw [HintValue.ofJson_str, ofText_switchText, normalizeKey_elevation]

theorem entryOf_switchMembers (q : RouteQuery) :
    q.switchMembers.map entryOf =
      [(Key.calcPoints, .flag q.calcPoints), (Key.instructions, .flag q.instructions),
        (Key.wayPointMaxDistance, .float q.wayPointMaxDistance),
        (Key.elevation, .flag q.elevation)] := by
  unfold RouteQuery.switchMembers
  simp only [List.map_cons, List.map_nil, entryOf, normalizeKey_calcPoints,
    normalizeKey_instructions, normalizeKey_wayPointMaxDistance, normalizeKey_elevation]
  rfl

theorem isHintable_switchMembers (q : RouteQuery) :
    ∀ e ∈ q.switchMembers, isHintable e.2 = true := by
  simp [RouteQuery.switchMembers, isHintable]

theorem readable_switchMembers (q : RouteQuery) :
    ∀ e ∈ q.switchMembers, HintValue.Readable e.2 := by
  simp [RouteQuery.switchMembers, HintValue.Readable, HintValue.ofJson]

/-! ## 2. The body -/

theorem putDefault_of_has {h : Hints} {key : String} (hh : h.has key = true) (value : Json) :
    h.putDefault key value = .ok h := by
  unfold Hints.putDefault
  rw [if_pos hh]

theorem has_of_mem_keys {h : Hints} {key : String} (hk : normalizeKey key ∈ h.entries.map (·.1)) :
    h.has key = true := by
  obtain ⟨e, he, hkey⟩ := List.mem_map.mp hk
  unfold Hints.has Hints.get?
  exact List.lookup_isSome_iff.mpr ⟨e, he, beq_iff_eq.mpr hkey.symm⟩

/-- The hints of a body that sends its switches, each member under a key of its own. -/
theorem ofBody_of_distinct {extra : Members} (hint : ∀ e ∈ extra, isHintable e.2 = true)
    (hread : ∀ e ∈ extra, HintValue.Readable e.2) (hn : ((extra.map entryOf).map (·.1)).Nodup)
    (hswitches : ∀ key ∈ Key.switches, key ∈ (extra.map entryOf).map (·.1)) :
    Hints.ofBody extra = .ok ⟨extra.map entryOf⟩ := by
  have hhas : ∀ key ∈ Key.switches, Hints.has ⟨extra.map entryOf⟩ key = true := by
    intro key hkey
    refine has_of_mem_keys ?_
    rw [normalizeKey_of_mem_switches hkey]
    exact hswitches key hkey
  simp only [Key.switches, List.forall_mem_cons] at hhas
  obtain ⟨hcalc, hinstructions, hdistance, -⟩ := hhas
  unfold Hints.ofBody
  rw [List.filter_eq_self.mpr hint, putAll_of_distinct hread hn, ok_bind,
    putDefault_of_has hcalc, ok_bind, putDefault_of_has hinstructions, ok_bind,
    putDefault_of_has hdistance]

/-- Members of a body that are hints beside its switches: their keys are distinct in normal form and
    none of those of the switches, and their values can be read. -/
structure LooseMembers (more : Members) : Prop where
  distinct : (more.map fun e => normalizeKey e.1).Nodup
  loose : ∀ e ∈ more, normalizeKey e.1 ∉ Key.switches ++ [Key.elevation]
  hintable : ∀ e ∈ more, isHintable e.2 = true
  readable : ∀ e ∈ more, HintValue.Readable e.2

theorem keys_of_members (q : RouteQuery) (more : Members) :
    ((q.switchMembers ++ more).map entryOf).map (·.1) =
      (Key.switches ++ [Key.elevation]) ++ more.map fun e => normalizeKey e.1 := by
  rw [List.map_append, List.map_append, entryOf_switchMembers, List.map_map]
  rfl

/-- **The hints of a body** are the entries of its switches and of its other members. -/
theorem hints_of_members {q : RouteQuery} {extra more : Members} (hl : LooseMembers more)
    (hb : extra.Perm (q.switchMembers ++ more)) :
    ∃ h, Hints.ofBody extra = .ok h ∧
      ∀ key, h.entries.lookup key = ((q.switchMembers ++ more).map entryOf).lookup key := by
  have hentries : (extra.map entryOf).Perm ((q.switchMembers ++ more).map entryOf) := hb.map _
  have hkeys : ((extra.map entryOf).map (·.1)).Perm
      ((Key.switches ++ [Key.elevation]) ++ more.map fun e => normalizeKey e.1) :=
    (hentries.map _).trans (List.Perm.of_eq (keys_of_members q more))
  have hn : ((extra.map entryOf).map (·.1)).Nodup := by
    have hswitches : (Key.switches ++ [Key.elevation]).Nodup := by decide
    rw [hkeys.nodup_iff]
    refine List.nodup_append.mpr ⟨hswitches, hl.distinct, fun key hk other ho => ?_⟩
    rintro rfl
    obtain ⟨e, he, rfl⟩ := List.mem_map.mp ho
    exact hl.loose e he hk
  have hint : ∀ e ∈ q.switchMembers ++ more, isHintable e.2 = true :=
    List.forall_mem_append.mpr ⟨isHintable_switchMembers q, hl.hintable⟩
  have hread : ∀ e ∈ q.switchMembers ++ more, HintValue.Readable e.2 :=
    List.forall_mem_append.mpr ⟨readable_switchMembers q, hl.readable⟩
  have hswitches : ∀ key ∈ Key.switches, key ∈ (extra.map entryOf).map (·.1) := by
    intro key hk
    rw [hkeys.mem_iff]
    exact List.mem_append_left _ (List.mem_append_left _ hk)
  refine ⟨⟨extra.map entryOf⟩, ?_, lookup_eq_of_perm hentries hn⟩
  exact ofBody_of_distinct (fun e he => hint e (hb.mem_iff.mp he))
    (fun e he => hread e (hb.mem_iff.mp he)) hn hswitches

/-! ## 3. Both forms of a question -/

section Question

variable {q : RouteQuery} {raw : Grouped} {b : RouteBody} {extras : List (String × String)}

/-- The entries of the extras and of the elevation. -/
def looseEntries (q : RouteQuery) (extras : List (String × String)) : List (String × HintValue) :=
  (Key.elevation, .flag q.elevation) :: extras.map fun e => entryOf (e.1, .str e.2)

theorem nodup_looseEntries (h : LooseHints extras) : ((looseEntries q extras).map (·.1)).Nodup := by
  unfold looseEntries
  rw [List.map_cons, List.map_map]
  refine List.nodup_cons.mpr ⟨fun hmem => ?_, h.distinct⟩
  obtain ⟨e, he, hkey⟩ := List.mem_map.mp hmem
  refine h.loose e he (List.mem_append_right _ ?_)
  exact List.mem_singleton.mpr hkey

theorem switches_not_loose (h : LooseHints extras) {key : String} (hk : key ∈ Key.switches) :
    key ∉ (looseEntries q extras).map (·.1) := by
  unfold looseEntries
  rw [List.map_cons, List.map_map, List.mem_cons, not_or]
  refine ⟨fun he => ?_, fun hmem => ?_⟩
  · have hne : Key.elevation ∉ Key.switches := by decide
    rw [he] at hk
    exact hne hk
  · obtain ⟨e, he, rfl⟩ := List.mem_map.mp hmem
    exact h.loose e he (List.mem_append_left _ (List.mem_append_right _ hk))

/-- The entries of all that a question sends. -/
def questionEntries (q : RouteQuery) (extras : List (String × String)) :
    List (String × HintValue) :=
  [(Key.calcPoints, .flag q.calcPoints), (Key.instructions, .flag q.instructions),
    (Key.wayPointMaxDistance, .float q.wayPointMaxDistance)] ++ looseEntries q extras

theorem LooseHints.members (h : LooseHints extras) :
    LooseMembers (extras.map fun e => (e.1, .str e.2)) where
  distinct := by
    rw [List.map_map]
    exact h.distinct
  loose := List.forall_mem_map.mpr fun e he hmem => h.loose e he (by
    rw [List.append_assoc]
    exact List.mem_append_right _ hmem)
  hintable := List.forall_mem_map.mpr fun _ _ => rfl
  readable := List.forall_mem_map.mpr h.readable

theorem questionEntries_eq (q : RouteQuery) (extras : List (String × String)) :
    (q.switchMembers ++ extras.map fun e => (e.1, Json.str e.2)).map entryOf =
      questionEntries q extras := by
  rw [List.map_append, entryOf_switchMembers, List.map_map]
  rfl

/-- **The hints of the body** are the entries of all that the question sends. -/
theorem hints_of_body (hl : LooseHints extras)
    (hb : b.extra.Perm (q.switchMembers ++ extras.map fun e => (e.1, .str e.2))) :
    ∃ h, Hints.ofBody b.extra = .ok h ∧
      ∀ key, h.entries.lookup key = (questionEntries q extras).lookup key := by
  rw [← questionEntries_eq]
  exact hints_of_members hl.members hb

theorem switch_not_structural {key : String} (h : key ∈ Key.switches) : key ∉ Key.structural := by
  have hapart : ∀ key ∈ Key.switches, key ∉ Key.structural := by decide
  exact hapart key h

theorem keys_of_sent {switches : List (String × String)}
    (hs : ∀ e ∈ switches, e.1 ∈ Key.switches) :
    (switches ++ (Key.elevation, switchText q.elevation) :: extras).map
      (fun e => normalizeKey e.1) =
      switches.map (·.1) ++ (looseEntries q extras).map (·.1) := by
  have hnormal : switches.map (fun e => normalizeKey e.1) = switches.map (·.1) :=
    List.map_congr_left fun e he => normalizeKey_of_mem_switches (hs e he)
  unfold looseEntries
  rw [List.map_append, hnormal, List.map_cons, normalizeKey_elevation, List.map_cons, List.map_map]
  rfl

theorem nodup_keys_of_sent (hl : LooseHints extras) {switches : List (String × String)}
    (hs : ∀ e ∈ switches, e.1 ∈ Key.switches) (hn : (switches.map (·.1)).Nodup) :
    ((switches ++ (Key.elevation, switchText q.elevation) :: extras).map
      fun e => normalizeKey e.1).Nodup := by
  rw [keys_of_sent hs]
  refine List.nodup_append.mpr ⟨hn, nodup_looseEntries hl, fun key hk other ho => ?_⟩
  rintro rfl
  obtain ⟨e, he, rfl⟩ := List.mem_map.mp hk
  exact switches_not_loose hl (hs e he) ho

theorem sent_not_structural (hl : LooseHints extras) {switches : List (String × String)}
    (hs : ∀ e ∈ switches, e.1 ∈ Key.switches) :
    ∀ e ∈ switches ++ (Key.elevation, switchText q.elevation) :: extras,
      normalizeKey e.1 ∉ Key.structural := by
  refine List.forall_mem_append.mpr ⟨fun e he => ?_, List.forall_mem_cons.mpr ⟨?_, fun e he => ?_⟩⟩
  · rw [normalizeKey_of_mem_switches (hs e he)]
    exact switch_not_structural (hs e he)
  · rw [normalizeKey_elevation]
    decide
  · exact fun hmem => hl.loose e he (List.mem_append_left _ (List.mem_append_left _ hmem))

/-- **The hints of the query**, but for the switches that are written over them, are those of the
    extras and the elevation. -/
theorem hints_of_query (hl : LooseHints extras) (hs : SentByQuery q extras raw) :
    ∃ h, Hints.ofQuery raw Key.structural = .ok h ∧
      ∀ key, key ∉ Key.switches → h.entries.lookup key = (looseEntries q extras).lookup key := by
  obtain ⟨typed, switches, hraw, htyped, hnodup, hwritten, hread⟩ := hs
  have hfree := sent_not_structural (q := q) hl hwritten
  have hn := nodup_keys_of_sent (q := q) hl hwritten hnodup
  have hreadable : ∀ e ∈ switches ++ (Key.elevation, switchText q.elevation) :: extras,
      HintValue.Readable (.str e.2) :=
    List.forall_mem_append.mpr
      ⟨hread, List.forall_mem_cons.mpr ⟨readable_switchText q.elevation, hl.readable⟩⟩
  rw [← map_normalizeKey_structural] at htyped hfree
  obtain ⟨h, hh, hentries⟩ := ofQuery_of_distinct hraw htyped hfree hreadable hn
  refine ⟨h, hh, fun key hk => ?_⟩
  have hnh : (h.entries.map (·.1)).Nodup := by
    rw [(hentries.map _).nodup_iff, List.map_map]
    exact hn
  rw [lookup_eq_of_perm hentries hnh, List.map_append, List.map_cons, entryOf_elevation]
  refine lookup_append_of_ne fun e he => ?_
  obtain ⟨sent, hmem, rfl⟩ := List.mem_map.mp he
  rintro rfl
  refine hk ?_
  show normalizeKey sent.1 ∈ Key.switches
  rw [normalizeKey_of_mem_switches (hwritten sent hmem)]
  exact hwritten sent hmem

/-- The switches that the query writes last are the ones of the question. -/
theorem lookup_switches (hjson : q.writesTrack = false)
    (hdistance : q.elevationWayPointMaxDistance = none) {h : Hints}
    (hh : ∀ key, key ∉ Key.switches →
      h.entries.lookup key = (looseEntries q extras).lookup key) (key : String) :
    (q.switches h).entries.lookup key = (questionEntries q extras).lookup key := by
  unfold RouteQuery.switches Hints.set
  rw [hdistance, hjson, Bool.false_or, normalizeKey_calcPoints, normalizeKey_instructions,
    normalizeKey_wayPointMaxDistance]
  dsimp only
  by_cases h₁ : key = Key.wayPointMaxDistance
  · subst h₁
    rw [Hints.lookup_write_self]
    rfl
  rw [Hints.lookup_write_of_ne h₁]
  by_cases h₂ : key = Key.instructions
  · subst h₂
    rw [Hints.lookup_write_self]
    rfl
  rw [Hints.lookup_write_of_ne h₂]
  by_cases h₃ : key = Key.calcPoints
  · subst h₃
    rw [Hints.lookup_write_self]
    rfl
  rw [Hints.lookup_write_of_ne h₃]
  have hother : key ∉ Key.switches := fun h => by simp [mem_switches, h₁, h₂, h₃] at h
  rw [hh key hother]
  unfold questionEntries
  refine (lookup_append_of_ne ?_).symm
  simp [Ne.symm h₁, Ne.symm h₂, Ne.symm h₃]

/-! ## 4. The same end -/

/-- The validation does not look at the hints: it refuses a request with whatever hints for the same
    reason, or lets it through as it is. -/
theorem validate_cases (r : Request) (h other : Hints) :
    (∃ fault, { r with hints := h }.validate = .error fault ∧
      { r with hints := other }.validate = .error fault) ∨
    ({ r with hints := h }.validate = .ok { r with hints := h } ∧
      { r with hints := other }.validate = .ok { r with hints := other }) := by
  unfold Request.validate
  dsimp only
  split
  · exact Or.inl ⟨_, rfl, rfl⟩
  · split
    · exact Or.inl ⟨_, rfl, rfl⟩
    · split
      · exact Or.inl ⟨_, rfl, rfl⟩
      · split
        · exact Or.inl ⟨_, rfl, rfl⟩
        · exact Or.inr ⟨rfl, rfl⟩

theorem validate_sameEnd (r : Request) {h other : Hints} (hsame : h.Same other) :
    SameEnd { r with hints := h }.validate { r with hints := other }.validate := by
  rcases validate_cases r h other with ⟨fault, hfault, hother⟩ | ⟨hvalid, hother⟩
  · rw [hfault, hother]
    exact SameEnd.fault fault
  · rw [hvalid, hother]
    exact SameEnd.request r hsame

theorem flag?_of_lookup {h : Hints} {key : String} {b : Bool} (hkey : normalizeKey key = key)
    (hl : h.entries.lookup key = some (.flag b)) : h.flag? key = some b := by
  unfold Hints.flag? Hints.get?
  rw [hkey, hl]

theorem flag?_elevation {h : Hints}
    (hh : ∀ key, h.entries.lookup key = (questionEntries q extras).lookup key) :
    h.flag? Key.elevation = some q.elevation :=
  flag?_of_lookup normalizeKey_elevation (hh Key.elevation)

/-- **A query and a body that ask the same come to the same end**: both are refused for the same
    reason, or both lead to the same request. -/
theorem ofQuery_sameEnd_ofBody (options : ServerOptions) (h : SameQuestion q raw b extras) :
    SameEnd (Request.ofQuery options q raw) (Request.ofBody options b) := by
  obtain ⟨fromQuery, hquery, hqueryLookup⟩ := hints_of_query h.loose h.query
  obtain ⟨fromBody, hbody, hbodyLookup⟩ := hints_of_body h.loose h.body
  have hsame : (q.switches fromQuery).Same fromBody := fun key =>
    (lookup_switches h.json h.elevationDistance hqueryLookup key).trans (hbodyLookup key).symm
  have hsnap : resolveSnapPreventions b.snapPreventions.isSome (b.snapPreventions.getD [])
      options.snapDefault = resolveSnapPreventions (raw.has Key.snapPrevention) q.snapPreventions
        options.snapDefault := by
    rw [← h.snapSent]
    cases hs : b.snapPreventions with
    | none => rfl
    | some values =>
      rw [h.snapPreventions values hs]
      rfl
  unfold Request.ofQuery Request.ofBody
  rw [hquery, hbody, ok_bind, ok_bind, flag?_elevation hbodyLookup, Option.getD_some, h.points,
    ok_bind, h.profile, h.algorithm, h.locale, h.headings, h.pointHints, h.curbsides, h.details,
    h.customModel, hsnap]
  cases ensureElevation q.elevation options.hasElevation with
  | error fault => exact SameEnd.fault fault
  | ok _ =>
    rw [ok_bind, ok_bind]
    exact validate_sameEnd
      { points := b.points, profile := q.profile.getD "", algorithm := q.algorithm,
        locale := orDefault q.locale "en", headings := q.headings, pointHints := q.pointHints,
        curbsides := q.curbsides, pathDetails := q.pathDetails,
        snapPreventions := some (resolveSnapPreventions (raw.has Key.snapPrevention)
          q.snapPreventions options.snapDefault) } hsame

end Question

/-- Extras of a question, one of them in camel case. -/
def townExtras : List (String × String) := [("roundTrip.seed", "17"), ("ch_disable", "yes")]

/-- A question for the way between two points, as a query. -/
def townQuery : RouteQuery where
  points := ["52.5,13.4", "52.4,13.3"]
  profile := some "car"
  instructions := false
  elevation := true
  headings := [90.0, 180.0]
  wayPointMaxDistance := 1.5

def townRaw : Grouped :=
  [("elevation", ["true"]), ("point", ["52.5,13.4", "52.4,13.3"]), ("roundTrip.seed", ["17"]),
    ("heading", ["90", "180"]), ("ch_disable", ["yes"]), ("instructions", ["false"])]

/-- The same question as a body, given its points. -/
def townBody (points : List Point) : RouteBody where
  points := points
  profile := some "car"
  headings := [90.0, 180.0]
  extra := (townExtras.map fun e => (e.1, .str e.2)) ++ townQuery.switchMembers

theorem townQuestion {points : List Point} (h : townQuery.points.mapM Point.parse = .ok points) :
    SameQuestion townQuery townRaw (townBody points) townExtras where
  points := h
  profile := rfl
  algorithm := rfl
  locale := rfl
  headings := rfl
  pointHints := rfl
  curbsides := rfl
  details := rfl
  snapSent := rfl
  snapPreventions _ hvalues := by cases hvalues
  json := by decide +kernel
  elevationDistance := rfl
  customModel := rfl
  loose := ⟨by decide +kernel, by decide +kernel, by decide +kernel⟩
  query := ⟨[("point", ["52.5,13.4", "52.4,13.3"]), ("heading", ["90", "180"])],
    [("instructions", "false")], by decide +kernel, by decide +kernel, by decide, by decide,
    by decide +kernel⟩
  body := List.perm_append_comm

theorem ofQuery_sameEnd_ofBody_town :
    ∃ b r s, SameQuestion townQuery townRaw b townExtras ∧
      Request.ofQuery { hasElevation := true } townQuery townRaw = .ok r ∧
      Request.ofBody { hasElevation := true } b = .ok s ∧
      s = { r with hints := s.hints } ∧ r.hints.Same s.hints := by
  have hpoints : (townQuery.points.mapM Point.parse).toOption.isSome = true := by decide +kernel
  have hbuilt : (Request.ofQuery { hasElevation := true } townQuery townRaw).toOption.isSome =
      true := by decide +kernel
  obtain ⟨points, hp⟩ := isSome_toOption.mp hpoints
  obtain ⟨r, hr⟩ := isSome_toOption.mp hbuilt
  have hquestion := townQuestion hp
  have hend := ofQuery_sameEnd_ofBody { hasElevation := true } hquestion
  rw [hr] at hend
  generalize hs : Request.ofBody { hasElevation := true } (townBody points) = built at hend
  cases hend with
  | request common hsame => exact ⟨_, _, _, hquestion, hr, hs, rfl, hsame⟩

end Waypost
