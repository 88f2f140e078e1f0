import Waypost.Proofs.Request.Parity
import Waypost.Service.Route

/-!
# One question, to be seen alike

A query says in typed fields how the lines of its answer are to be written. A body says so among its
hints, where it is read back when the answer is written.

* `SameView` -- a query and a body that put one question and ask to see its answer alike;
* `Hints.SameBut` -- hints with the same values under all keys but some;
* `SameView.hints` -- **the hints of both are the same but for the writing of lines, and those of the
  body ask to see what the query asks to see**;
* `AlikeEnd` -- the same fault, or requests that differ in such hints only;
* `ofQuery_alikeEnd_ofBody` -- **both forms come to such an end**.
-/

namespace Waypost

/-- The keys that say how lines are to be written. -/
def Key.encoding : List String := [Key.pointsEncoded, Key.pointsEncodedMultiplier]

/-- The members by which a body says how lines are to be written. -/
def RouteQuery.encodingMembers (q : RouteQuery) : Members :=
  [(Key.pointsEncoded, .bool q.pointsEncoded),
    (Key.pointsEncodedMultiplier, .float q.pointsEncodedMultiplier)]

/-- A query with its whole map and a body that put one question and ask to see its answer alike. The
    map without the writing of lines and the members without it put the question; beside it the map
    may hold that in readable texts, and the body sends it. -/
structure SameView (q : RouteQuery) (raw : Grouped) (b : RouteBody)
    (extras encoding : List (String × String)) (base : Grouped) (plain : Members) : Prop where
  question : SameQuestion q base { b with extra := plain } extras
  free : ∀ e ∈ extras, normalizeKey e.1 ∉ Key.encoding
  once : (encoding.map (·.1)).Nodup
  keys : ∀ e ∈ encoding, e.1 ∈ Key.encoding
  readable : ∀ e ∈ encoding, HintValue.Readable (.str e.2)
  query : raw.Perm (base ++ encoding.map fun e => (e.1, [e.2]))
  body : b.extra.Perm (plain ++ q.encodingMembers)

/-- The same values under all keys but some. -/
def Hints.SameBut (keys : List String) (h other : Hints) : Prop :=
  ∀ key, key ∉ keys → h.entries.lookup key = other.entries.lookup key

/-- The same fault, or requests that differ at most in those hints that say how lines are to be
    written. -/
inductive AlikeEnd : Except Fault Request → Except Fault Request → Prop
  | fault (fault : Fault) : AlikeEnd (.error fault) (.error fault)
  | request (r : Request) {h other : Hints} (halike : h.SameBut Key.encoding other) :
    AlikeEnd (.ok { r with hints := h }) (.ok { r with hints := other })

/-! ## 1. Keys -/

theorem normalizeKey_pointsEncoded : normalizeKey Key.pointsEncoded = Key.pointsEncoded := by
  decide +kernel

theorem normalizeKey_pointsEncodedMultiplier :
    normalizeKey Key.pointsEncodedMultiplier = Key.pointsEncodedMultiplier := by decide +kernel

theorem mem_encoding {key : String} :
    key ∈ Key.encoding ↔ key = Key.pointsEncoded ∨ key = Key.pointsEncodedMultiplier := by
  simp [Key.encoding]

theorem normalizeKey_of_mem_encoding {key : String} (h : key ∈ Key.encoding) :
    normalizeKey key = key := by
  rcases mem_encoding.mp h with rfl | rfl
  · exact normalizeKey_pointsEncoded
  · exact normalizeKey_pointsEncodedMultiplier

/-- How lines are to be written is a hint and nothing else. -/
theorem encoding_loose {key : String} (h : key ∈ Key.encoding) :
    key ∉ Key.structural ++ Key.switches ++ [Key.elevation] := by
  have hloose : ∀ key ∈ Key.encoding, key ∉ Key.structural ++ Key.switches ++ [Key.elevation] := by
    decide
  exact hloose key h

/-- The entries by which a body says how lines are to be written. -/
def encodingEntries (q : RouteQuery) : List (String × HintValue) :=
  [(Key.pointsEncoded, .flag q.pointsEncoded),
    (Key.pointsEncodedMultiplier, .float q.pointsEncodedMultiplier)]

theorem entryOf_encodingMembers (q : RouteQuery) :
    q.encodingMembers.map entryOf = encodingEntries q := by
  unfold RouteQuery.encodingMembers
  simp only [List.map_cons, List.map_nil, entryOf, normalizeKey_pointsEncoded,
    normalizeKey_pointsEncodedMultiplier]
  rfl

section View

variable {q : RouteQuery} {raw : Grouped} {b : RouteBody}
  {extras encoding : List (String × String)} {base : Grouped} {plain : Members}
  (h : SameView q raw b extras encoding base plain)
include h

/-! ## 2. What both send -/

/-- In the map of the query the writing of lines is one more hint. -/
theorem SameView.looseHints : LooseHints (extras ++ encoding) where
  distinct := by
    have hnormal : encoding.map (fun e => normalizeKey e.1) = encoding.map (·.1) :=
      List.map_congr_left fun e he => normalizeKey_of_mem_encoding (h.keys e he)
    rw [List.map_append, hnormal]
    refine List.nodup_append.mpr ⟨h.question.loose.distinct, h.once, fun key hk other ho => ?_⟩
    rintro rfl
    obtain ⟨e, he, rfl⟩ := List.mem_map.mp hk
    obtain ⟨sent, hsent, hkey⟩ := List.mem_map.mp ho
    exact h.free e he (hkey ▸ h.keys sent hsent)
  loose := by
    refine List.forall_mem_append.mpr ⟨h.question.loose.loose, fun e he => ?_⟩
    rw [normalizeKey_of_mem_encoding (h.keys e he)]
    exact encoding_loose (h.keys e he)
  readable := List.forall_mem_append.mpr ⟨h.question.loose.readable, h.readable⟩

theorem SameView.sentByQuery : SentByQuery q (extras ++ encoding) raw := by
  obtain ⟨typed, switches, hbase, htyped, hnodup, hwritten, hread⟩ := h.question.query
  refine ⟨typed, switches, ?_, htyped, hnodup, hwritten, hread⟩
  refine h.query.trans ((hbase.append_right _).trans (List.Perm.of_eq ?_))
  simp only [List.map_append, List.map_cons, List.append_assoc, List.cons_append]

/-- So it is among the members of the body. -/
theorem SameView.looseMembers :
    LooseMembers (extras.map (fun e => (e.1, .str e.2)) ++ q.encodingMembers) := by
  have hextras := h.question.loose.members
  have hkeys : (q.encodingMembers.map fun e => normalizeKey e.1) = Key.encoding := by
    unfold RouteQuery.encodingMembers
    simp only [List.map_cons, List.map_nil, normalizeKey_pointsEncoded,
      normalizeKey_pointsEncodedMultiplier]
    rfl
  have hkey : ∀ e ∈ q.encodingMembers, normalizeKey e.1 ∈ Key.encoding := fun e he =>
    hkeys ▸ List.mem_map_of_mem he
  refine ⟨?_, ?_, ?_, ?_⟩
  · rw [List.map_append, hkeys]
    have hencoding : Key.encoding.Nodup := by decide
    refine List.nodup_append.mpr ⟨hextras.distinct, hencoding, fun key hk other ho => ?_⟩
    rintro rfl
    rw [List.map_map] at hk
    obtain ⟨e, he, rfl⟩ := List.mem_map.mp hk
    exact h.free e he ho
  · refine List.forall_mem_append.mpr ⟨hextras.loose, fun e he hmem => ?_⟩
    refine encoding_loose (hkey e he) ?_
    rw [List.append_assoc]
    exact List.mem_append_right _ hmem
  · refine List.forall_mem_append.mpr ⟨hextras.hintable, ?_⟩
    simp [RouteQuery.encodingMembers, isHintable]
  · refine List.forall_mem_append.mpr ⟨hextras.readable, ?_⟩
    simp [RouteQuery.encodingMembers, HintValue.Readable, HintValue.ofJson]

/-! ## 3. The hints of both -/

theorem SameView.body_perm : b.extra.Perm
    (q.switchMembers ++ (extras.map (fun e => (e.1, .str e.2)) ++ q.encodingMembers)) := by
  have hplain : plain.Perm (q.switchMembers ++ extras.map fun e => (e.1, .str e.2)) :=
    h.question.body
  refine h.body.trans ((hplain.append_right _).trans (List.Perm.of_eq ?_))
  rw [List.append_assoc]

/-- No key that says how lines are to be written is among those of the question. -/
theorem SameView.not_question {key : String} (hk : key ∈ Key.encoding) :
    ∀ e ∈ questionEntries q extras, e.1 ≠ key := by
  have hswitches : ∀ other ∈ Key.switches ++ [Key.elevation], other ≠ key := by
    rintro other ho rfl
    refine encoding_loose hk ?_
    rw [List.append_assoc]
    exact List.mem_append_right _ ho
  rw [← questionEntries_eq, List.map_append]
  refine List.forall_mem_append.mpr ⟨fun e he => ?_, List.forall_mem_map.mpr ?_⟩
  · refine hswitches e.1 ?_
    rw [entryOf_switchMembers] at he
    exact List.mem_map_of_mem (f := (·.1)) he
  · refine List.forall_mem_map.mpr fun e he hkey => h.free e he ?_
    have hnormal : normalizeKey e.1 = key := hkey
    rw [hnormal]
    exact hk

/-- The hints of the query are those of the question and the writing of lines as it was sent. -/
theorem SameView.hints_of_query : ∃ fromQuery, Hints.ofQuery raw Key.structural = .ok fromQuery ∧
    ∀ key, (q.switches fromQuery).entries.lookup key =
      (questionEntries q extras ++ encoding.map fun e => entryOf (e.1, .str e.2)).lookup key := by
  have hentries : questionEntries q (extras ++ encoding) =
      questionEntries q extras ++ encoding.map fun e => entryOf (e.1, .str e.2) := by
    unfold questionEntries looseEntries
    rw [List.map_append]
    rfl
  obtain ⟨fromQuery, hquery, hlookup⟩ := Waypost.hints_of_query h.looseHints h.sentByQuery
  refine ⟨fromQuery, hquery, fun key => ?_⟩
  rw [← hentries]
  exact lookup_switches h.question.json h.question.elevationDistance hlookup key

/-- The hints of the body are those of the question and the writing of lines that is asked for. -/
theorem SameView.hints_of_body : ∃ fromBody, Hints.ofBody b.extra = .ok fromBody ∧
    ∀ key, fromBody.entries.lookup key =
      (questionEntries q extras ++ encodingEntries q).lookup key := by
  obtain ⟨fromBody, hbody, hlookup⟩ := hints_of_members h.looseMembers h.body_perm
  refine ⟨fromBody, hbody, fun key => ?_⟩
  rw [hlookup, ← List.append_assoc, List.map_append, questionEntries_eq, entryOf_encodingMembers]

/-- What hints with the entries of a body ask to see. -/
theorem SameView.output_eq {hints : Hints} (hlookup : ∀ key, hints.entries.lookup key =
    (questionEntries q extras ++ encodingEntries q).lookup key) :
    hints.output = .ok q.output := by
  have hinstructions : hints.flag? Key.instructions = some q.instructions :=
    flag?_of_lookup normalizeKey_instructions (hlookup _)
  have hcalcPoints : hints.flag? Key.calcPoints = some q.calcPoints :=
    flag?_of_lookup normalizeKey_calcPoints (hlookup _)
  have helevation : hints.flag? Key.elevation = some q.elevation :=
    flag?_of_lookup normalizeKey_elevation (hlookup _)
  have hencoded : hints.flag? Key.pointsEncoded = some q.pointsEncoded := by
    refine flag?_of_lookup normalizeKey_pointsEncoded ?_
    rw [hlookup, lookup_append_of_ne (h.not_question (mem_encoding.mpr (Or.inl rfl)))]
    rfl
  have hmultiplier : hints.float? Key.pointsEncodedMultiplier =
      .ok (some q.pointsEncodedMultiplier) := by
    unfold Hints.float? Hints.get?
    rw [normalizeKey_pointsEncodedMultiplier, hlookup,
      lookup_append_of_ne (h.not_question (mem_encoding.mpr (Or.inr rfl)))]
    rfl
  unfold Hints.output
  rw [hinstructions, hcalcPoints, helevation, hencoded, hmultiplier]
  rfl

/-- **The hints of both** are the same but for the writing of lines, and those of the body ask to
    see what the query asks to see. -/
theorem SameView.hints : ∃ fromQuery fromBody, Hints.ofQuery raw Key.structural = .ok fromQuery ∧
    Hints.ofBody b.extra = .ok fromBody ∧ (q.switches fromQuery).SameBut Key.encoding fromBody ∧
    fromBody.flag? Key.elevation = some q.elevation ∧ fromBody.output = .ok q.output := by
  obtain ⟨fromQuery, hquery, hqueryLookup⟩ := h.hints_of_query
  obtain ⟨fromBody, hbody, hbodyLookup⟩ := h.hints_of_body
  refine ⟨fromQuery, fromBody, hquery, hbody, fun key hkey => ?_,
    flag?_of_lookup normalizeKey_elevation (hbodyLookup _), h.output_eq hbodyLookup⟩
  have hsent : ∀ e ∈ encoding.map fun e => entryOf (e.1, .str e.2), e.1 ≠ key := by
    refine List.forall_mem_map.mpr fun e he hsame => hkey ?_
    have hnormal : normalizeKey e.1 = key := hsame
    rw [← hnormal, normalizeKey_of_mem_encoding (h.keys e he)]
    exact h.keys e he
  have hasked : ∀ e ∈ encodingEntries q, e.1 ≠ key := by
    rintro e he rfl
    exact hkey (List.mem_map_of_mem (f := (·.1)) he)
  rw [hqueryLookup, hbodyLookup, lookup_append_of_ne_right hsent,
    lookup_append_of_ne_right hasked]

/-! ## 4. The requests of both -/

theorem SameView.has_snapPrevention :
    raw.has Key.snapPrevention = base.has Key.snapPrevention := by
  have hother : (encoding.map fun e => (e.1, [e.2])).any (·.1 == Key.snapPrevention) = false := by
    rw [List.any_eq_false]
    refine List.forall_mem_map.mpr fun e he hkey => ?_
    have hne : Key.snapPrevention ∉ Key.encoding := by decide
    exact hne (beq_iff_eq.mp hkey ▸ h.keys e he)
  unfold Grouped.has
  rw [h.query.any_eq, List.any_append, hother, Bool.or_false]

end View

/-- Query and body of a question are refused for the same reason, or lead to requests that differ at
    most in the hints that they come with. -/
theorem SameQuestion.built {q : RouteQuery} {base : Grouped} {b : RouteBody}
    {extras : List (String × String)} (h : SameQuestion q base b extras) (options : ServerOptions)
    {raw : Grouped} {extra : Members} {fromQuery fromBody : Hints}
    (hsnap : raw.has Key.snapPrevention = base.has Key.snapPrevention)
    (hquery : Hints.ofQuery raw Key.structural = .ok fromQuery)
    (hbody : Hints.ofBody extra = .ok fromBody)
    (helevation : fromBody.flag? Key.elevation = some q.elevation) :
    (∃ fault, Request.ofQuery options q raw = .error fault ∧
      Request.ofBody options { b with extra := extra } = .error fault) ∨
    ∃ r : Request, Request.ofQuery options q raw = .ok { r with hints := q.switches fromQuery } ∧
      Request.ofBody options { b with extra := extra } = .ok { r with hints := fromBody } := by
  have hsnaps : resolveSnapPreventions b.snapPreventions.isSome (b.snapPreventions.getD [])
      options.snapDefault = resolveSnapPreventions (raw.has Key.snapPrevention) q.snapPreventions
        options.snapDefault := by
    rw [hsnap, ← h.snapSent]
    cases hs : b.snapPreventions with
    | none => rfl
    | some values =>
      rw [h.snapPreventions values hs]
      rfl
  unfold Request.ofQuery Request.ofBody
  dsimp only
  rw [hquery, hbody, ok_bind, ok_bind, helevation, Option.getD_some, h.points, ok_bind, h.profile,
    h.algorithm, h.locale, h.headings, h.pointHints, h.curbsides, h.details, h.customModel, hsnaps]
  cases ensureElevation q.elevation options.hasElevation with
  | error fault => exact Or.inl ⟨fault, rfl, rfl⟩
  | ok _ =>
    rw [ok_bind, ok_bind]
    let asked : Request :=
      { points := b.points, profile := q.profile.getD "", algorithm := q.algorithm,
        locale := orDefault q.locale "en", headings := q.headings, pointHints := q.pointHints,
        curbsides := q.curbsides, pathDetails := q.pathDetails,
        snapPreventions := some (resolveSnapPreventions (raw.has Key.snapPrevention)
          q.snapPreventions options.snapDefault) }
    rcases validate_cases asked (q.switches fromQuery) fromBody with
      ⟨fault, hfault, hother⟩ | ⟨hvalid, hother⟩
    · exact Or.inl ⟨fault, hfault, hother⟩
    · exact Or.inr ⟨asked, hvalid, hother⟩

/-- **A query and a body that put one question, to be seen alike, come to the same end** but for how
    lines are to be written. -/
theorem ofQuery_alikeEnd_ofBody {q : RouteQuery} {raw : Grouped} {b : RouteBody}
    {extras encoding : List (String × String)} {base : Grouped} {plain : Members}
    (options : ServerOptions) (h : SameView q raw b extras encoding base plain) :
    AlikeEnd (Request.ofQuery options q raw) (Request.ofBody options b) := by
  obtain ⟨fromQuery, fromBody, hquery, hbody, halike, helevation, -⟩ := h.hints
  rcases h.question.built options h.has_snapPrevention hquery hbody helevation with
    ⟨fault, hleft, hright⟩ | ⟨r, hleft, hright⟩
  · rw [hleft, show Request.ofBody options b = .error fault from hright]
    exact AlikeEnd.fault fault
  · rw [hleft, show Request.ofBody options b = .ok { r with hints := fromBody } from hright]
    exact AlikeEnd.request r halike

end Waypost
