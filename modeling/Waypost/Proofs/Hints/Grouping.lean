import Mathlib.Data.List.Induction
import Mathlib.Data.List.Perm.Basic
import Waypost.Proofs.Hints.History

/-!
# What the pairs of a query string mean

Whether a key was repeated is told by its spelling, but hints are kept by the normal form. A key
that came once in one spelling and twice in another counts with the one spelling.

* `valuesOf`, `keysSentOnce` -- the values of a key, and the keys that came exactly once;
* `GroupsOf` -- pairs by key: no pair is lost, comes twice or goes to another key;
* `groupPairs_eq` -- **the pairs by key are the keys in order of first appearance**, each with its
  values;
* `MeantBy` -- the hints that pairs mean, told by counting the pairs;
* `hints_of_pairs` -- **hints hold what the pairs mean**, and where no two keys have one normal form
  the order of the pairs does not count.
-/

namespace Waypost

/-- The values of the pairs with a key, in order. -/
def valuesOf (pairs : List (String × String)) (key : String) : List String :=
  (pairs.filter fun pair => pair.1 == key).map (·.2)

/-- The keys that came exactly once, in order of first appearance. -/
def keysSentOnce (pairs : List (String × String)) : List String :=
  (pairs.map (·.1)).eraseDups.filter fun key => (pairs.map (·.1)).count key == 1

/-- The pairs that were grouped, key by key. -/
def Grouped.pairs (grouped : Grouped) : List (String × String) :=
  grouped.flatMap fun entry => entry.2.map fun value => (entry.1, value)

/-- Pairs by key: each key once in order of first appearance, with exactly its values in order. -/
structure GroupsOf (pairs : List (String × String)) (grouped : Grouped) : Prop where
  keys : grouped.map (·.1) = (pairs.map (·.1)).eraseDups
  once : (grouped.map (·.1)).Nodup
  values : ∀ entry ∈ grouped, entry.2 = valuesOf pairs entry.1
  lossless : grouped.pairs.Perm pairs

/-! ## 1. Groups -/

section Groups

variable {pairs others : List (String × String)}

theorem length_valuesOf (pairs : List (String × String)) (key : String) :
    (valuesOf pairs key).length = (pairs.map (·.1)).count key := by
  unfold valuesOf
  rw [List.length_map, ← List.countP_eq_length_filter, List.count, List.countP_map]
  rfl

theorem mem_valuesOf {key value : String} : value ∈ valuesOf pairs key ↔ (key, value) ∈ pairs := by
  unfold valuesOf
  rw [List.mem_map]
  constructor
  · intro hfound
    obtain ⟨⟨other, found⟩, hmem, rfl⟩ := hfound
    obtain ⟨hpair, hkey⟩ := List.mem_filter.mp hmem
    have hsame : other = key := beq_iff_eq.mp hkey
    subst hsame
    exact hpair
  · intro hpair
    exact ⟨(key, value), List.mem_filter.mpr ⟨hpair, beq_self_eq_true key⟩, rfl⟩

/-- **A key has one value exactly when it came once.** -/
theorem valuesOf_eq_singleton {key value : String} :
    valuesOf pairs key = [value] ↔ (pairs.map (·.1)).count key = 1 ∧ (key, value) ∈ pairs := by
  rw [← length_valuesOf, ← mem_valuesOf]
  constructor
  · intro h
    rw [h]
    exact ⟨rfl, List.mem_singleton.mpr rfl⟩
  · intro hfound
    obtain ⟨hlength, hmem⟩ := hfound
    obtain ⟨only, honly⟩ := List.length_eq_one_iff.mp hlength
    rw [honly] at hmem ⊢
    rw [List.mem_singleton.mp hmem]

theorem valuesOf_append (pairs : List (String × String)) (last : String × String) (key : String) :
    valuesOf (pairs ++ [last]) key =
      if last.1 = key then valuesOf pairs key ++ [last.2] else valuesOf pairs key := by
  unfold valuesOf
  rw [List.filter_append, List.map_append, List.filter_singleton]
  by_cases hkey : last.1 = key
  · rw [if_pos hkey, beq_iff_eq.mpr hkey]
    rfl
  · rw [if_neg hkey, beq_eq_false_iff_ne.mpr hkey]
    exact List.append_nil _

/-- **One more value** goes to its key, which is set up at the end if it is new. -/
theorem add_map {keys : List String} (hn : keys.Nodup) (values : String → List String)
    (key value : String) :
    Grouped.add key value (keys.map fun k => (k, values k)) =
      (keys.map fun k => (k, if key = k then values k ++ [value] else values k)) ++
        if key ∈ keys then [] else [(key, [value])] := by
  induction keys with
  | nil => rfl
  | cons k rest ih =>
    obtain ⟨hnew, hrest⟩ := List.nodup_cons.mp hn
    rw [List.map_cons, List.map_cons]
    unfold Grouped.add
    by_cases hkey : key = k
    · subst hkey
      have hothers : (rest.map fun k => (k, if key = k then values k ++ [value] else values k)) =
          rest.map fun k => (k, values k) := by
        refine List.map_congr_left fun other hother => ?_
        have hne : key ≠ other := by
          rintro rfl
          exact hnew hother
        rw [if_neg hne]
      rw [if_pos (beq_self_eq_true key), if_pos rfl, if_pos List.mem_cons_self, List.append_nil,
        hothers]
    · rw [if_neg fun he => hkey (beq_iff_eq.mp he).symm, if_neg hkey, ih hrest]
      simp only [List.mem_cons, hkey, false_or, List.cons_append]

/-- One more key is new, or it appeared before. -/
theorem eraseDups_append_singleton (keys : List String) (key : String) :
    (keys ++ [key]).eraseDups = keys.eraseDups ++ if key ∈ keys then [] else [key] := by
  rw [List.eraseDups_append]
  congr 1
  by_cases hmem : key ∈ keys
  · simp [List.removeAll, hmem]
  · simp [List.removeAll, hmem, List.eraseDups_cons]

/-- A key that did not come has no values. -/
theorem valuesOf_of_not_mem {key : String} (h : key ∉ pairs.map (·.1)) :
    valuesOf pairs key = [] := by
  rw [← List.length_eq_zero_iff, length_valuesOf, List.count_eq_zero]
  exact h

/-- **The pairs by key are the keys in order of first appearance, each with its values.** The
    induction takes the last pair away. -/
theorem groupPairs_eq (pairs : List (String × String)) :
    groupPairs pairs = (pairs.map (·.1)).eraseDups.map fun key => (key, valuesOf pairs key) := by
  induction pairs using List.reverseRecOn with
  | nil => rfl
  | append_singleton pairs last ih =>
    have hstep : groupPairs (pairs ++ [last]) = (groupPairs pairs).add last.1 last.2 := by
      unfold groupPairs
      rw [List.foldl_append]
      rfl
    have hn : (pairs.map (·.1)).eraseDups.Nodup := by
      have hgrouped := nodup_keys_groupPairs pairs
      rw [ih, List.map_map] at hgrouped
      simpa only [Function.comp_def, List.map_id_fun', id] using hgrouped
    have hkeys : ((pairs ++ [last]).map (·.1)).eraseDups = (pairs.map (·.1)).eraseDups ++
        if last.1 ∈ pairs.map (·.1) then [] else [last.1] := by
      rw [List.map_append, List.map_singleton, eraseDups_append_singleton]
    rw [hstep, ih, add_map hn, hkeys, List.map_append]
    simp only [valuesOf_append, List.mem_eraseDups]
    congr 1
    split
    · rfl
    · rename_i hnew
      simp [valuesOf_of_not_mem hnew]

/-- A value that is added is one more pair. -/
theorem pairs_add (key value : String) (grouped : Grouped) :
    (grouped.add key value).pairs.Perm ((key, value) :: grouped.pairs) := by
  induction grouped with
  | nil => exact List.Perm.refl _
  | cons entry rest ih =>
    obtain ⟨k, values⟩ := entry
    unfold Grouped.add
    by_cases hkey : k = key
    · subst hkey
      rw [if_pos (beq_self_eq_true k)]
      unfold Grouped.pairs
      rw [List.flatMap_cons, List.flatMap_cons, List.map_append, List.append_assoc]
      exact List.perm_middle
    · rw [if_neg fun he => hkey (beq_iff_eq.mp he)]
      unfold Grouped.pairs at ih ⊢
      rw [List.flatMap_cons, List.flatMap_cons]
      exact (ih.append_left _).trans List.perm_middle

/-- **Pairs by key are all the pairs.** -/
theorem groupsOf_groupPairs (pairs : List (String × String)) :
    GroupsOf pairs (groupPairs pairs) where
  keys := by
    rw [groupPairs_eq, List.map_map]
    exact List.map_id _
  once := nodup_keys_groupPairs pairs
  values entry hentry := by
    rw [groupPairs_eq] at hentry
    obtain ⟨key, -, rfl⟩ := List.mem_map.mp hentry
    rfl
  lossless := by
    have hstep : ∀ grouped : Grouped,
        (pairs.foldl (fun grouped pair => grouped.add pair.1 pair.2) grouped).pairs.Perm
          (grouped.pairs ++ pairs) := by
      induction pairs with
      | nil =>
        intro grouped
        rw [List.append_nil]
        exact List.Perm.refl _
      | cons pair rest ih =>
        intro grouped
        refine (ih (grouped.add pair.1 pair.2)).trans ?_
        exact ((pairs_add pair.1 pair.2 grouped).append_right rest).trans List.perm_middle.symm
    exact hstep []

end Groups

/-! ## 2. Hints -/

/-- The hints that pairs mean, less some keys: a normal key is there when some spelling of it came
    exactly once and none of its spellings is skipped, and the last such spelling gives the
    value. -/
structure MeantBy (pairs : List (String × String)) (skip : List String) (hints : Hints) : Prop where
  once : hints.keys.Nodup
  mem_keys : ∀ key, key ∈ hints.keys ↔ key ∉ skip.map normalizeKey ∧
    ∃ spelling, (pairs.map (·.1)).count spelling = 1 ∧ normalizeKey spelling = key
  value : ∀ key ∈ hints.keys, ∃ spelling value v,
    ((keysSentOnce pairs).filter fun other => normalizeKey other == key).getLast? = some spelling ∧
      (spelling, value) ∈ pairs ∧ HintValue.ofText value = .ok v ∧
      hints.entries.lookup key = some v

section Meaning

variable {pairs others : List (String × String)} {skip : List String} {hints : Hints}

theorem mem_keysSentOnce {key : String} :
    key ∈ keysSentOnce pairs ↔ (pairs.map (·.1)).count key = 1 := by
  unfold keysSentOnce
  rw [List.mem_filter, List.mem_eraseDups, beq_iff_eq]
  constructor
  · exact fun h => h.2
  · intro hcount
    exact ⟨List.count_pos_iff.mp (by omega), hcount⟩

/-- A key stands alone with a value exactly when the pair came and its key came once. -/
theorem mem_groupPairs_single {spelling value : String} :
    (spelling, [value]) ∈ groupPairs pairs ↔
      (pairs.map (·.1)).count spelling = 1 ∧ (spelling, value) ∈ pairs := by
  rw [← valuesOf_eq_singleton, groupPairs_eq, List.mem_map]
  constructor
  · intro hfound
    obtain ⟨key, -, he⟩ := hfound
    obtain ⟨rfl, hvalues⟩ := Prod.mk.inj he
    exact hvalues
  · intro hsingle
    have hmem : (spelling, value) ∈ pairs := (valuesOf_eq_singleton.mp hsingle).2
    refine ⟨spelling, ?_, by rw [hsingle]⟩
    exact List.mem_eraseDups.mpr (List.mem_map_of_mem hmem)

/-- The spellings of a key that count are those that came once. -/
theorem keys_sentOnce (pairs : List (String × String)) (key : String) :
    ((groupPairs pairs).sentOnce key).map (·.1) =
      (keysSentOnce pairs).filter fun other => normalizeKey other == normalizeKey key := by
  unfold Grouped.sentOnce keysSentOnce
  rw [groupPairs_eq, List.filterMap_map, List.map_filterMap, List.filter_filter,
    ← List.filterMap_eq_filter]
  refine List.filterMap_congr fun spelling _ => ?_
  have hlength := length_valuesOf pairs spelling
  simp only [Function.comp_apply, Option.guard, ← hlength]
  match valuesOf pairs spelling with
  | [] => simp
  | [value] => by_cases hkey : normalizeKey spelling = normalizeKey key <;> simp [hkey]
  | _ :: _ :: _ => simp

/-- What is put for a query string: the spellings that came once and are not skipped. -/
theorem mem_singleValues {raw : Grouped} {key value : String} :
    (key, value) ∈ singleValues raw skip ↔ key ∉ skip.map normalizeKey ∧
      ∃ spelling, (spelling, [value]) ∈ raw ∧ normalizeKey spelling = key := by
  unfold singleValues
  rw [List.mem_filterMap]
  constructor
  · intro hfound
    obtain ⟨⟨spelling, values⟩, hmem, hsome⟩ := hfound
    match values with
    | [] => cases hsome
    | [single] =>
      dsimp only at hsome
      split at hsome
      · cases hsome
      · rename_i hfree
        cases hsome
        rw [List.contains_iff_mem] at hfree
        exact ⟨hfree, spelling, hmem, rfl⟩
    | _ :: _ :: _ => cases hsome
  · intro hfound
    obtain ⟨hfree, spelling, hmem, rfl⟩ := hfound
    refine ⟨(spelling, [value]), hmem, ?_⟩
    dsimp only
    rw [← List.contains_iff_mem] at hfree
    rw [if_neg hfree]

/-- After several puts the keys are those that were there and the normal forms of those put. -/
theorem mem_keys_putAll {values : List (String × Json)} {h h' : Hints}
    (hp : h.putAll values = .ok h') (key : String) :
    key ∈ h'.keys ↔ key ∈ h.keys ∨ ∃ put ∈ values, normalizeKey put.1 = key := by
  induction values generalizing h with
  | nil =>
    cases hp
    simp
  | cons put rest ih =>
    obtain ⟨spelling, value⟩ := put
    rw [Hints.putAll_cons] at hp
    obtain ⟨next, hput, hrest⟩ := bind_eq_ok.mp hp
    obtain ⟨v, -, rfl⟩ := Hints.put_eq_ok.mp hput
    have hset : key ∈ (h.set spelling v).keys ↔ key ∈ h.keys ∨ normalizeKey spelling = key := by
      show key ∈ (Hints.write _ _ _).map (·.1) ↔ key ∈ h.entries.map (·.1) ∨ _
      rw [Hints.keys_write]
      split
      · rename_i hthere
        constructor
        · exact Or.inl
        · intro hset
          rcases hset with hmem | rfl
          · exact hmem
          · exact hthere
      · rw [List.mem_append, List.mem_singleton, eq_comm]
    rw [ih hrest, hset, or_assoc]
    simp only [List.mem_cons, exists_eq_or_imp]

/-- **A normal key is there exactly when a spelling of it came once and it is not skipped.** -/
theorem mem_keys_ofQuery (hq : Hints.ofQuery (groupPairs pairs) skip = .ok hints) (key : String) :
    key ∈ hints.keys ↔ key ∉ skip.map normalizeKey ∧
      ∃ spelling, (pairs.map (·.1)).count spelling = 1 ∧ normalizeKey spelling = key := by
  rw [mem_keys_putAll hq]
  constructor
  · intro hthere
    rcases hthere with hnone | ⟨put, hput, rfl⟩
    · exact absurd hnone List.not_mem_nil
    · obtain ⟨⟨normal, value⟩, hsent, rfl⟩ := List.mem_map.mp hput
      obtain ⟨hfree, spelling, hmem, rfl⟩ := mem_singleValues.mp hsent
      rw [normalizeKey_normalizeKey]
      exact ⟨hfree, spelling, (mem_groupPairs_single.mp hmem).1, rfl⟩
  · intro hfound
    obtain ⟨hfree, spelling, hcount, rfl⟩ := hfound
    have hsent : spelling ∈ pairs.map (·.1) := List.count_pos_iff.mp (by omega)
    obtain ⟨⟨_, value⟩, hpair, rfl⟩ := List.mem_map.mp hsent
    have hsingle := mem_groupPairs_single.mpr ⟨hcount, hpair⟩
    have hput := mem_singleValues.mpr ⟨hfree, _, hsingle, rfl⟩
    exact Or.inr ⟨_, List.mem_map_of_mem hput, normalizeKey_normalizeKey _⟩

/-- **Under a normal key that is there stands the value of the last spelling that counts.** -/
theorem lookup_ofQuery (hq : Hints.ofQuery (groupPairs pairs) skip = .ok hints) {key : String}
    (hself : normalizeKey key = key) (hkey : key ∈ hints.keys) :
    ∃ spelling value v,
      ((keysSentOnce pairs).filter fun other => normalizeKey other == key).getLast? =
        some spelling ∧
      (spelling, value) ∈ pairs ∧ HintValue.ofText value = .ok v ∧
      hints.entries.lookup key = some v := by
  obtain ⟨hfree, counted, hcount, hnormal⟩ := (mem_keys_ofQuery hq key).mp hkey
  have hspelled := keys_sentOnce pairs key
  have hunskipped : normalizeKey key ∉ skip.map normalizeKey := by
    rw [hself]
    exact hfree
  have hget := get?_ofQuery hq hunskipped
  unfold Hints.get? at hget
  rw [hself] at hspelled hget
  have hcounted : counted ∈ ((groupPairs pairs).sentOnce key).map (·.1) := by
    rw [hspelled]
    exact List.mem_filter.mpr ⟨mem_keysSentOnce.mpr hcount, beq_iff_eq.mpr hnormal⟩
  cases hlast : ((groupPairs pairs).sentOnce key).getLast? with
  | none =>
    rw [List.getLast?_eq_none_iff.mp hlast] at hcounted
    exact absurd hcounted List.not_mem_nil
  | some sent =>
    obtain ⟨spelling, value⟩ := sent
    obtain ⟨hmem, hspelling⟩ := Grouped.mem_sentOnce.mp (List.mem_of_getLast? hlast)
    rw [hself] at hspelling
    have hput := mem_singleValues.mpr ⟨hfree, spelling, hmem, hspelling⟩
    have hv := HintValue.ofJson_of_readable (exists_ofQuery.mp ⟨hints, hq⟩ (key, value) hput)
    rw [HintValue.ofJson_str] at hv
    refine ⟨spelling, value, HintValue.read (.str value), ?_, (mem_groupPairs_single.mp hmem).2,
      hv, ?_⟩
    · rw [← hspelled, List.getLast?_map, hlast, Option.map_some]
    · rw [hget, hlast, Option.map_some]

/-- **Hints hold what the pairs of a query string mean.** -/
theorem meantBy_ofQuery (hq : Hints.ofQuery (groupPairs pairs) skip = .ok hints) :
    MeantBy pairs skip hints := by
  have hregular : hints.Regular := by
    rw [Hints.putEach_of_putAll hq]
    exact Hints.regular_putEach Hints.regular_empty _
  exact ⟨hregular.distinct, mem_keys_ofQuery hq, fun key hkey =>
    lookup_ofQuery hq (hregular.normal key hkey) hkey⟩

/-! ## 3. Order -/

/-- No two keys of some pairs have one normal form. -/
def SpeltApart (pairs : List (String × String)) : Prop :=
  ∀ key ∈ pairs.map (·.1), ∀ other ∈ pairs.map (·.1),
    normalizeKey key = normalizeKey other → key = other

/-- Whether pairs can be read does not depend on their order. -/
theorem exists_ofQuery_of_perm (hp : pairs.Perm others)
    (hq : Hints.ofQuery (groupPairs pairs) skip = .ok hints) :
    ∃ found, Hints.ofQuery (groupPairs others) skip = .ok found := by
  have hread := exists_ofQuery.mp ⟨hints, hq⟩
  refine exists_ofQuery.mpr ?_
  intro sent hsent
  obtain ⟨key, value⟩ := sent
  obtain ⟨hfree, spelling, hmem, rfl⟩ := mem_singleValues.mp hsent
  obtain ⟨hcount, hpair⟩ := mem_groupPairs_single.mp hmem
  rw [← (hp.map _).count_eq] at hcount
  have hsingle := mem_groupPairs_single.mpr ⟨hcount, hp.mem_iff.mpr hpair⟩
  exact hread _ (mem_singleValues.mpr ⟨hfree, spelling, hsingle, rfl⟩)

/-- A key that is not there has no value. -/
theorem lookup_eq_none_of_not_mem {key : String} (h : key ∉ hints.keys) :
    hints.entries.lookup key = none := by
  rw [List.lookup_eq_none_iff]
  intro entry hentry
  refine bne_iff_ne.mpr ?_
  rintro rfl
  exact h (List.mem_map_of_mem hentry)

/-- **Where no two keys have one normal form, the order of the pairs does not count.** -/
theorem same_of_perm (hp : pairs.Perm others) (hapart : SpeltApart pairs) {found : Hints}
    (hfound : MeantBy others skip found) (hhints : MeantBy pairs skip hints) :
    found.Same hints := by
  have hkeys : ∀ key, key ∈ found.keys ↔ key ∈ hints.keys := by
    intro key
    rw [hfound.mem_keys, hhints.mem_keys]
    simp only [(hp.map _).count_eq]
  intro key
  by_cases hkey : key ∈ hints.keys
  · obtain ⟨spelling, value, v, hlast, hpair, hvalue, hlookup⟩ := hhints.value key hkey
    obtain ⟨other, given, w, hother, hgiven, hw, hfoundat⟩ :=
      hfound.value key ((hkeys key).mpr hkey)
    obtain ⟨hsent, hnormal⟩ := List.mem_filter.mp (List.mem_of_getLast? hlast)
    obtain ⟨-, hnormalOther⟩ := List.mem_filter.mp (List.mem_of_getLast? hother)
    rw [beq_iff_eq] at hnormal hnormalOther
    have hback : (other, given) ∈ pairs := hp.mem_iff.mpr hgiven
    have hone : other = spelling := hapart _ (List.mem_map_of_mem hback) _
      (List.mem_map_of_mem hpair) (hnormalOther.trans hnormal.symm)
    subst hone
    -- a key that came once has one value
    have hsingle := valuesOf_eq_singleton.mpr ⟨mem_keysSentOnce.mp hsent, hpair⟩
    have hsame : given = value := by
      have hmem := mem_valuesOf.mpr hback
      rw [hsingle] at hmem
      exact List.mem_singleton.mp hmem
    subst hsame
    rw [hvalue] at hw
    rw [hlookup, hfoundat, Except.ok.inj hw]
  · rw [lookup_eq_none_of_not_mem hkey, lookup_eq_none_of_not_mem ((hkeys key).not.mpr hkey)]

/-- **What the pairs of a query string mean**: grouping them loses nothing, the hints are those that
    the pairs mean, and where no two keys have one normal form any order of the pairs gives the same
    hints. -/
theorem hints_of_pairs (hq : Hints.ofQuery (groupPairs pairs) skip = .ok hints) :
    GroupsOf pairs (groupPairs pairs) ∧ MeantBy pairs skip hints ∧
    (SpeltApart pairs → ∀ others, pairs.Perm others →
      ∃ found, Hints.ofQuery (groupPairs others) skip = .ok found ∧ found.Same hints) := by
  refine ⟨groupsOf_groupPairs pairs, meantBy_ofQuery hq, fun hapart others hp => ?_⟩
  obtain ⟨found, hfound⟩ := exists_ofQuery_of_perm hp hq
  exact ⟨found, hfound, same_of_perm hp hapart (meantBy_ofQuery hfound) (meantBy_ofQuery hq)⟩

/-- A spelling that came twice does not count, and a key that is skipped is left out however it is
    spelt. -/
theorem hints_of_pairs_spellings :
    ∃ pairs skip hints, Hints.ofQuery (groupPairs pairs) skip = .ok hints ∧
      pairs = [("maxStops", "1"), ("max_stops", "2"), ("maxStops", "3"), ("Type", "x")] ∧
      hints.keys = ["max_stops"] ∧ hints.text? "maxStops" = .ok (some "2") ∧
      (GroupsOf pairs (groupPairs pairs) ∧ MeantBy pairs skip hints ∧
        (SpeltApart pairs → ∀ others, pairs.Perm others →
          ∃ found, Hints.ofQuery (groupPairs others) skip = .ok found ∧ found.Same hints)) := by
  have hread : ((Hints.ofQuery (groupPairs [("maxStops", "1"), ("max_stops", "2"),
      ("maxStops", "3"), ("Type", "x")]) ["type"]).toOption.any fun hints =>
      hints.keys == ["max_stops"] &&
        (hints.text? "maxStops").toOption.any (· == some "2")) = true := by
    decide +kernel
  obtain ⟨hints, hq, hheld⟩ := exists_ok_of_any hread
  rw [Bool.and_eq_true, beq_iff_eq] at hheld
  obtain ⟨_, htext, hsame⟩ := exists_ok_of_any hheld.2
  rw [beq_iff_eq.mp hsame] at htext
  exact ⟨_, ["type"], hints, hq, rfl, hheld.1, htext, hints_of_pairs hq⟩

end Meaning

end Waypost
