import Waypost.Hints.Query
import Waypost.Proofs.Fault.Steps
import Waypost.Proofs.Hints.Key

/-!
# Hints as the list of their entries

Values that come in one after another, each under a key of its own, stand in the order in which they
came; but hints are looked up by key, so the order does not count.

* `Hints.Same` -- hints with the same values under the same keys;
* `putAll_of_distinct` -- the hints of some values under distinct keys are the list of those values;
* `lookup_eq_of_perm` -- the order of entries under distinct keys does not count;
* `ofQuery_of_distinct` -- the hints of a query string that sends each key once.
-/

namespace Waypost

/-- Hints with the same values under the same keys, in whatever order. -/
def Hints.Same (h other : Hints) : Prop := ∀ key, h.entries.lookup key = other.entries.lookup key

/-- A JSON value that can be read as the value of a hint. -/
def HintValue.Readable (value : Json) : Prop := ∃ v, HintValue.ofJson value = .ok v

instance (value : Json) : Decidable (HintValue.Readable value) :=
  decidable_of_iff _ isSome_toOption

/-- The value that a readable JSON value is read as. -/
def HintValue.read (value : Json) : HintValue :=
  match HintValue.ofJson value with
  | .ok v => v
  | .error _ => .flag false

theorem HintValue.ofJson_of_readable {value : Json} (h : HintValue.Readable value) :
    HintValue.ofJson value = .ok (HintValue.read value) := by
  obtain ⟨v, hv⟩ := h
  unfold HintValue.read
  rw [hv]

/-- The entry that a JSON value under some key becomes. -/
def entryOf (pair : String × Json) : String × HintValue :=
  (normalizeKey pair.1, HintValue.read pair.2)

/-! ## 1. Several puts -/

theorem write_of_not_mem {key : String} (value : HintValue) {entries : List (String × HintValue)}
    (h : key ∉ entries.map (·.1)) : Hints.write key value entries = entries ++ [(key, value)] := by
  induction entries with
  | nil => rfl
  | cons e rest ih =>
    obtain ⟨k, v⟩ := e
    rw [List.map_cons, List.mem_cons, not_or] at h
    unfold Hints.write
    rw [beq_eq_false_iff_ne.mpr (Ne.symm h.1), ih h.2]
    rfl

theorem putEach_of_distinct {pairs : List (String × Json)} {h : Hints}
    (hread : ∀ pair ∈ pairs, HintValue.Readable pair.2)
    (hn : ((h.entries ++ pairs.map entryOf).map (·.1)).Nodup) :
    h.putEach pairs = (⟨h.entries ++ pairs.map entryOf⟩, none) := by
  induction pairs generalizing h with
  | nil =>
    rw [List.map_nil, List.append_nil]
    rfl
  | cons pair rest ih =>
    obtain ⟨key, value⟩ := pair
    have hv := HintValue.ofJson_of_readable (hread _ List.mem_cons_self)
    have hnew : normalizeKey key ∉ h.entries.map (·.1) := by
      rw [List.map_append, List.map_cons, List.map_cons] at hn
      intro hmem
      exact (List.nodup_append.mp hn).2.2 _ hmem _ List.mem_cons_self rfl
    have hput : h.put key value = .ok ⟨h.entries ++ [entryOf (key, value)]⟩ := by
      unfold Hints.put Hints.set
      rw [hv, ok_bind, write_of_not_mem _ hnew]
      rfl
    have happend : h.entries ++ List.map entryOf ((key, value) :: rest) =
        (h.entries ++ [entryOf (key, value)]) ++ rest.map entryOf := by
      rw [List.map_cons, List.append_assoc, List.singleton_append]
    rw [happend] at hn ⊢
    unfold Hints.putEach
    rw [hput]
    exact ih (fun pair hp => hread pair (List.mem_cons_of_mem _ hp)) hn

/-- **The hints of readable values under distinct keys are the list of those values.** -/
theorem putAll_of_distinct {pairs : List (String × Json)}
    (hread : ∀ pair ∈ pairs, HintValue.Readable pair.2)
    (hn : ((pairs.map entryOf).map (·.1)).Nodup) :
    Hints.empty.putAll pairs = .ok ⟨pairs.map entryOf⟩ := by
  have hput : Hints.empty.putEach pairs = (⟨pairs.map entryOf⟩, none) :=
    putEach_of_distinct hread hn
  unfold Hints.putAll
  rw [hput]

/-! ## 2. Order -/

/-- **The order of entries under distinct keys does not count.** -/
theorem lookup_eq_of_perm {entries others : List (String × HintValue)} (hp : entries.Perm others)
    (hn : (entries.map (·.1)).Nodup) (key : String) : entries.lookup key = others.lookup key := by
  induction hp with
  | nil => rfl
  | cons e _ ih =>
    rw [List.lookup_cons, List.lookup_cons, ih (List.nodup_cons.mp hn).2]
  | swap e f rest =>
    obtain ⟨k, v⟩ := e
    obtain ⟨l, w⟩ := f
    have hne : l ≠ k := fun he => (List.nodup_cons.mp hn).1 (by simp [he])
    simp only [List.lookup_cons]
    by_cases hk : key = k
    · subst hk
      rw [beq_eq_false_iff_ne.mpr (Ne.symm hne)]
    · rw [beq_eq_false_iff_ne.mpr hk]
  | trans hp _ ih ih' =>
    exact (ih hn).trans (ih' ((hp.map _).nodup_iff.mp hn))

/-- Entries under other keys do not count. -/
theorem lookup_append_of_ne {entries others : List (String × HintValue)} {key : String}
    (h : ∀ e ∈ entries, e.1 ≠ key) : (entries ++ others).lookup key = others.lookup key := by
  have hnone : entries.lookup key = none :=
    List.lookup_eq_none_iff.mpr fun e he => bne_iff_ne.mpr (Ne.symm (h e he))
  rw [List.lookup_append, hnone, Option.none_or]

theorem lookup_append_of_ne_right {entries others : List (String × HintValue)} {key : String}
    (h : ∀ e ∈ others, e.1 ≠ key) : (entries ++ others).lookup key = entries.lookup key := by
  have hnone : others.lookup key = none :=
    List.lookup_eq_none_iff.mpr fun e he => bne_iff_ne.mpr (Ne.symm (h e he))
  rw [List.lookup_append, hnone, Option.or_none]

/-! ## 3. Query strings -/

theorem singleValues_append (grouped others : Grouped) (skip : List String) :
    singleValues (grouped ++ others) skip = singleValues grouped skip ++ singleValues others skip :=
  List.filterMap_append

theorem singleValues_perm {grouped others : Grouped} (h : grouped.Perm others)
    (skip : List String) : (singleValues grouped skip).Perm (singleValues others skip) :=
  h.filterMap _

/-- Keys that are skipped leave nothing behind, however often they were sent. -/
theorem singleValues_skipped {grouped : Grouped} {skip : List String}
    (h : ∀ e ∈ grouped, normalizeKey e.1 ∈ skip.map normalizeKey) :
    singleValues grouped skip = [] := by
  unfold singleValues
  rw [List.filterMap_eq_nil_iff]
  rintro ⟨key, values⟩ he
  have hc := List.contains_iff_mem.mpr (h _ he)
  match values with
  | [] => rfl
  | [value] =>
    dsimp only
    rw [if_pos hc]
  | _ :: _ :: _ => rfl

/-- Keys that were sent once and are not skipped stay, in their normal form. -/
theorem singleValues_single {pairs : List (String × String)} {skip : List String}
    (h : ∀ pair ∈ pairs, normalizeKey pair.1 ∉ skip.map normalizeKey) :
    singleValues (pairs.map fun pair => (pair.1, [pair.2])) skip =
      pairs.map fun pair => (normalizeKey pair.1, pair.2) := by
  induction pairs with
  | nil => rfl
  | cons pair rest ih =>
    have hc : (skip.map normalizeKey).contains (normalizeKey pair.1) = false := by
      rw [Bool.eq_false_iff, ne_eq, List.contains_iff_mem]
      exact h pair List.mem_cons_self
    have hrest := ih fun other hother => h other (List.mem_cons_of_mem pair hother)
    unfold singleValues at hrest ⊢
    rw [List.map_cons, List.filterMap_cons]
    dsimp only
    rw [hc, hrest]
    rfl

/-- **The hints of a query string whose keys were sent once each**, beside the keys that are
    skipped: one entry for each pair, in some order. -/
theorem ofQuery_of_distinct {raw skipped : Grouped} {pairs : List (String × String)}
    {skip : List String}
    (hraw : raw.Perm (skipped ++ pairs.map fun pair => (pair.1, [pair.2])))
    (hskipped : ∀ e ∈ skipped, normalizeKey e.1 ∈ skip.map normalizeKey)
    (hfree : ∀ pair ∈ pairs, normalizeKey pair.1 ∉ skip.map normalizeKey)
    (hread : ∀ pair ∈ pairs, HintValue.Readable (.str pair.2))
    (hn : (pairs.map fun pair => normalizeKey pair.1).Nodup) :
    ∃ h, Hints.ofQuery raw skip = .ok h ∧
      h.entries.Perm (pairs.map fun pair => entryOf (pair.1, .str pair.2)) := by
  have hsingle : (singleValues raw skip).Perm
      (pairs.map fun pair => (normalizeKey pair.1, pair.2)) := by
    refine (singleValues_perm hraw skip).trans (List.Perm.of_eq ?_)
    rw [singleValues_append, singleValues_skipped hskipped, singleValues_single hfree,
      List.nil_append]
  have hentries : ((hintPairs raw skip).map entryOf).Perm
      (pairs.map fun pair => entryOf (pair.1, .str pair.2)) := by
    unfold hintPairs
    refine ((hsingle.map _).map _).trans (List.Perm.of_eq ?_)
    rw [List.map_map, List.map_map]
    refine List.map_congr_left fun pair _ => ?_
    show (normalizeKey (normalizeKey pair.1), _) = _
    rw [normalizeKey_normalizeKey]
    rfl
  refine ⟨⟨(hintPairs raw skip).map entryOf⟩, putAll_of_distinct ?_ ?_, hentries⟩
  · intro pair hp
    obtain ⟨single, hs, rfl⟩ := List.mem_map.mp hp
    obtain ⟨source, hsource, rfl⟩ := List.mem_map.mp (hsingle.mem_iff.mp hs)
    exact hread source hsource
  · rw [(hentries.map _).nodup_iff, List.map_map]
    exact hn

end Waypost
