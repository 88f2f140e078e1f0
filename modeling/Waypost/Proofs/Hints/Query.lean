import Mathlib.Data.List.Basic
import Waypost.Proofs.Hints.Entries
import Waypost.Proofs.Hints.Map

/-!
# What a query string says under a key

A query string may spell one key in several ways. Each spelling that was sent exactly once is put
under the one key, so the last of them counts.

* `Grouped.sentOnce` -- the spellings of a key that were sent once, with their values;
* `get?_putAll` -- of several puts under one key the last one counts;
* `flag?_ofQuery` -- **the truth value under a key is the one that the last spelling names**;
* `exists_ofQuery`, `ofQuery_eq_error` -- reading a query string fails exactly where a text cannot
  be read, and with the fault of such a text;
* `nodup_keys_groupPairs` -- a grouped query string has each key once.
-/

namespace Waypost

/-- The spellings of a key that were sent exactly once, with their values, in order. -/
def Grouped.sentOnce (raw : Grouped) (key : String) : List (String × String) :=
  raw.filterMap fun (spelling, values) =>
    match values with
    | [value] => if normalizeKey spelling = normalizeKey key then some (spelling, value) else none
    | _ => none

theorem Grouped.mem_sentOnce {raw : Grouped} {key spelling value : String} :
    (spelling, value) ∈ raw.sentOnce key ↔
      (spelling, [value]) ∈ raw ∧ normalizeKey spelling = normalizeKey key := by
  unfold sentOnce
  rw [List.mem_filterMap]
  constructor
  · rintro ⟨⟨other, values⟩, hmem, hsome⟩
    match values with
    | [] => cases hsome
    | [single] =>
      dsimp only at hsome
      split at hsome
      · rename_i hkey
        cases hsome
        exact ⟨hmem, hkey⟩
      · cases hsome
    | _ :: _ :: _ => cases hsome
  · rintro ⟨hmem, hkey⟩
    refine ⟨(spelling, [value]), hmem, ?_⟩
    dsimp only
    rw [if_pos hkey]

/-- The values of the pairs whose key is a spelling of this one. -/
def valuesUnder (key : String) (pairs : List (String × Json)) : List Json :=
  pairs.filterMap fun pair =>
    if normalizeKey pair.1 = normalizeKey key then some pair.2 else none

theorem valuesUnder_cons_of_eq {key other : String} (h : normalizeKey other = normalizeKey key)
    (value : Json) (rest : List (String × Json)) :
    valuesUnder key ((other, value) :: rest) = value :: valuesUnder key rest := by
  unfold valuesUnder
  rw [List.filterMap_cons]
  dsimp only
  rw [if_pos h]

theorem valuesUnder_cons_of_ne {key other : String} (h : normalizeKey other ≠ normalizeKey key)
    (value : Json) (rest : List (String × Json)) :
    valuesUnder key ((other, value) :: rest) = valuesUnder key rest := by
  unfold valuesUnder
  rw [List.filterMap_cons]
  dsimp only
  rw [if_neg h]

/-! ## 1. Several puts -/

theorem Hints.putAll_cons (h : Hints) (key : String) (value : Json) (rest : List (String × Json)) :
    h.putAll ((key, value) :: rest) = h.put key value >>= fun h' => h'.putAll rest := by
  unfold putAll
  rw [putEach]
  cases h.put key value <;> rfl

/-- **Of several puts under one key the last one counts**; without any the hints stay as they
    are. -/
theorem Hints.get?_putAll {pairs : List (String × Json)} {h h' : Hints}
    (hp : h.putAll pairs = .ok h') (key : String) :
    h'.get? key = ((valuesUnder key pairs).getLast?.map HintValue.read).or (h.get? key) := by
  induction pairs generalizing h with
  | nil =>
    cases hp
    rfl
  | cons pair rest ih =>
    obtain ⟨other, value⟩ := pair
    rw [putAll_cons] at hp
    obtain ⟨next, hput, hrest⟩ := bind_eq_ok.mp hp
    obtain ⟨v, hv, rfl⟩ := put_eq_ok.mp hput
    have hread : HintValue.read value = v := by
      unfold HintValue.read
      rw [hv]
    rw [ih hrest]
    by_cases hkey : normalizeKey other = normalizeKey key
    · rw [valuesUnder_cons_of_eq hkey, get?_congr _ hkey.symm, get?_set_self, List.getLast?_cons,
        ← hread]
      cases (valuesUnder key rest).getLast? <;> rfl
    · rw [valuesUnder_cons_of_ne hkey, get?_set_of_ne h (Ne.symm hkey)]

/-- Several puts succeed exactly when every value can be read. -/
theorem Hints.exists_putAll {pairs : List (String × Json)} {h : Hints} :
    (∃ h', h.putAll pairs = .ok h') ↔ ∀ pair ∈ pairs, HintValue.Readable pair.2 := by
  induction pairs generalizing h with
  | nil => exact ⟨fun _ _ hmem => absurd hmem List.not_mem_nil, fun _ => ⟨h, rfl⟩⟩
  | cons pair rest ih =>
    obtain ⟨key, value⟩ := pair
    rw [putAll_cons, List.forall_mem_cons]
    constructor
    · rintro ⟨h', hp⟩
      obtain ⟨next, hput, hrest⟩ := bind_eq_ok.mp hp
      obtain ⟨v, hv, -⟩ := put_eq_ok.mp hput
      exact ⟨⟨v, hv⟩, ih.mp ⟨h', hrest⟩⟩
    · rintro ⟨⟨v, hv⟩, hrest⟩
      have hput : h.put key value = .ok (h.set key v) := put_eq_ok.mpr ⟨v, hv, rfl⟩
      rw [hput, ok_bind]
      exact ih.mpr hrest

section Query

variable {raw : Grouped} {skip : List String} {hints : Hints}

/-- What is put under a key that is not skipped is what its spellings say. -/
theorem valuesUnder_hintPairs {key : String} (hkey : normalizeKey key ∉ skip.map normalizeKey) :
    valuesUnder key (hintPairs raw skip) = (raw.sentOnce key).map fun sent => .str sent.2 := by
  unfold valuesUnder hintPairs singleValues Grouped.sentOnce
  rw [List.filterMap_map, List.filterMap_filterMap, List.map_filterMap]
  refine List.filterMap_congr ?_
  rintro ⟨spelling, values⟩ -
  match values with
  | [] => rfl
  | _ :: _ :: _ => rfl
  | [value] =>
    dsimp only
    by_cases hs : normalizeKey spelling = normalizeKey key
    · have hc : ¬ (skip.map normalizeKey).contains (normalizeKey spelling) = true := by
        rw [List.contains_iff_mem, hs]
        exact hkey
      rw [if_neg hc, if_pos hs, Option.bind_some, Option.map_some, Function.comp_apply,
        normalizeKey_normalizeKey, if_pos hs]
    · rw [if_neg hs, Option.map_none]
      split
      · rw [Option.bind_none]
      · rw [Option.bind_some, Function.comp_apply, normalizeKey_normalizeKey, if_neg hs]

/-- **The value under a key of a query string** is that of the last spelling. -/
theorem get?_ofQuery (hq : Hints.ofQuery raw skip = .ok hints) {key : String}
    (hkey : normalizeKey key ∉ skip.map normalizeKey) :
    hints.get? key = (raw.sentOnce key).getLast?.map fun sent => HintValue.read (.str sent.2) := by
  have hnone : Hints.empty.get? key = none := rfl
  rw [Hints.get?_putAll hq, valuesUnder_hintPairs hkey, List.getLast?_map, Option.map_map, hnone,
    Option.or_none, Function.comp_def]

/-- **Reading a query string succeeds exactly when every text of a key that was sent once, and is
    not skipped, can be read.** -/
theorem exists_ofQuery :
    (∃ hints, Hints.ofQuery raw skip = .ok hints) ↔
      ∀ sent ∈ singleValues raw skip, HintValue.Readable (.str sent.2) := by
  unfold Hints.ofQuery hintPairs
  rw [Hints.exists_putAll, List.forall_mem_map]

end Query

/-! ## 3. Truth values -/

/-- The truth value that a value of a hint stands for. -/
def HintValue.truth? : HintValue → Option Bool
  | .flag b => some b
  | .int _ => none
  | .float _ => none
  | .text s => flagOfText? s

theorem Hints.flag?_eq (h : Hints) (key : String) :
    h.flag? key = (h.get? key).bind HintValue.truth? := by
  unfold flag?
  cases h.get? key with
  | none => rfl
  | some value => cases value <;> rw [Option.bind_some, HintValue.truth?]

/-- Reading a text does not change the truth value that it names. -/
theorem HintValue.truth?_of_ofText {s : String} {value : HintValue}
    (h : HintValue.ofText s = .ok value) : value.truth? = flagOfText? s := by
  unfold HintValue.ofText at h
  cases hb : flagOfText? s with
  | some b =>
    rw [hb] at h
    cases h
    rfl
  | none =>
    rw [hb] at h
    dsimp only at h
    split at h
    · split at h
      · cases h
        rfl
      · cases h
    · split at h
      · cases h
        rfl
      · cases h
        exact hb

/-- **The truth value under a key of a query string** is the one that the last spelling names. -/
theorem flag?_ofQuery {raw : Grouped} {skip : List String} {hints : Hints}
    (hq : Hints.ofQuery raw skip = .ok hints) {key : String}
    (hkey : normalizeKey key ∉ skip.map normalizeKey) :
    hints.flag? key = (raw.sentOnce key).getLast?.bind fun sent =>
      HintValue.flagOfText? sent.2 := by
  rw [Hints.flag?_eq, get?_ofQuery hq hkey]
  cases hlast : (raw.sentOnce key).getLast? with
  | none => rfl
  | some sent =>
    obtain ⟨spelling, value⟩ := sent
    obtain ⟨hmem, hs⟩ := Grouped.mem_sentOnce.mp (List.mem_of_getLast? hlast)
    have hc : ¬ (skip.map normalizeKey).contains (normalizeKey spelling) = true := by
      rw [List.contains_iff_mem, hs]
      exact hkey
    have hsingle : (normalizeKey spelling, value) ∈ singleValues raw skip := by
      refine List.mem_filterMap.mpr ⟨(spelling, [value]), hmem, ?_⟩
      dsimp only
      rw [if_neg hc]
    have hv := HintValue.ofJson_of_readable (exists_ofQuery.mp ⟨hints, hq⟩ _ hsingle)
    rw [HintValue.ofJson_str] at hv
    rw [Option.map_some, Option.bind_some, Option.bind_some]
    exact HintValue.truth?_of_ofText hv

/-! ## 4. Keys of a grouped query string -/

theorem map_fst_add (key value : String) (grouped : Grouped) :
    (grouped.add key value).map (·.1) =
      if key ∈ grouped.map (·.1) then grouped.map (·.1) else grouped.map (·.1) ++ [key] := by
  induction grouped with
  | nil => rfl
  | cons entry rest ih =>
    obtain ⟨k, values⟩ := entry
    unfold Grouped.add
    by_cases hk : k = key
    · subst hk
      simp
    · rw [if_neg (fun he => hk (beq_iff_eq.mp he)), List.map_cons, ih, List.map_cons]
      simp only [List.mem_cons, Ne.symm hk, false_or]
      split <;> rfl

/-- Keys stay distinct when one is added that is not there. -/
theorem nodup_keys_with {keys : List String} (h : keys.Nodup) (key : String) :
    (if key ∈ keys then keys else keys ++ [key]).Nodup := by
  split
  · exact h
  · rename_i hnew
    have hsingle : [key].Nodup := List.nodup_cons.mpr ⟨List.not_mem_nil, List.nodup_nil⟩
    refine List.nodup_append.mpr ⟨h, hsingle, fun other hmem last hlast he => ?_⟩
    rw [he, List.mem_singleton.mp hlast] at hmem
    exact hnew hmem

theorem nodup_keys_add {key value : String} {grouped : Grouped}
    (h : (grouped.map (·.1)).Nodup) : ((grouped.add key value).map (·.1)).Nodup := by
  rw [map_fst_add]
  exact nodup_keys_with h key

/-- **A grouped query string has each key once.** -/
theorem nodup_keys_groupPairs (pairs : List (String × String)) :
    ((groupPairs pairs).map (·.1)).Nodup := by
  unfold groupPairs
  have hstep : ∀ grouped : Grouped, (grouped.map (·.1)).Nodup →
      ((pairs.foldl (fun grouped pair => grouped.add pair.1 pair.2) grouped).map (·.1)).Nodup := by
    induction pairs with
    | nil => exact fun _ h => h
    | cons pair rest ih => exact fun grouped h => ih _ (nodup_keys_add h)
  exact hstep [] List.nodup_nil

/-- Among distinct keys a key is looked up with its own values. -/
theorem lookup_of_mem {grouped : Grouped} (hn : (grouped.map (·.1)).Nodup) {key : String}
    {values : List String} (h : (key, values) ∈ grouped) : grouped.lookup key = some values := by
  induction grouped with
  | nil => cases h
  | cons entry rest ih =>
    obtain ⟨k, vs⟩ := entry
    rw [List.map_cons, List.nodup_cons] at hn
    rcases List.mem_cons.mp h with he | hrest
    · cases he
      exact List.lookup_cons_self
    · have hk : key ≠ k := by
        intro he
        exact hn.1 (List.mem_map.mpr ⟨(key, values), hrest, he⟩)
      rw [List.lookup_cons, beq_eq_false_iff_ne.mpr hk]
      exact ih hn.2 hrest

end Waypost
