import Waypost.Hints.Basic
import Waypost.Proofs.Fault.Steps
import Waypost.Request.Basic

/-!
# Hints as a finite map

Each change says what it does to the keys, whatever spelling a key has.

* `has_set`, `has_remove` -- after one change a key is there or not, by its normal form;
* `text?_eq_error` -- when a value that is there cannot be asked for as a text;
* `put_eq_ok`, `putDefault_eq_ok` -- what a put that succeeds has done;
* `has_foldl_remove`, `has_removeLegacy`, `get?_removeLegacy` -- several keys removed one after
  another.
-/

namespace Waypost

namespace Hints

/-! ## 1. One change -/

theorem lookup_filter_of_ne {key other : String} (h : other ≠ key)
    (entries : List (String × HintValue)) :
    (entries.filter fun entry => entry.1 != key).lookup other = entries.lookup other := by
  induction entries with
  | nil => rfl
  | cons e rest ih =>
    obtain ⟨k, v⟩ := e
    by_cases hk : k = key
    · subst hk
      rw [List.filter_cons_of_neg (by simp), ih, List.lookup_cons, beq_eq_false_iff_ne.mpr h]
    · rw [List.filter_cons_of_pos (by simpa using hk), List.lookup_cons, List.lookup_cons, ih]

theorem get?_remove_of_ne (h : Hints) {key other : String}
    (hne : normalizeKey other ≠ normalizeKey key) : (h.remove key).get? other = h.get? other :=
  lookup_filter_of_ne hne _

/-- Two spellings of one key name the same entry. -/
theorem get?_congr (h : Hints) {key other : String} (he : normalizeKey key = normalizeKey other) :
    h.get? key = h.get? other := by
  unfold get?
  rw [he]

/-- **Asking for the text of a value fails exactly when it is a whole number with too many
    digits.** -/
theorem text?_eq_error {h : Hints} {key : String} {fault : Fault} :
    h.text? key = .error fault ↔
      (∃ n, h.get? key = some (.int n) ∧ Decimal.fewDigits n = false) ∧
        fault = .unexpected .longInteger := by
  unfold text?
  cases h.get? key with
  | none => exact iff_of_false nofun (by rintro ⟨⟨_, ⟨⟩, _⟩, _⟩)
  | some value =>
    have hmap : (some value).mapM HintValue.shown = some <$> value.shown := rfl
    simp only [hmap, map_eq_error, HintValue.shown_eq_error, Option.some.injEq]

theorem has_set (h : Hints) (key other : String) (value : HintValue) :
    (h.set key value).has other = (normalizeKey other == normalizeKey key || h.has other) := by
  unfold has
  by_cases he : normalizeKey other = normalizeKey key
  · rw [get?_congr _ he, get?_set_self, beq_iff_eq.mpr he]
    rfl
  · rw [get?_set_of_ne h he, beq_eq_false_iff_ne.mpr he, Bool.false_or]

theorem has_remove (h : Hints) (key other : String) :
    (h.remove key).has other = (normalizeKey other != normalizeKey key && h.has other) := by
  unfold has
  by_cases he : normalizeKey other = normalizeKey key
  · rw [get?_congr _ he, get?_remove_self, bne_eq_false_iff_eq.mpr he]
    rfl
  · rw [get?_remove_of_ne h he, bne_iff_ne.mpr he, Bool.true_and]

theorem has_set_self (h : Hints) (key : String) (value : HintValue) :
    (h.set key value).has key = true := by
  rw [has_set, beq_self_eq_true, Bool.true_or]

/-- What is there stays there when a value is put. -/
theorem has_set_of_has {h : Hints} {other : String} (hh : h.has other = true) (key : String)
    (value : HintValue) : (h.set key value).has other = true := by
  rw [has_set, hh, Bool.or_true]

theorem put_eq_ok {h h' : Hints} {key : String} {value : Json} :
    h.put key value = .ok h' ↔ ∃ v, HintValue.ofJson value = .ok v ∧ h' = h.set key v := by
  unfold put
  rw [bind_eq_ok]
  constructor
  · rintro ⟨v, hv, hset⟩
    cases hset
    exact ⟨v, hv, rfl⟩
  · rintro ⟨v, hv, rfl⟩
    exact ⟨v, hv, rfl⟩

theorem putDefault_eq_ok {h h' : Hints} {key : String} {value : Json}
    (hp : h.putDefault key value = .ok h') :
    h.has key = true ∧ h' = h ∨ h.has key = false ∧ ∃ v, h' = h.set key v := by
  unfold putDefault at hp
  split at hp
  · rename_i hk
    cases hp
    exact Or.inl ⟨hk, rfl⟩
  · rename_i hk
    obtain ⟨v, _, rfl⟩ := put_eq_ok.mp hp
    exact Or.inr ⟨by simpa using hk, v, rfl⟩

/-- After a default is put, the key is there, and so is every key that was there. -/
theorem has_putDefault {h h' : Hints} {key : String} {value : Json}
    (hp : h.putDefault key value = .ok h') :
    h'.has key = true ∧ ∀ other, h.has other = true → h'.has other = true := by
  rcases putDefault_eq_ok hp with ⟨hk, rfl⟩ | ⟨_, v, rfl⟩
  · exact ⟨hk, fun _ ho => ho⟩
  · exact ⟨has_set_self h key v, fun _ ho => has_set_of_has ho key v⟩

/-! ## 2. Several keys removed -/

theorem has_foldl_remove (keys : List String) (h : Hints) (key : String) :
    (keys.foldl remove h).has key =
      (!(keys.map normalizeKey).contains (normalizeKey key) && h.has key) := by
  induction keys generalizing h with
  | nil => rfl
  | cons first rest ih =>
    rw [List.foldl_cons, ih, has_remove, List.map_cons, List.contains_cons]
    by_cases he : normalizeKey key = normalizeKey first
    · rw [beq_iff_eq.mpr he, bne_eq_false_iff_eq.mpr he, Bool.false_and, Bool.and_false]
      rfl
    · rw [beq_eq_false_iff_ne.mpr he, bne_iff_ne.mpr he, Bool.true_and, Bool.false_or]

theorem map_normalizeKey_legacy : Key.legacy.map normalizeKey = Key.legacy := by decide

/-- The keys that no engine may see are gone in every spelling, and all others stay. -/
theorem has_removeLegacy (h : Hints) (key : String) :
    h.removeLegacy.has key = (!Key.legacy.contains (normalizeKey key) && h.has key) := by
  unfold removeLegacy
  rw [has_foldl_remove, map_normalizeKey_legacy]

theorem get?_foldl_remove {keys : List String} {key : String}
    (hkey : normalizeKey key ∉ keys.map normalizeKey) (h : Hints) :
    (keys.foldl remove h).get? key = h.get? key := by
  induction keys generalizing h with
  | nil => rfl
  | cons first rest ih =>
    rw [List.map_cons, List.mem_cons, not_or] at hkey
    rw [List.foldl_cons, ih hkey.2, get?_remove_of_ne h hkey.1]

/-- A key that an engine may see keeps its value. -/
theorem get?_removeLegacy {key : String} (hkey : normalizeKey key ∉ Key.legacy) (h : Hints) :
    h.removeLegacy.get? key = h.get? key := by
  rw [← map_normalizeKey_legacy] at hkey
  exact get?_foldl_remove hkey h

end Hints

end Waypost
