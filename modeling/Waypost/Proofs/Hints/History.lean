import Waypost.Proofs.Hints.Query

/-!
# What hints hold after a run

Hints come about by operations one after another, some of which fail. Whatever the run, they are a
finite map over normal keys: under a key stands the value that was stored last, unless it was
removed since.

* `Hints.Operation`, `Hints.step`, `Hints.ofRun` -- the operations, one of them, and a run;
* `Hints.Change`, `Hints.changesOf`, `Hints.valueAfter` -- what a run did, told without its state;
* `Hints.Regular` -- distinct normal keys, and values that are read as themselves;
* `regular_step` -- **every operation keeps that**, and `get?_step` -- what one of them stores;
* `Hints.Alike` -- two keys that cannot be told apart;
* `hints_are_a_finite_map` -- **all of this after every run**.
-/

namespace Waypost

namespace Hints

/-! ## 1. Runs -/

/-- An operation on hints. -/
inductive Operation where
  | construct (members : Members)
  | put (key : String) (value : Json)
  | putDefault (key : String) (value : Json)
  | remove (key : String)
  | fill (raw : Grouped) (skip : List String)
  | removeLegacy
  | copy

/-- What is left of hints when a change may have failed. -/
def orStay (h : Hints) : Except Fault Hints → Hints × Option Fault
  | .ok h' => (h', none)
  | .error fault => (h, some fault)

/-- One operation: the hints after it, and its fault if it failed. Hints that could not be
    constructed do not take the place of those that are there; filling stops at the first fault. -/
def step (h : Hints) : Operation → Hints × Option Fault
  | .construct members => h.orStay (empty.putAll members)
  | .put key value => h.putEach [(key, value)]
  | .putDefault key value => h.orStay (h.putDefault key value)
  | .remove key => (h.remove key, none)
  | .fill raw skip => h.putEach (hintPairs raw skip)
  | .removeLegacy => (h.removeLegacy, none)
  | .copy => (h, none)

/-- The hints after some operations. -/
def ofRun (operations : List Operation) : Hints :=
  operations.foldl (fun h operation => (h.step operation).1) empty

/-! ## 2. What a run did -/

/-- A change to the value under a normal key. -/
inductive Change where
  | stored (key : String) (value : HintValue)
  | removed (key : String)

/-- The value under a normal key after some changes, the latest of which stands first: the one that
    was stored last and not removed since. -/
def valueAfter (key : String) : List Change → Option HintValue
  | [] => none
  | .stored k value :: earlier => if k = key then some value else valueAfter key earlier
  | .removed k :: earlier => if k = key then none else valueAfter key earlier

/-- Several puts, as far as they succeed. -/
def changesOfPuts (changes : List Change) : List (String × Json) → List Change
  | [] => changes
  | (key, value) :: rest =>
    match HintValue.ofJson value with
    | .ok v => changesOfPuts (.stored (normalizeKey key) v :: changes) rest
    | .error _ => changes

/-- Several keys removed one after another. -/
def changesOfRemovals (changes : List Change) (keys : List String) : List Change :=
  keys.foldl (fun changes key => .removed (normalizeKey key) :: changes) changes

/-- The changes after an operation. A default is put where the changes left no value; constructing
    begins anew, or changes nothing when a value cannot be read. -/
def changesAfter (changes : List Change) : Operation → List Change
  | .construct members =>
    if ∀ member ∈ members, HintValue.Readable member.2 then changesOfPuts [] members else changes
  | .put key value => changesOfPuts changes [(key, value)]
  | .putDefault key value =>
    if (valueAfter (normalizeKey key) changes).isSome then changes
    else changesOfPuts changes [(key, value)]
  | .remove key => changesOfRemovals changes [key]
  | .fill raw skip => changesOfPuts changes (hintPairs raw skip)
  | .removeLegacy => changesOfRemovals changes Key.legacy
  | .copy => changes

/-- The changes of a run, the latest first. -/
def changesOf (operations : List Operation) : List Change := operations.foldl changesAfter []

/-! ## 3. Keys and values -/

/-- Hints with distinct normal keys whose values are read as themselves. -/
structure Regular (h : Hints) : Prop where
  distinct : h.keys.Nodup
  normal : ∀ key ∈ h.keys, normalizeKey key = key
  settled : ∀ entry ∈ h.entries, HintValue.ofJson entry.2.toJson = .ok entry.2

/-- **What was read is read as itself.** -/
theorem settled_of_ofJson {json : Json} {value : HintValue}
    (h : HintValue.ofJson json = .ok value) : HintValue.ofJson value.toJson = .ok value := by
  have htext : ∀ s, HintValue.ofText s = .ok value → HintValue.ofJson value.toJson = .ok value := by
    intro s hs
    have hread := hs
    unfold HintValue.ofText at hread
    split at hread
    · cases hread
      rfl
    · dsimp only at hread
      split at hread
      · split at hread
        · cases hread
          rfl
        · cases hread
      · split at hread
        · cases hread
          rfl
        · -- a text that stands for itself is the text that was read
          cases hread
          exact (HintValue.ofJson_str _).trans hs
  cases json with
  | bool b =>
    cases h
    rfl
  | int n =>
    cases h
    rfl
  | float x =>
    cases h
    rfl
  | null =>
    obtain ⟨s, -, hs⟩ := bind_eq_ok.mp h
    exact htext s hs
  | str s => exact htext s ((HintValue.ofJson_str s).symm.trans h)
  | arr items =>
    obtain ⟨texts, -, hs⟩ := bind_eq_ok.mp h
    exact htext (",".intercalate texts) hs
  | obj members =>
    obtain ⟨s, -, hs⟩ := bind_eq_ok.mp h
    exact htext s hs

theorem keys_write (key : String) (value : HintValue) (entries : List (String × HintValue)) :
    (write key value entries).map (·.1) =
      if key ∈ entries.map (·.1) then entries.map (·.1) else entries.map (·.1) ++ [key] := by
  induction entries with
  | nil => rfl
  | cons entry rest ih =>
    obtain ⟨k, v⟩ := entry
    unfold write
    by_cases hk : k = key
    · simp [hk]
    · rw [if_neg fun he => hk (beq_iff_eq.mp he), List.map_cons, ih, List.map_cons]
      simp only [List.mem_cons, Ne.symm hk, false_or]
      split <;> rfl

theorem mem_write {key : String} {value : HintValue} {entries : List (String × HintValue)}
    {entry : String × HintValue} (h : entry ∈ write key value entries) :
    entry = (key, value) ∨ entry ∈ entries := by
  induction entries with
  | nil => exact Or.inl (List.mem_singleton.mp h)
  | cons first rest ih =>
    obtain ⟨k, v⟩ := first
    unfold write at h
    split at h
    · rename_i hk
      rcases List.mem_cons.mp h with hfirst | hrest
      · rw [beq_iff_eq.mp hk] at hfirst
        exact Or.inl hfirst
      · exact Or.inr (List.mem_cons_of_mem _ hrest)
    · rcases List.mem_cons.mp h with hfirst | hrest
      · exact Or.inr (hfirst ▸ List.mem_cons_self)
      · exact (ih hrest).imp id (List.mem_cons_of_mem _)

theorem regular_empty : empty.Regular where
  distinct := List.nodup_nil
  normal _ hkey := absurd hkey List.not_mem_nil
  settled _ hentry := absurd hentry List.not_mem_nil

theorem regular_set {h : Hints} (hr : h.Regular) (key : String) {value : HintValue}
    (hv : HintValue.ofJson value.toJson = .ok value) : (h.set key value).Regular where
  distinct := by
    have hkeys := hr.distinct
    unfold keys at hkeys ⊢
    unfold set
    dsimp only
    rw [keys_write]
    exact nodup_keys_with hkeys _
  normal other hother := by
    obtain ⟨entry, hentry, rfl⟩ := List.mem_map.mp hother
    rcases mem_write hentry with rfl | hold
    · exact normalizeKey_normalizeKey key
    · exact hr.normal _ (List.mem_map_of_mem hold)
  settled entry hentry := by
    rcases mem_write hentry with rfl | hold
    · exact hv
    · exact hr.settled _ hold

theorem regular_remove {h : Hints} (hr : h.Regular) (key : String) : (h.remove key).Regular where
  distinct := (List.filter_sublist.map _).nodup hr.distinct
  normal other hother := by
    obtain ⟨entry, hentry, rfl⟩ := List.mem_map.mp hother
    exact hr.normal _ (List.mem_map_of_mem (List.mem_of_mem_filter hentry))
  settled entry hentry := hr.settled entry (List.mem_of_mem_filter hentry)

/-! ## 4. One operation -/

theorem regular_putEach {h : Hints} (hr : h.Regular) (pairs : List (String × Json)) :
    (h.putEach pairs).1.Regular := by
  induction pairs generalizing h with
  | nil => exact hr
  | cons pair rest ih =>
    obtain ⟨key, value⟩ := pair
    unfold putEach
    cases hput : h.put key value with
    | error fault => exact hr
    | ok h' =>
      obtain ⟨v, hv, rfl⟩ := put_eq_ok.mp hput
      exact ih (regular_set hr key (settled_of_ofJson hv))

theorem regular_foldl_remove {h : Hints} (hr : h.Regular) (keys : List String) :
    (keys.foldl remove h).Regular := by
  induction keys generalizing h with
  | nil => exact hr
  | cons key rest ih => exact ih (regular_remove hr key)

/-- Several puts that succeed leave what they come to one by one. -/
theorem putEach_of_putAll {h h' : Hints} {pairs : List (String × Json)}
    (hp : h.putAll pairs = .ok h') : h' = (h.putEach pairs).1 := by
  unfold putAll at hp
  split at hp
  · rename_i heach
    cases hp
    rw [heach]
  · cases hp

/-- **Every operation keeps hints regular**, whether it succeeds or not. -/
theorem regular_step {h : Hints} (hr : h.Regular) (operation : Operation) :
    (h.step operation).1.Regular := by
  cases operation with
  | construct members =>
    show (h.orStay (empty.putAll members)).1.Regular
    cases hp : empty.putAll members with
    | error fault => exact hr
    | ok h' =>
      rw [putEach_of_putAll hp]
      exact regular_putEach regular_empty members
  | put key value => exact regular_putEach hr _
  | putDefault key value =>
    show (h.orStay (h.putDefault key value)).1.Regular
    unfold putDefault
    split
    · exact hr
    · cases hput : h.put key value with
      | error fault => exact hr
      | ok h' =>
        obtain ⟨v, hv, rfl⟩ := put_eq_ok.mp hput
        exact regular_set hr key (settled_of_ofJson hv)
  | remove key => exact regular_remove hr key
  | fill raw skip => exact regular_putEach hr _
  | removeLegacy => exact regular_foldl_remove hr _
  | copy => exact hr

/-- Hints that hold what some changes left under each key. -/
def Follows (h : Hints) (changes : List Change) : Prop :=
  ∀ key, h.get? key = valueAfter (normalizeKey key) changes

theorem follows_set {h : Hints} {changes : List Change} (hf : h.Follows changes) (key : String)
    (value : HintValue) :
    (h.set key value).Follows (.stored (normalizeKey key) value :: changes) := by
  intro other
  unfold valueAfter
  by_cases hk : normalizeKey key = normalizeKey other
  · rw [if_pos hk, get?_congr _ hk.symm, get?_set_self]
  · rw [if_neg hk, get?_set_of_ne h (Ne.symm hk), hf other]

theorem follows_foldl_remove {h : Hints} {changes : List Change} (hf : h.Follows changes)
    (keys : List String) : (keys.foldl remove h).Follows (changesOfRemovals changes keys) := by
  induction keys generalizing h changes with
  | nil => exact hf
  | cons key rest ih =>
    refine ih fun other => ?_
    unfold valueAfter
    by_cases hk : normalizeKey key = normalizeKey other
    · rw [if_pos hk, get?_congr _ hk.symm, get?_remove_self]
    · rw [if_neg hk, get?_remove_of_ne h (Ne.symm hk), hf other]

/-- Several puts store the values up to the first one that cannot be read. -/
theorem follows_putEach {h : Hints} {changes : List Change} (hf : h.Follows changes)
    (pairs : List (String × Json)) : (h.putEach pairs).1.Follows (changesOfPuts changes pairs) := by
  induction pairs generalizing h changes with
  | nil => exact hf
  | cons pair rest ih =>
    obtain ⟨key, value⟩ := pair
    unfold putEach changesOfPuts put
    cases HintValue.ofJson value with
    | error fault => exact hf
    | ok v => exact ih (follows_set hf key v)

/-- **Every operation does what its changes say**, whatever was done before. -/
theorem follows_step {h : Hints} {changes : List Change} (hf : h.Follows changes)
    (operation : Operation) : (h.step operation).1.Follows (changesAfter changes operation) := by
  cases operation with
  | construct members =>
    show (h.orStay (empty.putAll members)).1.Follows (if _ then _ else _)
    split
    · rename_i hreadable
      obtain ⟨h', hp⟩ := exists_putAll.mpr hreadable
      rw [hp, putEach_of_putAll hp]
      exact follows_putEach (fun key => rfl) members
    · rename_i hunreadable
      cases hp : empty.putAll members with
      | error fault => exact hf
      | ok h' => exact absurd (exists_putAll.mp ⟨h', hp⟩) hunreadable
  | put key value => exact follows_putEach hf _
  | putDefault key value =>
    show (h.orStay (if h.has key = true then .ok h else h.put key value)).1.Follows
      (if _ then _ else _)
    unfold has
    rw [hf key]
    split
    · exact hf
    · have hput := follows_putEach hf [(key, value)]
      unfold putEach at hput
      cases hp : h.put key value with
      | error fault =>
        rw [hp] at hput
        exact hput
      | ok h' =>
        rw [hp] at hput
        exact hput
  | remove key => exact follows_foldl_remove hf [key]
  | fill raw skip => exact follows_putEach hf _
  | removeLegacy => exact follows_foldl_remove hf _
  | copy => exact hf

/-! ## 5. A run -/

theorem ofRun_keeps (operations : List Operation) :
    (ofRun operations).Regular ∧ (ofRun operations).Follows (changesOf operations) := by
  have hrun : ∀ (h : Hints) (changes : List Change), h.Regular → h.Follows changes →
      (operations.foldl (fun h operation => (h.step operation).1) h).Regular ∧
      (operations.foldl (fun h operation => (h.step operation).1) h).Follows
        (operations.foldl changesAfter changes) := by
    induction operations with
    | nil => exact fun h changes hr hf => ⟨hr, hf⟩
    | cons operation rest ih =>
      exact fun h changes hr hf => ih _ _ (regular_step hr operation) (follows_step hf operation)
  exact hrun empty [] regular_empty fun key => rfl

/-- **Regular hints are rebuilt from their own values.** -/
theorem putAll_toMembers {h : Hints} (hr : h.Regular) : empty.putAll h.toMembers = .ok h := by
  have hentries : h.toMembers.map entryOf = h.entries := by
    unfold toMembers
    rw [List.map_map]
    refine (List.map_congr_left fun entry hentry => ?_).trans (List.map_id _)
    have hread : HintValue.read entry.2.toJson = entry.2 := by
      unfold HintValue.read
      rw [hr.settled entry hentry]
    show (normalizeKey entry.1, HintValue.read entry.2.toJson) = entry
    rw [hread, hr.normal entry.1 (List.mem_map_of_mem hentry)]
  have hput : empty.putAll h.toMembers = .ok ⟨h.toMembers.map entryOf⟩ := by
    refine putAll_of_distinct (fun pair hpair => ?_) ?_
    · obtain ⟨entry, hentry, rfl⟩ := List.mem_map.mp hpair
      exact ⟨entry.2, hr.settled entry hentry⟩
    · rw [hentries]
      exact hr.distinct
  rw [hput, hentries]

/-- Two keys that hints cannot tell apart. -/
structure Alike (h : Hints) (key other : String) : Prop where
  has : h.has key = h.has other
  get? : h.get? key = h.get? other
  flag? : h.flag? key = h.flag? other
  float? : h.float? key = h.float? other
  text? : h.text? key = h.text? other
  put : ∀ value, h.put key value = h.put other value
  putDefault : ∀ value, h.putDefault key value = h.putDefault other value
  remove : h.remove key = h.remove other

/-- **Two spellings of one key cannot be told apart.** -/
theorem alike_of_normalizeKey {key other : String} (he : normalizeKey key = normalizeKey other)
    (h : Hints) : h.Alike key other := by
  have hget : h.get? key = h.get? other := get?_congr h he
  have hhas : h.has key = h.has other := congrArg Option.isSome hget
  have hput : ∀ value, h.put key value = h.put other value := by
    intro value
    unfold put set
    rw [he]
  constructor
  · exact hhas
  · exact hget
  · unfold flag?
    rw [hget]
  · unfold float?
    rw [hget]
  · unfold text?
    rw [hget]
  · exact hput
  · intro value
    unfold putDefault
    rw [hhas, hput]
  · unfold remove
    rw [he]

/-- **Hints are a finite map over normal keys after every run.** Their keys are distinct and normal,
    they are rebuilt from their own values, a put that fails leaves them as they are, spellings of
    one key cannot be told apart, and under a key stands what was stored last and not removed
    since. -/
theorem hints_are_a_finite_map (operations : List Operation) :
    (ofRun operations).keys.Nodup ∧
    (∀ key ∈ (ofRun operations).keys, normalizeKey key = key) ∧
    empty.putAll (ofRun operations).toMembers = .ok (ofRun operations) ∧
    (∀ key value fault, (ofRun operations).put key value = .error fault →
      (ofRun operations).step (.put key value) = (ofRun operations, some fault)) ∧
    (∀ key other, normalizeKey key = normalizeKey other → (ofRun operations).Alike key other) ∧
    ∀ key, (ofRun operations).get? key = valueAfter (normalizeKey key) (changesOf operations) := by
  obtain ⟨hregular, hfollows⟩ := ofRun_keeps operations
  refine ⟨hregular.distinct, hregular.normal, putAll_toMembers hregular, ?_, ?_, hfollows⟩
  · intro key value fault hfails
    show putEach _ [(key, value)] = _
    unfold putEach
    rw [hfails]
  · exact fun key other he => alike_of_normalizeKey he _

example : (ofRun [.put "roundTrip" (.int 3), .remove "round_trip",
    .putDefault "RoundTrip" (.str "TRUE")]).flag? "round_Trip" = some true := by decide +kernel

end Hints

end Waypost
