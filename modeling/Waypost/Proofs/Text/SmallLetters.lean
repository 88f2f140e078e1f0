import Waypost.Text.Case

/-!
# Small letters stay as they are

* `IsSmall` -- a character outside all runs of capitals;
* `isSmall_of_mem_lowerFrom` -- a text in small letters holds nothing else, whatever it was before;
* `lowerFrom_of_isSmall` -- a text of such characters is in small letters already.

That no small letter of the table is a capital of the table is decided for pairs of runs
(`smallRunClear_lowerRuns`), not for single characters.
-/

namespace Waypost.Text

/-! ## 1. Runs of capitals -/

/-- Whether a run of capitals holds a code point. -/
def runHolds (run : Nat × Nat × Nat × Int) (n : Nat) : Bool :=
  run.1 ≤ n && n ≤ run.2.1 && (n - run.1) % run.2.2.1 == 0

/-- The runs of all capitals: beside those of the table the capitals of ASCII, the one that has two
    small letters, and the one whose small letter depends on its neighbours. -/
def capitalRuns : List (Nat × Nat × Nat × Int) :=
  [(65, 90, 1, 32), (304, 304, 1, 0), (931, 931, 1, 0)] ++ lowerRuns

/-- A character that is no capital. -/
def IsSmall (c : Char) : Prop := ∀ run ∈ capitalRuns, runHolds run c.toNat = false

instance (c : Char) : Decidable (IsSmall c) :=
  inferInstanceAs (Decidable (∀ run ∈ capitalRuns, runHolds run c.toNat = false))

/-- Whether the small letters from `first` to `last` lie outside a run: on either side of it, or
    between its members. -/
def runClear (first last step : Nat) (run : Nat × Nat × Nat × Int) : Bool :=
  last.blt run.1 || run.2.1.blt first
    || (run.2.2.1.beq 2 && (step.beq 2 || first.beq last) && ((first + run.1) % 2).beq 1)

/-- Whether a run lies beyond ASCII, and its small letters outside all runs. -/
def smallRunClear (run : Nat × Nat × Nat × Int) : Bool :=
  127 < run.1 && 0 < run.1 + run.2.2.2
    && capitalRuns.all (runClear (run.1 + run.2.2.2).toNat (run.2.1 + run.2.2.2).toNat run.2.2.1)

theorem smallRunClear_lowerRuns : lowerRuns.all smallRunClear = true := by decide +kernel

theorem runHolds_eq_true {run : Nat × Nat × Nat × Int} {n : Nat} :
    runHolds run n = true ↔ run.1 ≤ n ∧ n ≤ run.2.1 ∧ (n - run.1) % run.2.2.1 = 0 := by
  unfold runHolds
  rw [Bool.and_eq_true, Bool.and_eq_true, decide_eq_true_eq, decide_eq_true_eq, beq_iff_eq,
    and_assoc]

/-- The small letter of a member of a run is no member of a run that is clear of it. -/
theorem runHolds_of_runClear {small run : Nat × Nat × Nat × Int} {n : Nat}
    (hpos : 0 < small.1 + small.2.2.2) (hn : runHolds small n = true)
    (hclear : runClear (small.1 + small.2.2.2).toNat (small.2.1 + small.2.2.2).toNat small.2.2.1 run
      = true) : runHolds run (n + small.2.2.2).toNat = false := by
  obtain ⟨hfirst, hlast, hstep⟩ := runHolds_eq_true.mp hn
  rw [Bool.eq_false_iff]
  intro hrun
  obtain ⟨hfirst', hlast', hstep'⟩ := runHolds_eq_true.mp hrun
  unfold runClear at hclear
  simp only [Bool.or_eq_true, Bool.and_eq_true, Nat.blt_eq, Nat.beq_eq] at hclear
  rcases hclear with (hbefore | hbehind) | ⟨⟨htwo, hodd⟩, hparity⟩
  · omega
  · omega
  · rw [htwo] at hstep'
    rcases hodd with hsame | hone
    · rw [hsame] at hstep
      omega
    · omega

theorem lowerRuns_clear {run : Nat × Nat × Nat × Int} (h : run ∈ lowerRuns) :
    127 < run.1 ∧ 0 < run.1 + run.2.2.2 ∧ ∀ other ∈ capitalRuns,
      runClear (run.1 + run.2.2.2).toNat (run.2.1 + run.2.2.2).toNat run.2.2.1 other = true := by
  have hclear := List.all_eq_true.mp smallRunClear_lowerRuns run h
  unfold smallRunClear at hclear
  rw [Bool.and_eq_true, Bool.and_eq_true, decide_eq_true_eq, decide_eq_true_eq,
    List.all_eq_true] at hclear
  exact ⟨hclear.1.1, hclear.1.2, hclear.2⟩

/-! ## 2. One character -/

theorem toNat_ofNat_cases (n : Nat) : (Char.ofNat n).toNat = n ∨ (Char.ofNat n).toNat = 0 := by
  by_cases h : n.isValidChar
  · exact Or.inl (congrArg Char.toNat (dif_pos h))
  · exact Or.inr (congrArg Char.toNat (dif_neg h))

theorem isSmall_shifted {run : Nat × Nat × Nat × Int} (hmem : run ∈ lowerRuns) {n : Nat}
    (hn : runHolds run n = true) : IsSmall (Char.ofNat (n + run.2.2.2).toNat) := by
  obtain ⟨-, hpos, hclear⟩ := lowerRuns_clear hmem
  intro other hother
  rcases toNat_ofNat_cases (n + run.2.2.2).toNat with he | he
  · rw [he]
    exact runHolds_of_runClear hpos hn (hclear other hother)
  · rw [he]
    have hzero : (capitalRuns.all fun run => 0 < run.1) = true := by decide +kernel
    have hfirst := of_decide_eq_true (List.all_eq_true.mp hzero other hother)
    rw [Bool.eq_false_iff]
    intro hrun
    have := (runHolds_eq_true.mp hrun).1
    omega

theorem toNat_toLower_of_ascii : ∀ n < 128,
    (Char.ofNat n).toLower.toNat = if 65 ≤ n ∧ n ≤ 90 then n + 32 else n := by decide +kernel

theorem toNat_toLower {c : Char} (h : c.toNat < 128) :
    c.toLower.toNat = if 65 ≤ c.toNat ∧ c.toNat ≤ 90 then c.toNat + 32 else c.toNat := by
  have hc := toNat_toLower_of_ascii c.toNat h
  rwa [Char.ofNat_toNat] at hc

theorem isSmall_toLower {c : Char} (h : c.toNat < 128) : IsSmall c.toLower := by
  have hl := toNat_toLower h
  intro run hrun
  rw [Bool.eq_false_iff]
  intro hh
  obtain ⟨hfirst, hlast, -⟩ := runHolds_eq_true.mp hh
  rcases List.mem_append.mp hrun with hother | htable
  · simp only [List.mem_cons, List.not_mem_nil, or_false] at hother
    rcases hother with rfl | rfl | rfl
    all_goals
      dsimp only at hfirst hlast
      split at hl
      all_goals omega
  · have hbeyond := (lowerRuns_clear htable).1
    split at hl
    all_goals omega

theorem mem_lowerRuns_of_find? {c : Char} {run : Nat × Nat × Nat × Int}
    (h : (lowerRuns.find? fun run =>
      run.1 ≤ c.toNat && c.toNat ≤ run.2.1 && (c.toNat - run.1) % run.2.2.1 == 0) = some run) :
    run ∈ lowerRuns ∧ runHolds run c.toNat = true := by
  have hh := List.find?_some h
  exact ⟨List.mem_of_find?_eq_some h, hh⟩

theorem IsSmall.not_between {c : Char} (h : IsSmall c) : ¬ (65 ≤ c.toNat ∧ c.toNat ≤ 90) := by
  rintro ⟨hfirst, hlast⟩
  have hh : runHolds (65, 90, 1, 32) c.toNat = true :=
    runHolds_eq_true.mpr ⟨hfirst, hlast, Nat.mod_one _⟩
  rw [h (65, 90, 1, 32) (List.mem_append_left _ (by simp))] at hh
  cases hh

theorem IsSmall.ne_304 {c : Char} (h : IsSmall c) : c.toNat ≠ 304 := by
  intro he
  have hh := h (304, 304, 1, 0) (List.mem_append_left _ (by simp))
  rw [he] at hh
  cases hh

theorem IsSmall.ne_931 {c : Char} (h : IsSmall c) : c.toNat ≠ 931 := by
  intro he
  have hh := h (931, 931, 1, 0) (List.mem_append_left _ (by simp))
  rw [he] at hh
  cases hh

/-- A character that is no capital is its own small letter. -/
theorem lowerChar_of_isSmall {c : Char} (h : IsSmall c) : lowerChar c = [c] := by
  unfold lowerChar
  split
  · rename_i hc
    have hl := toNat_toLower hc
    rw [if_neg h.not_between] at hl
    rw [Char.toNat_inj.mp hl]
  · rw [if_neg h.ne_304]
    split
    · rename_i run hfind
      obtain ⟨hmem, hh⟩ := mem_lowerRuns_of_find? hfind
      rw [h run (List.mem_append_right _ hmem)] at hh
      cases hh
    · rfl

theorem isSmall_of_outside {c : Char} (hascii : ¬ c.toNat < 128) (hdouble : c.toNat ≠ 304)
    (hc : c.toNat ≠ 931) (hnone : (lowerRuns.find? fun run =>
      run.1 ≤ c.toNat && c.toNat ≤ run.2.1 && (c.toNat - run.1) % run.2.2.1 == 0) = none) :
    IsSmall c := by
  intro run hrun
  rcases List.mem_append.mp hrun with hother | htable
  · rw [Bool.eq_false_iff]
    intro hh
    obtain ⟨hfirst, hlast, -⟩ := runHolds_eq_true.mp hh
    simp only [List.mem_cons, List.not_mem_nil, or_false] at hother
    rcases hother with rfl | rfl | rfl
    all_goals
      dsimp only at hfirst hlast
      omega
  · exact Bool.eq_false_iff.mpr (List.find?_eq_none.mp hnone run htable)

/-- **A small letter is no capital**, whatever character it belongs to. -/
theorem isSmall_of_mem_lowerChar {c small : Char} (h : small ∈ lowerChar c) (hc : c.toNat ≠ 931) :
    IsSmall small := by
  unfold lowerChar at h
  split at h
  · rename_i hascii
    rw [List.mem_singleton.mp h]
    exact isSmall_toLower hascii
  · rename_i hascii
    split at h
    · simp only [List.mem_cons, List.not_mem_nil, or_false] at h
      rcases h with rfl | rfl
      · decide +kernel
      · decide +kernel
    · rename_i hdouble
      split at h
      · rename_i run hfind
        obtain ⟨hmem, hh⟩ := mem_lowerRuns_of_find? hfind
        rw [List.mem_singleton.mp h]
        exact isSmall_shifted hmem hh
      · rename_i hnone
        rw [List.mem_singleton.mp h]
        exact isSmall_of_outside hascii hdouble hc hnone

/-! ## 3. Texts -/

/-- **A text in small letters holds no capital**, whatever it was and whatever stood before it. -/
theorem isSmall_of_mem_lowerFrom {before cs : List Char} {small : Char}
    (h : small ∈ lowerFrom before cs) : IsSmall small := by
  induction cs generalizing before with
  | nil => cases h
  | cons c rest ih =>
    unfold lowerFrom at h
    rcases List.mem_append.mp h with hhead | htail
    · split at hhead
      · rw [List.mem_singleton.mp hhead]
        split
        · decide +kernel
        · decide +kernel
      · rename_i hc
        exact isSmall_of_mem_lowerChar hhead hc
    · exact ih htail

/-- **A text without capitals is in small letters.** -/
theorem lowerFrom_of_isSmall {before cs : List Char} (h : ∀ c ∈ cs, IsSmall c) :
    lowerFrom before cs = cs := by
  induction cs generalizing before with
  | nil => rfl
  | cons c rest ih =>
    have hc := h c List.mem_cons_self
    unfold lowerFrom
    dsimp only
    rw [if_neg hc.ne_931, lowerChar_of_isSmall hc,
      ih fun other hother => h other (List.mem_cons_of_mem c hother), List.singleton_append]

end Waypost.Text
