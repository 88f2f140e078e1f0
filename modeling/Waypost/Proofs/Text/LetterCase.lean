import Waypost.Proofs.Text.Plain
import Waypost.Proofs.Text.SmallLetters

/-!
# Words in any letter case

A text that becomes a word of ASCII in small letters is that word in some letter case: the capitals
beyond ASCII that have a small letter of ASCII have `i` or `k`.

* `PlainLetter` -- the small letters that come from capitals of ASCII alone;
* `lower_eq_iff` -- **a text becomes a word of such letters exactly when it is one letter by
  letter**.
-/

namespace Waypost.Text

/-- A small letter of ASCII that no capital beyond ASCII has. -/
def PlainLetter (c : Char) : Prop := (97 ≤ c.toNat ∧ c.toNat ≤ 122) ∧ c ≠ 'i' ∧ c ≠ 'k'

instance (c : Char) : Decidable (PlainLetter c) :=
  inferInstanceAs (Decidable ((97 ≤ c.toNat ∧ c.toNat ≤ 122) ∧ c ≠ 'i' ∧ c ≠ 'k'))

/-- The small letters of a run lie behind those of ASCII, or there is one of them and it is `k`. -/
theorem lowerRuns_beyond : lowerRuns.all (fun run =>
    decide (122 < run.1 + run.2.2.2) || (run.1.beq run.2.1 && run.1 + run.2.2.2 == 107)) = true := by
  decide +kernel

theorem not_plainLetter_shifted {run : Nat × Nat × Nat × Int} (hmem : run ∈ lowerRuns) {n : Nat}
    (hn : runHolds run n = true) : ¬ PlainLetter (Char.ofNat (n + run.2.2.2).toNat) := by
  rintro ⟨hletter, -, hk⟩
  obtain ⟨hfirst, hlast, -⟩ := runHolds_eq_true.mp hn
  have hrun := List.all_eq_true.mp lowerRuns_beyond run hmem
  rw [Bool.or_eq_true, decide_eq_true_eq, Bool.and_eq_true, Nat.beq_eq, beq_iff_eq] at hrun
  rcases toNat_ofNat_cases (n + run.2.2.2).toNat with he | he
  · rcases hrun with hbeyond | ⟨hone, hsmall⟩
    · omega
    · refine hk (Char.toNat_inj.mp ?_)
      show _ = 107
      omega
  · omega

/-- A plain letter comes from a character of ASCII. -/
theorem ascii_of_lowerChar {c small : Char} (h : small ∈ lowerChar c) (hsmall : PlainLetter small) :
    c.toNat < 128 := by
  refine Decidable.byContradiction fun hascii => ?_
  unfold lowerChar at h
  rw [if_neg hascii] at h
  split at h
  · simp only [List.mem_cons, List.not_mem_nil, or_false] at h
    rcases h with rfl | rfl
    · exact absurd hsmall (by decide)
    · exact absurd hsmall (by decide)
  · split at h
    · rename_i run hfind
      obtain ⟨hmem, hh⟩ := mem_lowerRuns_of_find? hfind
      rw [List.mem_singleton.mp h] at hsmall
      exact not_plainLetter_shifted hmem hh hsmall
    · rw [List.mem_singleton.mp h] at hsmall
      have := hsmall.1
      omega

theorem lowerChar_ne_nil (c : Char) : lowerChar c ≠ [] := by
  unfold lowerChar
  split
  · exact List.cons_ne_nil _ _
  · split
    · exact List.cons_ne_nil _ _
    · split <;> exact List.cons_ne_nil _ _

/-- What becomes plain letters is a text of ASCII. -/
theorem ascii_of_lowerFrom {before cs : List Char} (h : ∀ c ∈ lowerFrom before cs, PlainLetter c) :
    ∀ c ∈ cs, c.toNat < 128 := by
  induction cs generalizing before with
  | nil => exact nofun
  | cons c rest ih =>
    unfold lowerFrom at h
    obtain ⟨hfirst, hrest⟩ := List.forall_mem_append.mp h
    refine List.forall_mem_cons.mpr ⟨?_, ih hrest⟩
    split at hfirst
    · have hsigma := hfirst _ List.mem_cons_self
      split at hsigma
      · exact absurd hsigma (by decide)
      · exact absurd hsigma (by decide)
    · obtain ⟨small, hsmall⟩ := List.exists_mem_of_ne_nil _ (lowerChar_ne_nil c)
      exact ascii_of_lowerChar hsmall (hfirst small hsmall)

/-- **A text becomes a word of plain letters exactly when it is one letter by letter**, in any
    letter case. -/
theorem lower_eq_iff {s word : String} (hword : ∀ c ∈ word.toList, PlainLetter c) :
    lower s = word ↔ s.toList.map Char.toLower = word.toList := by
  unfold lower
  rw [← String.toList_inj, String.toList_ofList]
  constructor
  · intro h
    rw [← h] at hword ⊢
    exact (lowerFrom_of_ascii (ascii_of_lowerFrom hword)).symm
  · intro h
    rw [lowerFrom_of_ascii, h]
    refine fun c hc => Decidable.byContradiction fun hascii => ?_
    have hmem : c.toLower ∈ word.toList := h ▸ List.mem_map_of_mem hc
    rw [toLower_of_not_ascii hascii] at hmem
    have := (hword c hmem).1
    omega

end Waypost.Text
