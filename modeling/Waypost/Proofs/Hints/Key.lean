import Waypost.Hints.Key
import Waypost.Proofs.Text.SmallLetters

/-!
# The normal form of a key is normal

* `normalizeKey_normalizeKey` -- **a key in normal form stands for itself**: it holds no capitals,
  so there is no place for an underscore and nothing to make small.
-/

namespace Waypost

open Text

theorem isUpper_of_isSmall {c : Char} (h : IsSmall c) : c.isUpper = false := by
  rw [Bool.eq_false_iff]
  intro hu
  have hbetween : c.val ≥ 'A'.val ∧ c.val ≤ 'Z'.val := of_decide_eq_true hu
  exact h.not_between ⟨UInt32.le_iff_toNat_le.mp hbetween.1, UInt32.le_iff_toNat_le.mp hbetween.2⟩

theorem camelToUnderscore_of_isSmall {cs : List Char} (h : ∀ c ∈ cs, IsSmall c)
    (afterWord : Bool) : camelToUnderscore afterWord cs = cs := by
  induction cs generalizing afterWord with
  | nil => rfl
  | cons c rest ih =>
    have hc := isUpper_of_isSmall (h c List.mem_cons_self)
    unfold camelToUnderscore
    rw [hc, Bool.and_false, ih fun other hother => h other (List.mem_cons_of_mem c hother)]
    rfl

/-- **A key in normal form stands for itself.** -/
theorem normalizeKey_normalizeKey (key : String) :
    normalizeKey (normalizeKey key) = normalizeKey key := by
  have hsmall : ∀ c ∈ lowerFrom [] (camelToUnderscore false key.toList), IsSmall c :=
    fun _ => isSmall_of_mem_lowerFrom
  unfold normalizeKey
  rw [String.toList_ofList, camelToUnderscore_of_isSmall hsmall, lowerFrom_of_isSmall hsmall]

example : normalizeKey "EdgeBasedΣ" = "edge_basedς" := by decide +kernel

end Waypost
