import Waypost.Text.Blank
import Waypost.Text.Case

/-!
# Texts of ASCII without blanks at their ends

* `lowerFrom_of_ascii` -- small letters of ASCII are made character by character;
* `trimBoth_of_outside` -- where no character belongs to a class, nothing is dropped;
* `toLower_of_not_ascii` -- beyond ASCII a character stays as it is.
-/

namespace Waypost.Text

theorem lowerFrom_of_ascii {before cs : List Char} (h : ∀ c ∈ cs, c.toNat < 128) :
    lowerFrom before cs = cs.map (·.toLower) := by
  induction cs generalizing before with
  | nil => rfl
  | cons c rest ih =>
    have hc : c.toNat < 128 := h c List.mem_cons_self
    unfold lowerFrom
    dsimp only
    rw [if_neg (by omega), lowerChar_of_ascii hc,
      ih fun other hother => h other (List.mem_cons_of_mem c hother)]
    rfl

theorem trimBoth_of_outside {inClass : Char → Bool} {cs : List Char}
    (h : ∀ c ∈ cs, inClass c = false) : trimBoth inClass cs = cs := by
  have hkeep : ∀ cs : List Char, (∀ c ∈ cs, inClass c = false) → cs.dropWhile inClass = cs := by
    intro cs hcs
    cases cs with
    | nil => rfl
    | cons c rest =>
      rw [List.dropWhile_cons_of_neg]
      rw [hcs c List.mem_cons_self]
      exact Bool.false_ne_true
  unfold trimBoth
  rw [hkeep cs h, hkeep _ fun c hc => h c (List.mem_reverse.mp hc), List.reverse_reverse]

theorem toLower_of_not_ascii {c : Char} (h : ¬ c.toNat < 128) : c.toLower = c := by
  unfold Char.toLower
  rw [dif_neg]
  rintro ⟨-, hlast⟩
  have hle : c.toNat ≤ 90 := UInt32.le_iff_toNat_le.mp hlast
  omega

end Waypost.Text
