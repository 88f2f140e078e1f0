import Mathlib.Data.List.DropRight
import Waypost.Text.Blank

/-!
# Stripped texts

* `trimBoth_trimBoth` -- what is dropped at both ends is dropped at once;
* `strip_strip` -- **a stripped text stays as it is**;
* `strip_eq_empty` -- nothing is left of a blank text, and of no other one.
-/

namespace Waypost.Text

theorem trimBoth_eq (inClass : Char → Bool) (cs : List Char) :
    trimBoth inClass cs = (cs.dropWhile inClass).rdropWhile inClass := rfl

theorem trimBoth_trimBoth (inClass : Char → Bool) (cs : List Char) :
    trimBoth inClass (trimBoth inClass cs) = trimBoth inClass cs := by
  have hfront : (trimBoth inClass cs).dropWhile inClass = trimBoth inClass cs := by
    rw [trimBoth_eq, List.dropWhile_eq_self_iff]
    intro hpos
    -- what is dropped at the end leaves the front as it was
    have hbefore := List.rdropWhile_prefix inClass (cs.dropWhile inClass)
    have hlength := hbefore.length_le
    rw [hbefore.getElem hpos]
    exact List.dropWhile_get_zero_not inClass cs (by omega)
  rw [trimBoth_eq inClass (trimBoth inClass cs), hfront, trimBoth_eq, List.rdropWhile_idempotent]

theorem trimBoth_eq_nil {inClass : Char → Bool} {cs : List Char} :
    trimBoth inClass cs = [] ↔ ∀ c ∈ cs, inClass c = true := by
  rw [trimBoth_eq, List.rdropWhile_eq_nil_iff]
  constructor
  · intro h c hc
    rw [← List.takeWhile_append_dropWhile (p := inClass) (l := cs), List.mem_append] at hc
    rcases hc with hc | hc
    · exact List.mem_takeWhile_imp hc
    · exact h c hc
  · intro h c hc
    exact h c ((List.dropWhile_sublist inClass).mem hc)

/-- **A stripped text stays as it is.** -/
theorem strip_strip (s : String) : strip (strip s) = strip s := by
  unfold strip
  rw [String.toList_ofList, trimBoth_trimBoth]

/-- Nothing is left of a blank text, and of no other one. -/
theorem strip_eq_empty {s : String} : strip s = "" ↔ ∀ c ∈ s.toList, isBlank c = true := by
  have hempty : strip s = "" ↔ trimBoth isBlank s.toList = [] := by
    unfold strip
    rw [← String.toList_inj, String.toList_ofList]
    simp
  rw [hempty, trimBoth_eq_nil]

end Waypost.Text
