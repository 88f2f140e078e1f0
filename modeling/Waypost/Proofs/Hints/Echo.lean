import Waypost.Proofs.Decimal.Digits
import Waypost.Proofs.Decimal.Shown
import Waypost.Proofs.Hints.Overlong

/-!
# What comes back of a text

A text that is put as a hint is read as the most specific value that it spells, and when it is asked
for as a text that value is written anew. So a text may come back in another spelling: `040` as
`40`, `7.50` as `7.5`, `true` as `True`.

* `ComesBackAs` -- the text that comes back of a text, told by what it spells;
* `comesBackAs_iff` -- **this is what a hint holds of it**, without the blanks at its ends;
* `exists_comesBackAs` -- something comes back of every text that is not overlong, and
  `ComesBackAs.unique` -- one thing only;
* `ComesBackAs.eq_empty_iff` -- **nothing comes back of blanks, and of them alone**.
-/

namespace Waypost

open Text Decimal

/-- The text that comes back of a text which was put as a hint, without blanks at its ends. -/
inductive ComesBackAs (s : String) : String → Prop
  | flag {b : Bool} (hflag : HintValue.flagOfText? s = some b) :
      ComesBackAs s (if b then "True" else "False")
  | whole {negative : Bool} {digits : List Char} {n : Int}
      (hflag : HintValue.flagOfText? s = none)
      (hplain : plainInteger? (strip s).toList = some (negative, digits))
      (hn : boundedInteger negative digits = .ok n) : ComesBackAs s (toString n)
  | real {x : Float} (hflag : HintValue.flagOfText? s = none)
      (hplain : plainInteger? (strip s).toList = none)
      (hx : plainFloat? (strip s).toList = some x) : ComesBackAs s (floatText x)
  | itself (hflag : HintValue.flagOfText? s = none)
      (hplain : plainInteger? (strip s).toList = none)
      (hreal : plainFloat? (strip s).toList = none) : ComesBackAs s (strip s)

variable {s t : String}

theorem strip_flagText (b : Bool) :
    strip (if b then "True" else "False") = if b then "True" else "False" := by
  cases b <;> decide +kernel

/-- What a hint holds of a text can be written, and that comes back of it. -/
theorem comesBackAs_of_ofText {value : HintValue} (h : HintValue.ofText s = .ok value) :
    ∃ text, value.shown = .ok text ∧ ComesBackAs s (strip text) := by
  unfold HintValue.ofText at h
  split at h
  · rename_i b hflag
    cases h
    refine ⟨_, rfl, ?_⟩
    rw [strip_flagText]
    exact .flag hflag
  · rename_i hflag
    dsimp only at h
    split at h
    · rename_i hplain
      split at h
      · rename_i n hn
        cases h
        have hfew := fewDigits_of_boundedInteger (isDigit_plainInteger hplain) hn
        refine ⟨toString n, integerText_eq_ok.mpr ⟨hfew, rfl⟩, ?_⟩
        rw [strip_toString]
        exact .whole hflag hplain hn
      · cases h
    · rename_i hplain
      split at h
      · rename_i x hx
        cases h
        refine ⟨floatText x, rfl, ?_⟩
        rw [strip_floatText]
        exact .real hflag hplain hx
      · rename_i hreal
        cases h
        exact ⟨s, rfl, .itself hflag hplain hreal⟩

/-- One text comes back. -/
theorem ComesBackAs.unique {u : String} (h : ComesBackAs s t) (hu : ComesBackAs s u) : t = u := by
  cases h <;> cases hu <;> simp_all

/-- Something is read from a text that comes back. -/
theorem ComesBackAs.readable (h : ComesBackAs s t) : ∃ value, HintValue.ofText s = .ok value := by
  unfold HintValue.ofText
  cases h with
  | flag hflag =>
    rw [hflag]
    exact ⟨_, rfl⟩
  | whole hflag hplain hn =>
    rw [hflag]
    dsimp only
    rw [hplain]
    dsimp only
    rw [hn]
    exact ⟨_, rfl⟩
  | real hflag hplain hx =>
    rw [hflag]
    dsimp only
    rw [hplain, hx]
    exact ⟨_, rfl⟩
  | itself hflag hplain hreal =>
    rw [hflag]
    dsimp only
    rw [hplain, hreal]
    exact ⟨_, rfl⟩

/-- **What comes back of a text is what a hint holds of it**, without blanks at its ends. -/
theorem comesBackAs_iff : ComesBackAs s t ↔
    ∃ value text, HintValue.ofText s = .ok value ∧ value.shown = .ok text ∧ strip text = t := by
  constructor
  · intro h
    obtain ⟨value, hvalue⟩ := h.readable
    obtain ⟨text, htext, hback⟩ := comesBackAs_of_ofText hvalue
    exact ⟨value, text, hvalue, htext, hback.unique h⟩
  · rintro ⟨value, text, hvalue, htext, rfl⟩
    obtain ⟨other, hother, hback⟩ := comesBackAs_of_ofText hvalue
    rw [htext] at hother
    cases hother
    exact hback

/-- **Something comes back of a text exactly when it is not overlong.** -/
theorem exists_comesBackAs : (∃ t, ComesBackAs s t) ↔ ¬ Overlong s := by
  rw [← readable_text, HintValue.Readable, HintValue.ofJson_str]
  constructor
  · intro hfound
    obtain ⟨t, ht⟩ := hfound
    exact ht.readable
  · intro hfound
    obtain ⟨value, hvalue⟩ := hfound
    obtain ⟨text, -, hback⟩ := comesBackAs_of_ofText hvalue
    exact ⟨_, hback⟩

/-- Blanks come back as nothing. -/
theorem comesBackAs_of_blank (h : strip s = "") : ComesBackAs s "" := by
  have hflag : HintValue.flagOfText? s = none := by
    unfold HintValue.flagOfText?
    rw [h]
    decide
  have hitself : ComesBackAs s (strip s) := by
    refine .itself hflag ?_ ?_
    · rw [h]
      decide
    · rw [h]
      decide
  rw [h] at hitself
  exact hitself

/-- **Nothing comes back of blanks, and of them alone.** -/
theorem ComesBackAs.eq_empty_iff (h : ComesBackAs s t) : t = "" ↔ strip s = "" := by
  constructor
  · intro hempty
    cases h with
    | flag hflag =>
      rename_i b
      cases b <;> exact absurd hempty (by decide)
    | whole => exact absurd hempty (toString_ne_empty _)
    | real => exact absurd hempty (floatText_ne_empty _)
    | itself => exact hempty
  · intro hblank
    exact h.unique (comesBackAs_of_blank hblank)

example : ComesBackAs "040" "40" := comesBackAs_iff.mpr ⟨.int 40, "40", rfl, rfl, by decide +kernel⟩

end Waypost
