import Waypost.Proofs.Hints.Query
import Waypost.Proofs.Text.Plain

/-!
# Texts that no hint can be read from

* `Overlong` -- a text of a whole number with more digits than are read;
* `readable_text`, `ofText_eq_error` -- **a text cannot be read as a hint exactly when it is
  overlong**, and the fault tells how many digits it has;
* `overlong_ones` -- there are such texts of every length beyond the limit.
-/

namespace Waypost

open Text Decimal

/-- A text of a whole number with more digits than are read. -/
def Overlong (s : String) : Prop :=
  HintValue.flagOfText? s = none ∧ ∃ negative digits,
    plainInteger? (strip s).toList = some (negative, digits) ∧ digitLimit < digits.length

/-! ## 1. Reading fails on overlong texts alone -/

theorem HintValue.ofText_of_overlong {s : String} (h : Overlong s) :
    ∃ count, digitLimit < count ∧
      HintValue.ofText s = .error (.unexpected (.digitLimit count)) := by
  obtain ⟨hflag, negative, digits, hplain, hlimit⟩ := h
  refine ⟨digits.length, hlimit, ?_⟩
  unfold HintValue.ofText boundedInteger
  rw [hflag]
  dsimp only
  rw [hplain]
  dsimp only
  rw [if_pos hlimit]

theorem HintValue.ofText_eq_error {s : String} {fault : Fault}
    (h : HintValue.ofText s = .error fault) : Overlong s := by
  unfold HintValue.ofText at h
  cases hflag : flagOfText? s with
  | some b =>
    rw [hflag] at h
    cases h
  | none =>
    rw [hflag] at h
    dsimp only at h
    split at h
    · rename_i negative digits hplain
      refine ⟨hflag, negative, digits, hplain, ?_⟩
      by_contra hshort
      unfold boundedInteger at h
      rw [if_neg hshort] at h
      cases h
    · split at h
      · cases h
      · cases h

/-- **A text can be read as a hint exactly when it is not overlong.** -/
theorem readable_text {s : String} : HintValue.Readable (.str s) ↔ ¬ Overlong s := by
  unfold HintValue.Readable
  rw [HintValue.ofJson_str]
  constructor
  · rintro ⟨value, hvalue⟩ hlong
    obtain ⟨count, -, herror⟩ := HintValue.ofText_of_overlong hlong
    rw [herror] at hvalue
    cases hvalue
  · intro hlong
    cases h : HintValue.ofText s with
    | ok value => exact ⟨value, rfl⟩
    | error fault => exact absurd (HintValue.ofText_eq_error h) hlong

/-! ## 2. Query strings -/

/-- **Reading a query string succeeds exactly when no text that counts is overlong.** -/
theorem exists_ofQuery_iff {raw : Grouped} {skip : List String} :
    (∃ hints, Hints.ofQuery raw skip = .ok hints) ↔
      ∀ sent ∈ singleValues raw skip, ¬ Overlong sent.2 := by
  simp only [exists_ofQuery, readable_text]

section Ones

variable (n : Nat)

theorem toList_strip_ones : (strip (String.ofList (List.replicate n '1'))).toList =
    List.replicate n '1' := by
  unfold strip
  rw [String.toList_ofList, String.toList_ofList]
  refine trimBoth_of_outside fun c hc => ?_
  rw [List.eq_of_mem_replicate hc]
  decide

theorem lower_strip_ones : lower (strip (String.ofList (List.replicate n '1'))) =
    String.ofList (List.replicate n '1') := by
  unfold lower
  rw [toList_strip_ones, lowerFrom_of_ascii fun c hc => ?_, List.map_replicate]
  · rfl
  · rw [List.eq_of_mem_replicate hc]
    decide

theorem flagOfText?_ones :
    HintValue.flagOfText? (String.ofList (List.replicate (n + 1) '1')) = none := by
  unfold HintValue.flagOfText?
  dsimp only
  -- the words for truth values begin with other characters
  rw [lower_strip_ones, if_neg, if_neg]
  all_goals
    intro he
    have hhead := congrArg (fun s : String => s.toList.head?) he
    rw [String.toList_ofList, List.replicate_succ, List.head?_cons] at hhead
    revert hhead
    decide +kernel

theorem plainInteger?_ones : plainInteger? (List.replicate (n + 1) '1') =
    some (false, List.replicate (n + 1) '1') := by
  have hascii : asciiDigits (List.replicate (n + 1) '1') = List.replicate (n + 1) '1' := by
    unfold asciiDigits
    rw [List.map_replicate]
    rfl
  have hsign : takeSign (List.replicate (n + 1) '1') = (false, List.replicate (n + 1) '1') := by
    rw [List.replicate_succ]
    rfl
  have hdigits : (List.replicate (n + 1) '1').all (·.isDigit) = true := by
    rw [List.all_eq_true]
    intro c hc
    rw [List.eq_of_mem_replicate hc]
    decide
  unfold plainInteger?
  rw [hascii, hsign]
  dsimp only
  rw [hdigits, List.replicate_succ]
  rfl

/-- A row of ones is overlong from one digit beyond the limit on. -/
theorem overlong_ones {n : Nat} (h : digitLimit < n) :
    Overlong (String.ofList (List.replicate n '1')) := by
  obtain ⟨k, rfl⟩ : ∃ k, n = k + 1 := ⟨n - 1, by omega⟩
  refine ⟨flagOfText?_ones k, false, List.replicate (k + 1) '1', ?_, ?_⟩
  · rw [toList_strip_ones]
    exact plainInteger?_ones k
  · rw [List.length_replicate]
    exact h

end Ones

end Waypost
