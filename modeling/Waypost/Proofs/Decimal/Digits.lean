import Mathlib.Algebra.Order.Ring.Nat
import Waypost.Decimal.Reader

/-!
# How many digits a whole number has

* `digitsValue_lt`, `le_digitsValue` -- the value of some digits against their number;
* `fewDigits_iff` -- a whole number can be written exactly when it is below a power of ten;
* `fewDigits_of_boundedInteger` -- **whatever was read from digits can be written again**.
-/

namespace Waypost.Decimal

/-! ## 1. The value of digits -/

/-- The value of further digits behind a number. -/
theorem foldl_digits_between {digits : List Char} (h : ∀ c ∈ digits, c.isDigit = true) (n : Nat) :
    n * 10 ^ digits.length ≤ digits.foldl (fun n c => n * 10 + (c.toNat - 48)) n ∧
      digits.foldl (fun n c => n * 10 + (c.toNat - 48)) n < (n + 1) * 10 ^ digits.length := by
  induction digits generalizing n with
  | nil => exact ⟨by simp, by simp⟩
  | cons c rest ih =>
    obtain ⟨hc, hrest⟩ := List.forall_mem_cons.mp h
    obtain ⟨hlow, hhigh⟩ := ih hrest (n * 10 + (c.toNat - 48))
    have hdigit : c.toNat - 48 ≤ 9 := by
      unfold Char.isDigit at hc
      rw [Bool.and_eq_true, decide_eq_true_eq, decide_eq_true_eq] at hc
      have hlast : c.toNat ≤ 57 := UInt32.le_iff_toNat_le.mp hc.2
      omega
    have hpow : 10 ^ (c :: rest).length = 10 * 10 ^ rest.length := Nat.pow_succ'
    rw [List.foldl_cons, hpow, ← Nat.mul_assoc, ← Nat.mul_assoc]
    exact ⟨(Nat.mul_le_mul_right _ (by omega)).trans hlow,
      hhigh.trans_le (Nat.mul_le_mul_right _ (by omega))⟩

theorem digitsValue_lt {digits : List Char} (h : ∀ c ∈ digits, c.isDigit = true) :
    digitsValue digits < 10 ^ digits.length := by
  have hhigh := (foldl_digits_between h 0).2
  rwa [Nat.zero_add, Nat.one_mul] at hhigh

/-- A number that does not begin with a zero. -/
theorem le_digitsValue {c : Char} {rest : List Char} (h : ∀ d ∈ c :: rest, d.isDigit = true)
    (hc : c ≠ '0') : 10 ^ rest.length ≤ digitsValue (c :: rest) := by
  obtain ⟨hdigit, hrest⟩ := List.forall_mem_cons.mp h
  have hfirst : 1 ≤ c.toNat - 48 := by
    unfold Char.isDigit at hdigit
    rw [Bool.and_eq_true, decide_eq_true_eq, decide_eq_true_eq] at hdigit
    have hleast : 48 ≤ c.toNat := UInt32.le_iff_toNat_le.mp hdigit.1
    have hsome : c.toNat ≠ 48 := fun hzero => hc (Char.toNat_inj.mp hzero)
    omega
  have hlow := (foldl_digits_between hrest (0 * 10 + (c.toNat - 48))).1
  refine Nat.le_trans ?_ hlow
  exact Nat.le_mul_of_pos_left _ (by omega)

/-! ## 2. Few digits -/

theorem fewDigits_iff {n : Int} : fewDigits n = true ↔ n.natAbs < 10 ^ digitLimit := by
  unfold fewDigits
  rw [decide_eq_true_eq]
  exact Nat.length_toDigits_le_iff (by decide) (by decide)

/-- A number of at most so many digits, with or without a minus, can be written. -/
theorem fewDigits_of_lt {n : Int} {size : Nat} (h : n.natAbs < 10 ^ size)
    (hsize : size ≤ digitLimit) : fewDigits n = true :=
  fewDigits_iff.mpr (h.trans_le (Nat.pow_le_pow_right (by decide) hsize))

/-- The least whole number with too many digits. -/
theorem fewDigits_pow_digitLimit : fewDigits (10 ^ digitLimit) = false := by
  have hten : (10 : Int).natAbs = 10 := rfl
  rw [← Bool.not_eq_true, fewDigits_iff, Int.natAbs_pow, hten]
  exact Nat.lt_irrefl _

/-- **Whatever was read from digits can be written again.** -/
theorem fewDigits_of_boundedInteger {negative : Bool} {digits : List Char} {n : Int}
    (hdigits : ∀ c ∈ digits, c.isDigit = true) (h : boundedInteger negative digits = .ok n) :
    fewDigits n = true := by
  unfold boundedInteger at h
  split at h
  · cases h
  · rename_i hshort
    refine fewDigits_of_lt ?_ (Nat.not_lt.mp hshort)
    have hvalue : n.natAbs = digitsValue digits := by
      cases h
      split
      · rw [Int.natAbs_neg, Int.natAbs_natCast]
      · exact Int.natAbs_natCast _
    rw [hvalue]
    exact digitsValue_lt hdigits

/-- The digits of a whole number in plain notation are digits. -/
theorem isDigit_plainInteger {cs digits : List Char} {negative : Bool}
    (h : plainInteger? cs = some (negative, digits)) : ∀ c ∈ digits, c.isDigit = true := by
  unfold plainInteger? at h
  dsimp only at h
  split at h
  · rename_i hall
    cases h
    rw [Bool.and_eq_true, List.all_eq_true] at hall
    exact hall.2
  · cases h

end Waypost.Decimal
