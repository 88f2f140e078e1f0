import Mathlib.Algebra.Order.Ring.Nat
import Mathlib.Data.List.TakeWhile
import Waypost.Decimal.Shortest
import Waypost.Proofs.Text.Plain

/-!
# The texts of numbers

The text of a number is never empty and holds no blanks, so stripping it changes nothing.

* `AtLeast` -- a quotient that reaches a power of ten; the leading digit stands at the largest such
  power (`atLeast_leadingExponent`);
* `shortestDigits_pos` -- **a double that is not zero has a digit**;
* `Numeral` -- the characters that the text of a number may have, none of which is a blank;
* `strip_floatText`, `floatText_ne_empty`, `strip_toString`, `toString_ne_empty` -- **the text of a
  number is kept by stripping, and it is not empty**.
-/

namespace Waypost.Decimal

open Waypost.Text

/-! ## 1. Leading digits -/

/-- A quotient that is at least `10 ^ scale`, multiplied out. -/
def AtLeast (num den : Nat) (scale : Int) : Prop :=
  den * 10 ^ scale.toNat ≤ num * 10 ^ (-scale).toNat

section Leading

variable {num den : Nat}

theorem AtLeast.pred {scale : Int} (h : AtLeast num den scale) : AtLeast num den (scale - 1) := by
  unfold AtLeast at h ⊢
  by_cases hscale : 0 < scale
  · obtain ⟨s, rfl⟩ : ∃ s : Nat, scale = s + 1 := ⟨(scale - 1).toNat, by omega⟩
    have hs : ((s : Int) + 1).toNat = s + 1 := rfl
    have hneg : (-((s : Int) + 1)).toNat = 0 := by omega
    have hpred : ((s : Int) + 1 - 1).toNat = s := by omega
    have hnegPred : (-((s : Int) + 1 - 1)).toNat = 0 := by omega
    rw [hs, hneg, Nat.pow_succ, ← Nat.mul_assoc] at h
    rw [hpred, hnegPred]
    omega
  · have hzero : scale.toNat = 0 := by omega
    have hpred : (scale - 1).toNat = 0 := by omega
    have hneg : (-(scale - 1)).toNat = (-scale).toNat + 1 := by omega
    rw [hzero] at h
    rw [hpred, hneg, Nat.pow_succ, ← Nat.mul_assoc]
    omega

theorem lt_pow_digitCount (n : Nat) : n < 10 ^ digitCount n :=
  (Nat.length_repr_le_iff Nat.length_repr_pos).mp (Nat.le_refl _)

theorem pow_digitCount_le {n : Nat} (h : 0 < n) : 10 ^ (digitCount n - 1) ≤ n := by
  by_cases hone : digitCount n - 1 = 0
  · rw [hone]
    exact h
  · rw [← Nat.not_lt, ← Nat.length_repr_le_iff (Nat.pos_of_ne_zero hone)]
    show ¬ digitCount n ≤ digitCount n - 1
    omega

/-- **A quotient reaches the power of ten of its leading digit.** -/
theorem atLeast_leadingExponent (hnum : 0 < num) :
    AtLeast num den (leadingExponent num den) := by
  have hpos : 0 < digitCount num := Nat.length_repr_pos
  have hlow := pow_digitCount_le hnum
  have hhigh := lt_pow_digitCount den
  unfold AtLeast leadingExponent
  dsimp only
  generalize digitCount num = a at *
  generalize digitCount den = b at *
  split
  · rename_i hle
    have ha : ((a : Int) - b).toNat = a - b := by omega
    have hb : (-((a : Int) - b)).toNat = b - a := by omega
    rw [ha, hb]
    exact hle
  · -- a number of fewer digits is smaller
    have ha : ((a : Int) - b - 1).toNat = a - b - 1 := by omega
    have hb : (-((a : Int) - b - 1)).toNat = b + 1 - a := by omega
    rw [ha, hb]
    calc den * 10 ^ (a - b - 1) ≤ 10 ^ b * 10 ^ (a - b - 1) :=
          Nat.mul_le_mul_right _ (Nat.le_of_lt hhigh)
      _ = 10 ^ (a - 1) * 10 ^ (b + 1 - a) := by
          rw [← Nat.pow_add, ← Nat.pow_add]
          congr 1
          omega
      _ ≤ num * 10 ^ (b + 1 - a) := Nat.mul_le_mul_right _ hlow

theorem gridBelow_pos (hden : 0 < den) {scale : Int} (h : AtLeast num den scale) :
    0 < (gridBelow num den scale).1 := by
  unfold AtLeast at h
  unfold gridBelow
  cases scale with
  | ofNat s =>
    have hle : den * 10 ^ s ≤ num := by simpa using h
    exact Nat.div_pos hle (Nat.mul_pos hden (Nat.pow_pos (by decide)))
  | negSucc s =>
    have hle : den ≤ num * 10 ^ (s + 1) := by simpa using h
    exact Nat.div_pos hle hden

end Leading

/-- The number that is taken from a grid is one of the two neighbours. -/
theorem onGrid?_ge {i : Interval} {scale : Int} {n : Nat} (h : onGrid? i scale = some n) :
    (gridBelow i.value i.den scale).1 ≤ n := by
  unfold onGrid? at h
  dsimp only at h
  split at h
  · split at h
    · cases h
      exact Nat.le_refl _
    · cases h
      exact Nat.le_succ _
    · cases h
      split
      · exact Nat.le_refl _
      · exact Nat.le_succ _
  · cases h
    exact Nat.le_refl _
  · cases h
    exact Nat.le_succ _
  · cases h

theorem firstGrid_pos {i : Interval} (hden : 0 < i.den) {scale : Int}
    (h : AtLeast i.value i.den scale) (left : Nat) : 0 < (firstGrid i scale left).1 := by
  induction left generalizing scale with
  | zero => exact gridBelow_pos hden h
  | succ left ih =>
    unfold firstGrid
    split
    · rename_i n hn
      exact Nat.lt_of_lt_of_le (gridBelow_pos hden h) (onGrid?_ge hn)
    · exact ih h.pred

theorem fraction_num_pos {mantissa : Nat} (h : 0 < mantissa) (exponent : Int) (places : Nat) :
    0 < (fraction mantissa exponent places).1 := by
  unfold fraction
  split
  · exact Nat.mul_pos (Nat.mul_pos h (Nat.two_pow_pos _)) (Nat.pow_pos (by decide))
  · exact Nat.mul_pos h (Nat.pow_pos (by decide))

/-- **A double that is not zero has a digit.** -/
theorem shortestDigits_pos {mantissa : Nat} (h : mantissa ≠ 0) (exponent : Int) :
    0 < (shortestDigits mantissa exponent).1 := by
  have hvalue : 0 < (Interval.of mantissa exponent).value :=
    fraction_num_pos (Nat.mul_pos (by decide) (Nat.pos_of_ne_zero h)) exponent 0
  have hden : 0 < (Interval.of mantissa exponent).den :=
    Nat.mul_pos (by decide) (fraction_den_pos _ exponent 0)
  exact firstGrid_pos hden (atLeast_leadingExponent hvalue) 17

/-! ## 2. Characters of numbers -/

/-- A character that the text of a number may have. -/
def isNumeral (c : Char) : Bool :=
  c.isDigit || ['.', 'e', '+', '-', 'i', 'n', 'f', 'a'].contains c

/-- Characters each of which the text of a number may have. -/
def Numeral (cs : List Char) : Prop := ∀ c ∈ cs, isNumeral c = true

instance (cs : List Char) : Decidable (Numeral cs) :=
  List.decidableBAll (fun c => isNumeral c = true) cs

theorem Numeral.append {cs rest : List Char} (h : Numeral cs) (hrest : Numeral rest) :
    Numeral (cs ++ rest) :=
  List.forall_mem_append.mpr ⟨h, hrest⟩

theorem Numeral.cons {c : Char} {rest : List Char} (h : isNumeral c = true)
    (hrest : Numeral rest) : Numeral (c :: rest) :=
  List.forall_mem_cons.mpr ⟨h, hrest⟩

theorem Numeral.of_subset {cs rest : List Char} (h : Numeral cs) (hsub : ∀ c ∈ rest, c ∈ cs) :
    Numeral rest := fun c hc => h c (hsub c hc)

theorem numeral_replicate {c : Char} (h : isNumeral c = true) (n : Nat) :
    Numeral (List.replicate n c) := by
  intro other hother
  rw [List.eq_of_mem_replicate hother]
  exact h

theorem isBlank_of_isDigit {c : Char} (h : c.isDigit = true) : isBlank c = false := by
  unfold Char.isDigit at h
  rw [Bool.and_eq_true, decide_eq_true_eq, decide_eq_true_eq] at h
  have hlow : 48 ≤ c.toNat := UInt32.le_iff_toNat_le.mp h.1
  have hhigh : c.toNat ≤ 57 := UInt32.le_iff_toNat_le.mp h.2
  rw [Bool.eq_false_iff]
  intro hblank
  unfold isBlank isSpace at hblank
  simp only [Bool.or_eq_true, Bool.and_eq_true, decide_eq_true_eq, beq_iff_eq] at hblank
  omega

/-- No number holds a blank. -/
theorem isBlank_of_isNumeral {c : Char} (h : isNumeral c = true) : isBlank c = false := by
  unfold isNumeral at h
  rw [Bool.or_eq_true, List.contains_iff_mem] at h
  rcases h with hdigit | hmark
  · exact isBlank_of_isDigit hdigit
  · have hmarks : ['.', 'e', '+', '-', 'i', 'n', 'f', 'a'].all (!isBlank ·) = true := by decide
    have hblank := List.all_eq_true.mp hmarks c hmark
    rwa [Bool.not_eq_true'] at hblank

theorem numeral_repr (n : Nat) : Numeral (Nat.repr n).toList := by
  intro c hc
  rw [Nat.toList_repr] at hc
  unfold isNumeral
  rw [Nat.isDigit_of_mem_toDigits (by decide) (by decide) hc, Bool.true_or]

theorem numeral_zeroPadded (width n : Nat) : Numeral (zeroPadded width n).toList := by
  unfold zeroPadded
  rw [String.toList_append, String.toList_ofList]
  exact (numeral_replicate (by decide) _).append (numeral_repr n)

theorem numeral_positional {digits : List Char} (h : Numeral digits) (point : Int) :
    Numeral (positional digits point) := by
  unfold positional
  split
  · split
    · exact Numeral.cons (by decide) (Numeral.cons (by decide) h)
    · split
      · exact (h.append (numeral_replicate (by decide) _)).append (by decide)
      · exact (h.of_subset fun _ => List.mem_of_mem_take).append
          (Numeral.cons (by decide) (h.of_subset fun _ => List.mem_of_mem_drop))
  · exact Numeral.cons (by decide) (Numeral.cons (by decide)
      ((numeral_replicate (by decide) _).append h))

theorem numeral_scientific {digits : List Char} (h : Numeral digits) (exponent : Int) :
    Numeral (scientific digits exponent) := by
  have hpower : Numeral ('e' :: (if exponent < 0 then '-' else '+') ::
      (zeroPadded 2 exponent.natAbs).toList) := by
    refine Numeral.cons (by decide) (Numeral.cons ?_ (numeral_zeroPadded 2 _))
    split <;> decide
  match digits with
  | [] => exact h
  | [_] => exact h.append hpower
  | d :: e :: more =>
    obtain ⟨hd, hmore⟩ := List.forall_mem_cons.mp h
    exact Numeral.cons hd (Numeral.cons (by decide) (Numeral.append hmore hpower))

theorem numeral_digitsText (n : Nat) (scale : Int) : Numeral (digitsText n scale) := by
  have hkept : Numeral (dropZeros (Nat.repr n).toList) := by
    refine (numeral_repr n).of_subset fun c hc => ?_
    unfold dropZeros at hc
    exact List.mem_reverse.mp
      ((List.dropWhile_sublist _).mem (List.mem_reverse.mp hc))
  unfold digitsText
  dsimp only
  split
  · exact numeral_positional hkept _
  · exact numeral_scientific hkept _

/-- A number that is not zero has a digit that is kept. -/
theorem dropZeros_repr_ne_nil {n : Nat} (h : 0 < n) : dropZeros (Nat.repr n).toList ≠ [] := by
  intro hnil
  unfold dropZeros at hnil
  rw [List.reverse_eq_nil_iff, List.dropWhile_eq_nil_iff] at hnil
  have hzeros : (Nat.repr n).toList = List.replicate (Nat.repr n).toList.length '0' :=
    List.eq_replicate_iff.mpr ⟨rfl, fun c hc => beq_iff_eq.mp (hnil c (List.mem_reverse.mpr hc))⟩
  have hvalue : Nat.ofDigitChars 10 (Nat.repr n).toList 0 = n := by
    rw [Nat.toList_repr, Nat.ofDigitChars_ten_toDigits]
  rw [hzeros, Nat.ofDigitChars_replicate_zero, Nat.mul_zero] at hvalue
  omega

theorem digitsText_ne_nil {n : Nat} (h : 0 < n) (scale : Int) : digitsText n scale ≠ [] := by
  have hkept := dropZeros_repr_ne_nil h
  unfold digitsText
  dsimp only
  generalize dropZeros (Nat.repr n).toList = kept at *
  split
  · unfold positional
    split
    · split
      · exact List.cons_ne_nil _ _
      · split
        · exact List.append_ne_nil_of_right_ne_nil _ (List.cons_ne_nil _ _)
        · exact List.append_ne_nil_of_right_ne_nil _ (List.cons_ne_nil _ _)
    · exact List.cons_ne_nil _ _
  · match kept with
    | [] => exact absurd rfl hkept
    | [_] => exact List.cons_ne_nil _ _
    | _ :: _ :: _ => exact List.cons_ne_nil _ _

/-! ## 3. The texts of numbers -/

/-- Stripping keeps the text of a number. -/
theorem strip_of_numeral {s : String} (h : Numeral s.toList) : strip s = s := by
  unfold strip
  rw [trimBoth_of_outside fun c hc => isBlank_of_isNumeral (h c hc), String.ofList_toList]

theorem numeral_floatText (x : Float) : Numeral (floatText x).toList := by
  unfold floatText
  split
  · decide
  · split <;> decide
  · dsimp only
    split
    · rw [String.toList_append]
      refine Numeral.append ?_ (by decide)
      split <;> decide
    · rw [String.toList_append, String.toList_ofList]
      refine Numeral.append ?_ (numeral_digitsText _ _)
      split <;> decide

/-- **Stripping keeps the text of a double.** -/
theorem strip_floatText (x : Float) : strip (floatText x) = floatText x :=
  strip_of_numeral (numeral_floatText x)

/-- **The text of a double is not empty.** -/
theorem floatText_ne_empty (x : Float) : floatText x ≠ "" := by
  unfold floatText
  split
  · decide
  · split <;> decide
  · rename_i negative m q _
    dsimp only
    intro hempty
    split at hempty
    · have hzero := (String.append_eq_empty_iff.mp hempty).2
      exact absurd hzero (by decide)
    · rename_i hm
      have hdigits := (String.append_eq_empty_iff.mp hempty).2
      have hnil := congrArg String.toList hdigits
      rw [String.toList_ofList] at hnil
      exact digitsText_ne_nil (shortestDigits_pos hm q) _ hnil

theorem toString_int (n : Int) :
    toString n = (if n < 0 then "-" else "") ++ Nat.repr n.natAbs := by
  rw [Int.toString_eq_repr, Int.repr_eq_if]
  by_cases hneg : n < 0
  · have habs : (-n).toNat = n.natAbs := by omega
    rw [if_neg (by omega), if_pos hneg, habs]
  · have habs : n.toNat = n.natAbs := by omega
    rw [if_pos (by omega), if_neg hneg, habs, String.empty_append]

theorem numeral_toString (n : Int) : Numeral (toString n).toList := by
  rw [toString_int, String.toList_append]
  refine Numeral.append ?_ (numeral_repr _)
  split <;> decide

/-- **Stripping keeps the text of a whole number.** -/
theorem strip_toString (n : Int) : strip (toString n) = toString n :=
  strip_of_numeral (numeral_toString n)

/-- **The text of a whole number is not empty.** -/
theorem toString_ne_empty (n : Int) : toString n ≠ "" := by
  intro hempty
  rw [toString_int] at hempty
  have hrepr := (String.append_eq_empty_iff.mp hempty).2
  have hlength : 0 < (Nat.repr n.natAbs).length := Nat.length_repr_pos
  rw [hrepr] at hlength
  exact absurd hlength (by decide)

end Waypost.Decimal
