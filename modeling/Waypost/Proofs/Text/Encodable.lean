import Mathlib.Data.List.Basic
import Mathlib.Data.List.TakeDrop
import Mathlib.Data.List.TakeWhile
import Waypost.Fault.Basic
import Waypost.Proofs.Decimal.Shown

/-!
# Texts that can be encoded

A text can be encoded when no half of a surrogate pair stands in it alone.

* `exists_surrogate_iff` -- halves are held behind their mark, and nothing else is;
* `checkEncoded_eq_ok` -- **the check of a text lets pass the encodable ones**;
* `encodable_append`, `encodable_intercalate` -- texts that are put together;
* `encodable_floatText`, `encodable_toString` -- the texts of numbers are encodable;
* `encodable_message` -- so is what is said about a text that cannot be encoded.
-/

namespace Waypost.Text

open Decimal

/-! ## 1. Halves and their mark -/

theorem isSurrogate_toNat (c : Char) : isSurrogate c.toNat = false := by
  unfold isSurrogate
  have hvalid : c.toNat.isValidChar := c.valid
  unfold Nat.isValidChar at hvalid
  simp only [Bool.and_eq_false_iff, decide_eq_false_iff_not]
  omega

theorem isSurrogate_lonePoint (c : Char) : isSurrogate (lonePoint c) = (c == surrogateMark) := by
  unfold lonePoint
  split
  · rename_i h
    rw [h, beq_self_eq_true]
    decide
  · rename_i h
    rw [isSurrogate_toNat, beq_eq_false_iff_ne.mpr h]

/-- Of a mark and the character behind it, the first tells whether they hold half of a pair, and the
    second is no such mark itself. -/
theorem isSurrogate_markedPoint {mark c : Char} {n : Nat} (h : markedPoint? mark c = some n) :
    isSurrogate n = (mark == surrogateMark) ∧ c ≠ surrogateMark := by
  have hapart : ∀ bound, bound ≤ 0xF000 → c.toNat < bound → c ≠ surrogateMark := by
    rintro bound hbound hc rfl
    exact absurd (hc.trans_le hbound) (by decide)
  unfold markedPoint? at h
  split at h
  · cases h
  rename_i hlow
  split at h
  · rename_i hmark
    rw [Bool.and_eq_true, decide_eq_true_eq, decide_eq_true_eq] at hmark
    obtain ⟨rfl, hhigh⟩ := hmark
    have hn : 0xD800 + (c.toNat - 0xE000) = n := Option.some.inj h
    refine ⟨?_, hapart _ (by decide) hhigh⟩
    rw [beq_self_eq_true, isSurrogate, Bool.and_eq_true, decide_eq_true_eq, decide_eq_true_eq]
    omega
  · split at h
    · rename_i hmark
      rw [Bool.and_eq_true, decide_eq_true_eq, decide_eq_true_eq] at hmark
      obtain ⟨rfl, hhigh⟩ := hmark
      have hn : 0x10FFFE + (c.toNat - 0xE000) = n := Option.some.inj h
      refine ⟨?_, hapart _ (by decide) hhigh⟩
      rw [beq_eq_false_iff_ne.mpr plainMark_ne, isSurrogate, Bool.and_eq_false_iff,
        decide_eq_false_iff_not, decide_eq_false_iff_not]
      omega
    · cases h

/-- **Half of a pair stands among the code points exactly when its mark stands among the characters
    that hold them.** -/
theorem exists_surrogate_iff (cs : List Char) :
    (∃ n ∈ pointsOf cs, isSurrogate n = true) ↔ surrogateMark ∈ cs := by
  match cs with
  | [] => simp only [pointsOf, List.not_mem_nil, false_and, exists_false]
  | [c] =>
    simp only [pointsOf, List.mem_singleton, exists_eq_left, isSurrogate_lonePoint, beq_iff_eq]
    exact eq_comm
  | c :: d :: rest =>
    unfold pointsOf
    split
    · rename_i n hn
      obtain ⟨hfirst, hsecond⟩ := isSurrogate_markedPoint hn
      rw [List.exists_mem_cons_iff, hfirst, exists_surrogate_iff rest, List.mem_cons, List.mem_cons,
        beq_iff_eq, or_iff_right hsecond.symm, eq_comm]
    · rw [List.exists_mem_cons_iff, isSurrogate_lonePoint, exists_surrogate_iff (d :: rest),
        List.mem_cons (a := surrogateMark) (b := c), beq_iff_eq, eq_comm]

/-! ## 2. Encodable texts -/

theorem encodable_iff {s : String} : encodable s = true ↔ surrogateMark ∉ s.toList := by
  unfold encodable
  rw [Bool.not_eq_true', Bool.eq_false_iff, ne_eq, List.contains_iff_mem]

/-- A codec takes a row of code points exactly when it takes each of them. -/
theorem check_eq_ok {codec : Codec} {points : List Nat} :
    codec.check points = .ok () ↔ ∀ n ∈ points, codec.takes n = true := by
  unfold Codec.check
  rw [List.span_eq_takeWhile_dropWhile]
  dsimp only
  rw [← List.dropWhile_eq_nil_iff]
  cases points.dropWhile codec.takes with
  | nil => exact iff_of_true rfl rfl
  | cons n rest => exact iff_of_false nofun nofun

theorem encodable_append (s t : String) : encodable (s ++ t) = (encodable s && encodable t) := by
  rw [Bool.eq_iff_iff, Bool.and_eq_true, encodable_iff, encodable_iff, encodable_iff,
    String.toList_append, List.mem_append, not_or]

/-- Texts that an encodable one joins are encodable together exactly when each is. -/
theorem encodable_intercalate {sep : String} (hsep : encodable sep = true) (texts : List String) :
    encodable (sep.intercalate texts) = texts.all encodable := by
  induction texts with
  | nil => rfl
  | cons text rest ih =>
    cases rest with
    | nil => rw [String.intercalate_singleton, List.all_cons, List.all_nil, Bool.and_true]
    | cons next more =>
      rw [String.intercalate_cons_cons, encodable_append, encodable_append, ih, hsep, Bool.and_true,
        List.all_cons (l := next :: more)]

theorem encodable_of_numeral {s : String} (h : Numeral s.toList) : encodable s = true := by
  rw [encodable_iff]
  intro hmem
  exact absurd (h _ hmem) (by decide)

theorem encodable_floatText (x : Float) : encodable (floatText x) = true :=
  encodable_of_numeral (numeral_floatText x)

theorem encodable_toString (n : Int) : encodable (toString n) = true :=
  encodable_of_numeral (numeral_toString n)

/-! ## 3. What cannot be encoded -/

theorem not_mem_toDigits (n : Nat) : surrogateMark ∉ Nat.toDigits 16 n := by
  induction n using Nat.strongRecOn with
  | ind n ih =>
    by_cases hsmall : n < 16
    · have hdigit : ∀ n < 16, surrogateMark ≠ Nat.digitChar n := by decide
      rw [Nat.toDigits_of_lt_base hsmall, List.mem_singleton]
      exact hdigit n hsmall
    · have hparts := Nat.toDigits_append_toDigits (b := 16) (n := n / 16) (d := n % 16) (by decide)
        (by omega) (Nat.mod_lt n (by decide))
      rw [Nat.div_add_mod] at hparts
      rw [← hparts, List.mem_append, not_or]
      exact ⟨ih (n / 16) (by omega), ih (n % 16) (by omega)⟩

theorem not_mem_hexDigits (width n : Nat) : surrogateMark ∉ hexDigits width n := by
  unfold hexDigits
  dsimp only
  rw [List.mem_append, not_or]
  refine ⟨fun hmem => ?_, not_mem_toDigits n⟩
  exact absurd (List.eq_of_mem_replicate hmem) (by decide)

/-- An escape is written with characters of ASCII. -/
theorem not_mem_escapedPoint (n : Nat) : surrogateMark ∉ escapedPoint n := by
  unfold escapedPoint
  split
  · simp only [List.mem_cons, not_or]
    exact ⟨by decide, by decide, not_mem_hexDigits 2 n⟩
  · split
    · simp only [List.mem_cons, not_or]
      exact ⟨by decide, by decide, not_mem_hexDigits 4 n⟩
    · simp only [List.mem_cons, not_or]
      exact ⟨by decide, by decide, not_mem_hexDigits 8 n⟩

/-- What is said about a text that cannot be encoded can itself be encoded. -/
theorem encodable_message (fault : EncodeFault) : encodable fault.message = true := by
  have hnat : ∀ n : Nat, encodable (toString n) = true := fun n => encodable_toString n
  have hpoint : encodable (String.ofList (escapedPoint fault.first)) = true := by
    rw [encodable_iff, String.toList_ofList]
    exact not_mem_escapedPoint fault.first
  have hcodec : encodable fault.codec.name = true ∧ encodable fault.codec.reason = true := by
    cases fault.codec <;> decide
  unfold EncodeFault.message
  split
  · simp only [encodable_append, hpoint, hcodec, hnat, Bool.and_true]
    decide
  · simp only [encodable_append, hcodec, hnat, Bool.and_true]
    decide

end Waypost.Text

namespace Waypost

open Text

/-- **The check of a text lets pass the encodable ones.** -/
theorem checkEncoded_eq_ok {s : String} : checkEncoded s = .ok () ↔ encodable s = true := by
  have htakes : (∀ n ∈ pointsOf s.toList, Codec.utf8.takes n = true) ↔ encodable s = true := by
    rw [encodable_iff, ← exists_surrogate_iff]
    simp [Codec.takes]
  rw [← htakes, ← check_eq_ok, checkEncoded, checkWritten]
  cases Codec.utf8.check (pointsOf s.toList) with
  | ok u => exact iff_of_true rfl rfl
  | error why => exact iff_of_false nofun nofun

end Waypost
