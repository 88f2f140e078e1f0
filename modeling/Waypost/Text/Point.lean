/-!
# Code points of texts

A text is a row of code points, and halves of surrogate pairs that stand alone may be among them.
No character stands for such a half, so it is held as two characters: a mark, and behind it a
character of private use that tells which half it is. The two characters that serve as marks are
held as two characters as well, behind a mark of their own. All other code points are held as
their characters.

* `isSurrogate` and `pairPoint?` -- halves of surrogate pairs, and what a whole pair stands for;
* `heldPoint` and `heldText` -- the characters that hold a code point, and those of a text;
* `pointsOf` -- the code points that characters hold (`pointsOf_heldPoints`);
* `encodable` -- whether a text can be encoded, which no half of a pair can.
-/

namespace Waypost.Text

/-! ## 1. Held code points -/

/-- Whether a code point is half of a surrogate pair. -/
def isSurrogate (n : Nat) : Bool := 0xD800 ≤ n && n ≤ 0xDFFF

/-- The code point of two code units that form a surrogate pair. -/
def pairPoint? (high low : Nat) : Option Nat :=
  if 0xD800 ≤ high && high ≤ 0xDBFF && 0xDC00 ≤ low && low ≤ 0xDFFF then
    some (0x10000 + (high - 0xD800) * 0x400 + (low - 0xDC00))
  else none

/-- The mark in front of half of a surrogate pair. -/
def surrogateMark : Char := Char.ofNat 0x10FFFF

/-- The mark in front of a character that serves as a mark. -/
def plainMark : Char := Char.ofNat 0x10FFFE

/-- The characters that hold a code point. -/
def heldPoint (n : Nat) : List Char :=
  if isSurrogate n then [surrogateMark, Char.ofNat (0xE000 + (n - 0xD800))]
  else if 0x10FFFE ≤ n then [plainMark, Char.ofNat (0xE000 + (n - 0x10FFFE))]
  else [Char.ofNat n]

/-- The text of some characters, each of which stands for itself. -/
def heldText (cs : List Char) : String := String.ofList (cs.flatMap fun c => heldPoint c.toNat)

/-- The code point that a mark and the character behind it hold. -/
def markedPoint? (mark c : Char) : Option Nat :=
  if c.toNat < 0xE000 then none
  else if mark = surrogateMark && c.toNat < 0xE800 then some (0xD800 + (c.toNat - 0xE000))
  else if mark = plainMark && c.toNat < 0xE002 then some (0x10FFFE + (c.toNat - 0xE000))
  else none

/-- The code point of a character that marks nothing. A mark in front of half of a pair is one
    itself, whatever stands behind it. -/
def lonePoint (c : Char) : Nat := if c = surrogateMark then 0xDFFF else c.toNat

/-- The code points that characters hold. -/
def pointsOf : List Char → List Nat
  | [] => []
  | [c] => [lonePoint c]
  | c :: d :: rest =>
    match markedPoint? c d with
    | some n => n :: pointsOf rest
    | none => lonePoint c :: pointsOf (d :: rest)

/-- How many code points a character adds to those in front of it. A mark and the character behind
    it are one code point. -/
def pointWidth (c : Char) : Nat := if c = surrogateMark || c = plainMark then 0 else 1

/-- The texts of the single code points of a text. -/
def singlePoints (s : String) : List String :=
  (pointsOf s.toList).map fun n => String.ofList (heldPoint n)

/-- How many code points a text has. -/
def pointCount (s : String) : Nat := (pointsOf s.toList).length

/-- Whether a text can be encoded: no half of a surrogate pair stands in it. -/
def encodable (s : String) : Bool := !s.toList.contains surrogateMark

/-! ## 2. Laws -/

theorem toNat_ofNat_of_valid {n : Nat} (h : n.isValidChar) : (Char.ofNat n).toNat = n :=
  congrArg Char.toNat (dif_pos h)

theorem plainMark_ne : plainMark ≠ surrogateMark := by decide

theorem pointsOf_cons_of_plain {c : Char} (hs : c ≠ surrogateMark) (hp : c ≠ plainMark)
    (rest : List Char) : pointsOf (c :: rest) = c.toNat :: pointsOf rest := by
  have hnone : ∀ d, markedPoint? c d = none := by
    intro d
    unfold markedPoint?
    simp [hs, hp]
  cases rest with
  | nil => simp [pointsOf, lonePoint, hs]
  | cons d rest => simp [pointsOf, lonePoint, hs, hnone]

theorem pointsOf_cons_of_marked {mark c : Char} {n : Nat} (h : markedPoint? mark c = some n)
    (rest : List Char) : pointsOf (mark :: c :: rest) = n :: pointsOf rest := by
  simp [pointsOf, h]

theorem pointsOf_eq_nil {cs : List Char} : pointsOf cs = [] ↔ cs = [] := by
  match cs with
  | [] => simp [pointsOf]
  | [c] => simp [pointsOf]
  | c :: d :: rest =>
    unfold pointsOf
    split <;> simp

/-- What holds a code point holds it in front of any rest. -/
theorem pointsOf_heldPoint {n : Nat} (h : n < 0x110000) (rest : List Char) :
    pointsOf (heldPoint n ++ rest) = n :: pointsOf rest := by
  unfold heldPoint
  split
  · rename_i hs
    simp only [isSurrogate, Bool.and_eq_true, decide_eq_true_eq] at hs
    have hvalid : (0xE000 + (n - 0xD800)).isValidChar := by
      unfold Nat.isValidChar
      omega
    refine pointsOf_cons_of_marked ?_ rest
    unfold markedPoint?
    rw [toNat_ofNat_of_valid hvalid, if_neg (by omega), if_pos (by simp; omega)]
    exact congrArg some (by omega)
  · rename_i hs
    have hout : ¬ (0xD800 ≤ n ∧ n ≤ 0xDFFF) := by simpa [isSurrogate] using hs
    split
    · have hvalid : (0xE000 + (n - 0x10FFFE)).isValidChar := by
        unfold Nat.isValidChar
        omega
      refine pointsOf_cons_of_marked ?_ rest
      unfold markedPoint?
      rw [toNat_ofNat_of_valid hvalid, if_neg (by omega), if_neg (by simp [plainMark_ne]),
        if_pos (by simp; omega)]
      exact congrArg some (by omega)
    · have hvalid : n.isValidChar := by
        unfold Nat.isValidChar
        omega
      have hpoint : (Char.ofNat n).toNat = n := toNat_ofNat_of_valid hvalid
      have hplain : ∀ mark : Char, 0x10FFFE ≤ mark.toNat → Char.ofNat n ≠ mark := by
        rintro mark hmark rfl
        omega
      rw [List.singleton_append, pointsOf_cons_of_plain (hplain _ (by decide)) (hplain _ (by decide)),
        hpoint]

/-- **What holds a row of code points holds that row**: no two rows are held in the same way. -/
theorem pointsOf_heldPoints {ns : List Nat} (h : ∀ n ∈ ns, n < 0x110000) :
    pointsOf (ns.flatMap heldPoint) = ns := by
  induction ns with
  | nil => rfl
  | cons n rest ih =>
    rw [List.forall_mem_cons] at h
    rw [List.flatMap_cons, pointsOf_heldPoint h.1, ih h.2]

end Waypost.Text
