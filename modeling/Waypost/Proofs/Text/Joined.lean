import Waypost.Text.Split

/-!
# Texts joined by a character

* `splitText_intercalate` -- **pieces that do not hold a character are read back from the text that
  it joins**;
* `getLast?_splitText_append` -- what stands behind a character that it does not hold itself is the
  last piece.
-/

namespace Waypost.Text

theorem splitOn_eq [BEq α] (sep : α) (xs : List α) : splitOn sep xs = List.splitOn sep xs := by
  induction xs with
  | nil => rfl
  | cons x rest ih =>
    rw [List.splitOn_cons_eq_if_modifyHead, ← ih, splitOn]
    split
    · rfl
    · split
      · rename_i hnone
        exact absurd hnone (splitOn_ne_nil sep rest)
      · rename_i hpieces
        rw [hpieces]
        rfl

/-- **Pieces are read back from the text that a character joins** when none of them holds it. -/
theorem splitText_intercalate {sep : Char} {pieces : List String}
    (hsep : ∀ piece ∈ pieces, sep ∉ piece.toList) (hne : pieces ≠ []) :
    splitText sep ((String.singleton sep).intercalate pieces) = pieces := by
  have hlists : ∀ cs ∈ pieces.map String.toList, sep ∉ cs := by
    intro cs hcs
    obtain ⟨piece, hmem, rfl⟩ := List.mem_map.mp hcs
    exact hsep piece hmem
  have hmap : pieces.map String.toList ≠ [] := mt List.map_eq_nil_iff.mp hne
  unfold splitText
  rw [splitOn_eq, String.toList_intercalate, String.toList_singleton,
    List.splitOn_intercalate sep hlists hmap, List.map_map]
  exact (List.map_congr_left fun piece _ => String.ofList_toList).trans (List.map_id pieces)

/-- What stands behind a character and does not hold it is the last piece. -/
theorem getLast?_splitText_append {sep : Char} {s : String} (hsep : sep ∉ s.toList)
    (before : String) :
    (splitText sep (before ++ String.singleton sep ++ s)).getLast? = some s := by
  unfold splitText
  rw [splitOn_eq, String.toList_append, String.toList_append, String.toList_singleton,
    List.append_assoc, List.singleton_append, List.splitOn_append_cons_self,
    List.splitOn_eq_singleton hsep, List.map_append, List.getLast?_append, List.map_singleton,
    String.ofList_toList]
  rfl

/-- A joined text holds nothing but what its pieces hold and what joins them. -/
theorem not_mem_intercalate {c sep : Char} {pieces : List String} (hne : c ≠ sep)
    (h : ∀ piece ∈ pieces, c ∉ piece.toList) :
    c ∉ ((String.singleton sep).intercalate pieces).toList := by
  induction pieces with
  | nil => exact List.not_mem_nil
  | cons piece rest ih =>
    obtain ⟨hfirst, hrest⟩ := List.forall_mem_cons.mp h
    cases rest with
    | nil =>
      rw [String.intercalate_singleton]
      exact hfirst
    | cons next more =>
      rw [String.intercalate_cons_cons, String.toList_append, String.toList_append,
        String.toList_singleton, List.mem_append, List.mem_append, List.mem_singleton]
      rintro ((hc | hc) | hc)
      · exact hfirst hc
      · exact hne hc
      · exact ih hrest hc

end Waypost.Text
