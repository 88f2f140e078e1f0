/-!
# Cutting texts

* `splitOn` -- the pieces of a list between the occurrences of a separator, always at least one;
* `splitText` -- the same on texts;
* `occursIn` -- whether one list is a block of another.
-/

namespace Waypost.Text

/-- The pieces between the separators, in order. -/
def splitOn [BEq α] (sep : α) : List α → List (List α)
  | [] => [[]]
  | x :: rest =>
    if x == sep then [] :: splitOn sep rest
    else
      match splitOn sep rest with
      | [] => [[x]]
      | piece :: pieces => (x :: piece) :: pieces

theorem splitOn_ne_nil [BEq α] (sep : α) (xs : List α) : splitOn sep xs ≠ [] := by
  induction xs with
  | nil => simp [splitOn]
  | cons x rest ih =>
    unfold splitOn
    split
    · simp
    · split <;> simp

/-- The pieces of a text between the occurrences of a character. -/
def splitText (sep : Char) (s : String) : List String :=
  (splitOn sep s.toList).map String.ofList

/-- Whether the first list stands somewhere inside the second as one block. -/
def occursIn [BEq α] (block : List α) : List α → Bool
  | [] => block.isEmpty
  | x :: rest => block.isPrefixOf (x :: rest) || occursIn block rest

/-- Whether the first text stands somewhere inside the second. -/
def within (block s : String) : Bool := occursIn block.toList s.toList

/-- Drops every copy of a character from the end of a text. -/
def dropEnd (c : Char) (s : String) : String :=
  String.ofList (s.toList.reverse.dropWhile (· == c)).reverse

end Waypost.Text
