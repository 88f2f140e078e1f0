import Waypost.Text.Case

/-!
# Keys of hints

A key may be written in camel case or with underscores; both name the same hint. The form with
small letters and underscores stands for all of them.

* `camelToUnderscore` -- an underscore before each capital that follows a small letter or digit;
* `normalizeKey` -- the form with underscores, in small letters.
-/

namespace Waypost

open Text

/-- Whether an underscore belongs between a character and a capital that follows it. -/
def endsWord (c : Char) : Bool := c.isLower || c.isDigit

/-- Puts an underscore before each capital that follows a small letter or a digit. The first
    argument says whether the character before is one. -/
def camelToUnderscore (afterWord : Bool) : List Char → List Char
  | [] => []
  | c :: rest =>
    if afterWord && c.isUpper then '_' :: c :: camelToUnderscore (endsWord c) rest
    else c :: camelToUnderscore (endsWord c) rest

/-- The form of a key that stands for all its spellings. -/
def normalizeKey (key : String) : String :=
  String.ofList (lowerFrom [] (camelToUnderscore false key.toList))

end Waypost
