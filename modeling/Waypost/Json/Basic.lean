/-!
# JSON values

* `Json` -- a value as a reader sees it: whole numbers and doubles stay apart, and an object keeps
  its members in the order of their first appearance;
* `Members` -- the members of an object, with look-up (`get?`) and replacement in place (`set`);
* `Json.truthy` -- whether a value counts as present;
* `Json.finiteOnly` -- a value with null in the place of each infinity and NaN.
-/

namespace Waypost

/-- A JSON value. -/
inductive Json where
  | null
  | bool (b : Bool)
  | int (n : Int)
  | float (x : Float)
  | str (s : String)
  | arr (items : List Json)
  | obj (members : List (String × Json))
  deriving Inhabited, Repr

/-- The members of an object, in order. -/
abbrev Members := List (String × Json)

/-! ## 1. Members -/

/-- The value under a key. -/
def Members.get? (members : Members) (key : String) : Option Json := members.lookup key

/-- Puts a value under a key: in place of the one that is there, else at the end. -/
def Members.set (key : String) (value : Json) : Members → Members
  | [] => [(key, value)]
  | (k, v) :: rest =>
    if k == key then (k, value) :: rest else (k, v) :: Members.set key value rest

/-- Puts several members one after another. -/
def Members.update (members extra : Members) : Members :=
  extra.foldl (fun acc member => acc.set member.1 member.2) members

@[simp] theorem Members.get?_set_self (key : String) (value : Json) (members : Members) :
    (members.set key value).get? key = some value := by
  induction members with
  | nil => simp [Members.set, Members.get?]
  | cons m rest ih =>
    obtain ⟨k, v⟩ := m
    by_cases h : k = key
    · simp [Members.set, Members.get?, h]
    · have hk : (key == k) = false := beq_eq_false_iff_ne.2 (Ne.symm h)
      simpa [Members.set, Members.get?, List.lookup_cons, h, hk] using ih

theorem Members.get?_set_of_ne {key other : String} (h : other ≠ key) (value : Json)
    (members : Members) : (members.set key value).get? other = members.get? other := by
  induction members with
  | nil => simp [Members.set, Members.get?, List.lookup_cons, beq_eq_false_iff_ne.2 h]
  | cons m rest ih =>
    obtain ⟨k, v⟩ := m
    by_cases hk : k = key
    · subst hk
      simp [Members.set, Members.get?, List.lookup_cons, beq_eq_false_iff_ne.2 h]
    · cases ho : other == k <;> simp_all [Members.set, Members.get?, List.lookup_cons]

/-! ## 2. Presence -/

/-- A value counts as present unless it is null, false, a zero, or empty. -/
def Json.truthy : Json → Bool
  | .null => false
  | .bool b => b
  | .int n => n != 0
  | .float x => x != 0.0
  | .str s => !s.isEmpty
  | .arr items => !items.isEmpty
  | .obj members => !members.isEmpty

/-! ## 3. Finite numbers -/

mutual

/-- A value in which null stands for each infinity and NaN. -/
def Json.finiteOnly : Json → Json
  | .float x => if x.isFinite then .float x else .null
  | .arr items => .arr (finiteItems items)
  | .obj members => .obj (finiteMembers members)
  | value => value

/-- A list of values in which null stands for each infinity and NaN. -/
def finiteItems : List Json → List Json
  | [] => []
  | item :: rest => item.finiteOnly :: finiteItems rest

/-- Members in which null stands for each infinity and NaN. -/
def finiteMembers : List (String × Json) → List (String × Json)
  | [] => []
  | (key, value) :: rest => (key, value.finiteOnly) :: finiteMembers rest

end

end Waypost
