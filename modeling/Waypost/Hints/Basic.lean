import Waypost.Hints.Key
import Waypost.Hints.Value

/-!
# Hints

Hints are the loose parameters of a request: a finite map from keys to values that keeps the order
in which keys first came in. All access goes through the normal form of a key, so every spelling
of a key names the same entry.

* `put`, `putDefault?`, `remove` -- the changes;
* `has`, `get?` -- the look-ups;
* `flag?`, `float?`, `text?` -- look-ups that ask for a form and yield nothing when the stored
  value has none;
* `putEach` -- several puts that stop at the first failure and keep what came before.
-/

namespace Waypost

open Text Decimal

/-- Loose parameters in the order of their first appearance. -/
structure Hints where
  entries : List (String × HintValue)
  deriving Repr

namespace Hints

/-- No hints. -/
def empty : Hints := ⟨[]⟩

instance : Inhabited Hints := ⟨empty⟩

/-! ## 1. Changes -/

/-- Writes a value under a key that is already normal: in place, or at the end. -/
def write (key : String) (value : HintValue) :
    List (String × HintValue) → List (String × HintValue)
  | [] => [(key, value)]
  | (k, v) :: rest => if k == key then (k, value) :: rest else (k, v) :: write key value rest

/-- Puts a value that needs no reading. -/
def set (h : Hints) (key : String) (value : HintValue) : Hints :=
  ⟨write (normalizeKey key) value h.entries⟩

/-- Puts a JSON value. -/
def put (h : Hints) (key : String) (value : Json) : Except Fault Hints := do
  return h.set key (← HintValue.ofJson value)

/-- Drops a key. -/
def remove (h : Hints) (key : String) : Hints :=
  ⟨h.entries.filter fun entry => entry.1 != normalizeKey key⟩

/-! ## 2. Look-ups -/

/-- The value under a key. -/
def get? (h : Hints) (key : String) : Option HintValue := h.entries.lookup (normalizeKey key)

/-- Whether there is a value under a key. -/
def has (h : Hints) (key : String) : Bool := (h.get? key).isSome

/-- Puts a JSON value unless the key has one; the value of a key that is there is not read. -/
def putDefault (h : Hints) (key : String) (value : Json) : Except Fault Hints :=
  if h.has key then .ok h else h.put key value

/-- The keys in order. -/
def keys (h : Hints) : List String := h.entries.map (·.1)

/-- The truth value under a key: one that is stored, or the one a stored text names. -/
def flag? (h : Hints) (key : String) : Option Bool :=
  match h.get? key with
  | some (.flag b) => some b
  | some (.text s) => HintValue.flagOfText? s
  | _ => none

/-- The double under a key: a stored number, or the one a stored text spells in generous
    notation. A whole number beyond the range of doubles breaks down. -/
def float? (h : Hints) (key : String) : Except Fault (Option Float) :=
  match h.get? key with
  | some (.int n) => some <$> floatOfInt n
  | some (.float x) => .ok (some x)
  | some (.text s) => .ok (looseFloat? s)
  | _ => .ok none

/-- The text of the value under a key. A whole number with too many digits breaks down. -/
def text? (h : Hints) (key : String) : Except Fault (Option String) :=
  (h.get? key).mapM HintValue.shown

/-! ## 3. Several puts -/

/-- Puts several values one after another up to the first failure. -/
def putEach (h : Hints) : List (String × Json) → Hints × Option Fault
  | [] => (h, none)
  | (key, value) :: rest =>
    match h.put key value with
    | .ok h' => putEach h' rest
    | .error fault => (h, some fault)

/-- Puts several values, or fails at the first failure. -/
def putAll (h : Hints) (values : List (String × Json)) : Except Fault Hints :=
  match h.putEach values with
  | (h', none) => .ok h'
  | (_, some fault) => .error fault

/-- The hints as the members of a JSON object. -/
def toMembers (h : Hints) : Members := h.entries.map fun entry => (entry.1, entry.2.toJson)

/-- Whether hints hold the same keys and equal values as the members of an object. -/
def sameAs (h : Hints) (members : Members) : Bool :=
  h.entries.length == members.length
    && h.entries.all fun entry =>
      match members.get? entry.1 with
      | some value => entry.2.sameAs value
      | none => false

/-! ## 4. First laws -/

@[simp] theorem lookup_write_self (key : String) (value : HintValue)
    (entries : List (String × HintValue)) :
    (write key value entries).lookup key = some value := by
  induction entries with
  | nil => simp [write]
  | cons e rest ih =>
    obtain ⟨k, v⟩ := e
    by_cases h : k = key
    · simp [write, h]
    · simp [write, List.lookup_cons, h, beq_eq_false_iff_ne.2 (Ne.symm h), ih]

theorem lookup_write_of_ne {key other : String} (h : other ≠ key) (value : HintValue)
    (entries : List (String × HintValue)) :
    (write key value entries).lookup other = entries.lookup other := by
  induction entries with
  | nil => simp [write, List.lookup_cons, beq_eq_false_iff_ne.2 h]
  | cons e rest ih =>
    obtain ⟨k, v⟩ := e
    by_cases hk : k = key
    · subst hk
      simp [write, List.lookup_cons, beq_eq_false_iff_ne.2 h]
    · cases ho : other == k <;> simp_all [write, List.lookup_cons]

@[simp] theorem get?_set_self (h : Hints) (key : String) (value : HintValue) :
    (h.set key value).get? key = some value := lookup_write_self _ _ _

theorem get?_set_of_ne (h : Hints) {key other : String}
    (hne : normalizeKey other ≠ normalizeKey key) (value : HintValue) :
    (h.set key value).get? other = h.get? other := lookup_write_of_ne hne _ _

theorem lookup_filter_ne (key : String) (entries : List (String × HintValue)) :
    (entries.filter fun entry => entry.1 != key).lookup key = none := by
  induction entries with
  | nil => rfl
  | cons e rest ih =>
    obtain ⟨k, v⟩ := e
    rw [List.filter_cons]
    split
    · rename_i h
      have hk : (key == k) = false := beq_eq_false_iff_ne.2 fun he => by simp [he] at h
      simp only [List.lookup_cons, hk]
      exact ih
    · exact ih

@[simp] theorem get?_remove_self (h : Hints) (key : String) : (h.remove key).get? key = none :=
  lookup_filter_ne _ _

end Hints

end Waypost
