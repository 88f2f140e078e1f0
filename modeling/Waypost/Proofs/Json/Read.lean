import Mathlib.Data.List.TakeDrop
import Mathlib.Data.List.TakeWhile
import Waypost.Json.Shape
import Waypost.Proofs.Decimal.Digits
import Waypost.Proofs.Fault.Steps

/-!
# Whole numbers inside values

A value has a text as long as every whole number inside it has few digits. Reading gives no other
values: a text of a value is refused where a whole number in it has too many digits.

* `Json.brief` -- a value without long whole numbers;
* `Json.text_eq_error` -- **a value has no text exactly when it is not brief**;
* `Frame.Brief`, `Expected.Brief`, `Lexeme.Brief` -- the same for what a reader has at hand;
* `brief_readLexemes` -- one lexeme after another keeps it;
* `Json.brief_of_read` -- **a value that was read is brief**.
-/

namespace Waypost

open Decimal

mutual

/-- Whether every whole number in a value has few digits. -/
def Json.brief : Json → Bool
  | .int n => fewDigits n
  | .arr items => itemsBrief items
  | .obj members => membersBrief members
  | _ => true

/-- Whether every item is without long whole numbers. -/
def itemsBrief : List Json → Bool
  | [] => true
  | item :: rest => item.brief && itemsBrief rest

/-- Whether every member is without long whole numbers. -/
def membersBrief : List (String × Json) → Bool
  | [] => true
  | (_, value) :: rest => value.brief && membersBrief rest

end

/-! ## 1. Parts -/

theorem itemsBrief_iff {items : List Json} :
    itemsBrief items = true ↔ ∀ item ∈ items, item.brief = true := by
  induction items with
  | nil => simp [itemsBrief]
  | cons item rest ih => simp [itemsBrief, ih]

theorem membersBrief_iff {members : Members} :
    membersBrief members = true ↔ ∀ member ∈ members, member.2.brief = true := by
  induction members with
  | nil => simp [membersBrief]
  | cons member rest ih => simp [membersBrief, ih]

theorem membersBrief_set {members : Members} {key : String} {value : Json}
    (h : membersBrief members = true) (hvalue : value.brief = true) :
    membersBrief (members.set key value) = true := by
  induction members with
  | nil => exact membersBrief_iff.mpr (List.forall_mem_singleton.mpr hvalue)
  | cons member rest ih =>
    rw [membersBrief, Bool.and_eq_true] at h
    unfold Members.set
    split
    · rw [membersBrief, hvalue, h.2, Bool.and_true]
    · rw [membersBrief, h.1, ih h.2, Bool.and_true]

/-! ## 2. Texts -/

mutual

theorem isSome_shown? (json : Json) : json.shown?.isSome = json.brief := by
  cases json with
  | null | bool | float | str => rfl
  | int n =>
    unfold Json.shown? Json.brief integerText?
    cases fewDigits n <;> rfl
  | arr items =>
    rw [Json.brief, ← isSome_itemsShown? items, Json.shown?]
    cases itemsShown? items <;> rfl
  | obj members =>
    rw [Json.brief, ← isSome_membersShown? members, Json.shown?]
    cases membersShown? members <;> rfl

theorem isSome_itemsShown? (items : List Json) :
    (itemsShown? items).isSome = itemsBrief items := by
  cases items with
  | nil => rfl
  | cons item rest =>
    rw [itemsBrief, ← isSome_shown? item, ← isSome_itemsShown? rest, itemsShown?]
    cases item.shown? <;> cases itemsShown? rest <;> rfl

theorem isSome_membersShown? (members : List (String × Json)) :
    (membersShown? members).isSome = membersBrief members := by
  cases members with
  | nil => rfl
  | cons member rest =>
    obtain ⟨key, value⟩ := member
    rw [membersBrief, ← isSome_shown? value, ← isSome_membersShown? rest, membersShown?]
    cases value.shown? <;> cases membersShown? rest <;> rfl

end

theorem isSome_text? (value : Json) : value.text?.isSome = value.brief := by
  cases value with
  | str s => rfl
  | null | bool | int | float | arr | obj => exact isSome_shown? _

/-- **A value has no text exactly when there is a long whole number in it.** -/
theorem Json.text_eq_error {value : Json} {fault : Fault} :
    value.text = .error fault ↔ value.brief = false ∧ fault = .unexpected .longInteger := by
  rw [Json.text, writtenText_eq_error, ← isSome_text?, Option.isSome_eq_false_iff,
    Option.isNone_iff_eq_none]

/-! ## 3. Reading -/

/-- A lexeme that is no long whole number. -/
def Lexeme.Brief : Lexeme → Prop
  | .scalar (.ok value) => value.brief = true
  | _ => True

/-- An open container without long whole numbers so far. -/
def Frame.Brief : Frame → Prop
  | .array items => itemsBrief items = true
  | .object members _ => membersBrief members = true

/-- No long whole numbers in what the next lexeme is added to. -/
def Expected.Brief : Expected → Prop
  | .key members | .colon members _ => membersBrief members = true
  | .afterValue last => last.brief = true
  | .value | .valueOrEnd | .keyOrEnd => True

theorem isDigit_wholePart (cs : List Char) : ∀ c ∈ (wholePart cs).1, c.isDigit = true := by
  unfold wholePart
  split
  · simp
  · unfold takeDigits
    rw [List.span_eq_takeWhile_dropWhile]
    exact fun c hc => List.mem_takeWhile_imp hc

/-- A number at the front of a list is no long whole number. -/
theorem brief_scanNumber? {cs : List Char} {value : Json} {size : Nat}
    (h : scanNumber? cs = some (.ok value, size)) : value.brief = true := by
  unfold scanNumber? at h
  -- the sign is told apart first, and what follows does not depend on it
  split at h
  dsimp only at h
  split at h
  · cases h
  · have hvalue := congrArg Prod.fst (Option.some.inj h)
    dsimp only at hvalue
    split at hvalue
    · split at hvalue
      · rename_i hread
        cases hvalue
        exact fewDigits_of_boundedInteger (isDigit_wholePart _) hread
      · cases hvalue
    · cases hvalue
      rfl

theorem brief_lexeme (index : Nat) (cs : List Char) : (lexeme index cs).1.Brief := by
  have hwords : ∀ word ∈ words, word.2.brief = true := by decide
  unfold lexeme
  split
  case h_8 =>
    split
    · rename_i word hfound
      exact hwords word (List.mem_of_find?_eq_some hfound)
    · split
      · rename_i value size hnumber
        cases value with
        | ok value => exact brief_scanNumber? hnumber
        | error fault => trivial
      · trivial
  all_goals trivial

theorem brief_lexemesFrom (covered index : Nat) (cs : List Char) :
    ∀ found ∈ lexemesFrom covered index cs, found.2.Brief := by
  induction cs generalizing covered index with
  | nil => exact List.forall_mem_singleton.mpr trivial
  | cons c rest ih =>
    unfold lexemesFrom
    cases covered with
    | succ more => exact ih _ _
    | zero =>
      dsimp only
      split
      · exact ih _ _
      · exact List.forall_mem_cons.mpr ⟨brief_lexeme index (c :: rest), ih _ _⟩

section Reading

variable {index : Nat} {first : Lexeme} {rest : List (Nat × Lexeme)} {json : Json}
  (hfirst : first.Brief)
  (ih : ∀ {stack : List Frame} {expected : Expected},
    readLexemes stack expected rest = .ok json → (∀ frame ∈ stack, frame.Brief) →
      expected.Brief → json.brief = true)
include ih

theorem brief_pushFrame {object : Bool} {stack : List Frame} {frame : Frame} {expected : Expected}
    (h : (pushFrame object stack frame >>= fun more => readLexemes more expected rest) = .ok json)
    (hstack : ∀ frame ∈ stack, frame.Brief) (hframe : frame.Brief) (hexpected : expected.Brief) :
    json.brief = true := by
  obtain ⟨more, hmore, h⟩ := bind_eq_ok.mp h
  unfold pushFrame at hmore
  split at hmore
  · cases hmore
    exact ih h (List.forall_mem_cons.mpr ⟨hframe, hstack⟩) hexpected
  · cases hmore

theorem brief_readAfter {stack : List Frame} (hstack : ∀ frame ∈ stack, frame.Brief) {value : Json}
    (hvalue : value.brief = true)
    (h : readLexemes stack (.afterValue value) ((index, first) :: rest) = .ok json) :
    json.brief = true := by
  cases stack with
  | nil =>
    cases first with
    | finish =>
      cases h
      exact hvalue
    | text | scalar | beginObject | endObject | beginArray | endArray | comma | colon | stray =>
      cases h
  | cons frame outer =>
    obtain ⟨hframe, houter⟩ := List.forall_mem_cons.mp hstack
    cases frame with
    | array items =>
      have hitems : itemsBrief (value :: items) = true := by
        rw [itemsBrief, hvalue, hframe, Bool.and_true]
      have hreversed : itemsBrief (value :: items).reverse = true :=
        itemsBrief_iff.mpr fun item hitem =>
          itemsBrief_iff.mp hitems item (List.mem_reverse.mp hitem)
      cases first with
      | endArray => exact ih h houter hreversed
      | comma => exact ih h (List.forall_mem_cons.mpr ⟨hitems, houter⟩) trivial
      | text | scalar | beginObject | endObject | beginArray | colon | stray | finish => cases h
    | object members key =>
      have hmembers : membersBrief (members.set key value) = true :=
        membersBrief_set hframe hvalue
      cases first with
      | endObject => exact ih h houter hmembers
      | comma => exact ih h (List.forall_mem_cons.mpr ⟨rfl, houter⟩) hmembers
      | text | scalar | beginObject | beginArray | endArray | colon | stray | finish => cases h

include hfirst

theorem brief_readValue {stack : List Frame} (hstack : ∀ frame ∈ stack, frame.Brief)
    (h : readLexemes stack .value ((index, first) :: rest) = .ok json) : json.brief = true := by
  cases first with
  | scalar value =>
    obtain ⟨value, rfl, h⟩ := bind_eq_ok.mp h
    exact ih h hstack hfirst
  | text content =>
    obtain ⟨content, rfl, h⟩ := bind_eq_ok.mp h
    exact ih h hstack rfl
  | beginArray => exact brief_pushFrame ih h hstack rfl trivial
  | beginObject => exact brief_pushFrame ih h hstack rfl trivial
  | endObject | endArray | comma | colon | stray | finish => cases h

theorem brief_readKey {stack : List Frame} (hstack : ∀ frame ∈ stack, frame.Brief)
    {members : Members} (hmembers : membersBrief members = true)
    (h : readLexemes stack (.key members) ((index, first) :: rest) = .ok json) :
    json.brief = true := by
  cases first with
  | text content =>
    obtain ⟨content, rfl, h⟩ := bind_eq_ok.mp h
    exact ih h hstack hmembers
  | scalar | beginObject | endObject | beginArray | endArray | comma | colon | stray | finish =>
    cases h

end Reading

/-- **Reading keeps values without long whole numbers.** -/
theorem brief_readLexemes {found : List (Nat × Lexeme)} (hfound : ∀ f ∈ found, f.2.Brief)
    {stack : List Frame} {expected : Expected} {json : Json}
    (h : readLexemes stack expected found = .ok json) (hstack : ∀ frame ∈ stack, frame.Brief)
    (hexpected : expected.Brief) : json.brief = true := by
  induction found generalizing stack expected with
  | nil => cases h
  | cons first rest ih =>
    obtain ⟨index, first⟩ := first
    obtain ⟨hfirst, hrest⟩ := List.forall_mem_cons.mp hfound
    have ih {stack expected} := @ih hrest stack expected
    cases expected with
    | value => exact brief_readValue hfirst ih hstack h
    | key members => exact brief_readKey hfirst ih hstack hexpected h
    | valueOrEnd =>
      unfold readLexemes at h
      dsimp only at h
      split at h
      · exact ih h (List.forall_mem_cons.mp hstack).2 rfl
      · exact brief_readValue hfirst ih hstack h
    | keyOrEnd =>
      unfold readLexemes at h
      dsimp only at h
      split at h
      · exact ih h (List.forall_mem_cons.mp hstack).2 rfl
      · exact brief_readKey hfirst ih hstack rfl h
    | colon members key =>
      unfold readLexemes at h
      dsimp only at h
      split at h
      · exact ih h (List.forall_mem_cons.mpr ⟨hexpected, (List.forall_mem_cons.mp hstack).2⟩)
          trivial
      · cases h
    | afterValue value => exact brief_readAfter ih hstack hexpected h

/-- **A value that was read is without long whole numbers.** -/
theorem Json.brief_of_read {s : String} {json : Json} (h : Json.read s = .ok json) :
    json.brief = true := by
  unfold Json.read at h
  split at h
  · split at h
    · cases h
    · exact brief_readLexemes (brief_lexemesFrom 0 0 _) h
        (fun _ hframe => absurd hframe List.not_mem_nil) trivial
  · cases h

end Waypost
