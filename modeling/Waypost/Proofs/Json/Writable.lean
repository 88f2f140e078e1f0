import Waypost.Document.Errors
import Waypost.Document.Route
import Waypost.Json.Writer
import Waypost.Proofs.Fault.First
import Waypost.Proofs.Text.Encodable

/-!
# Values that can be sent

The text of a value can be written and encoded when every double inside it is finite, every whole
number has few digits and every text is encodable, the keys of objects included.

* `Json.writable` -- a value of which that is true;
* `itemsWritable_iff`, `membersWritable_iff` -- a list or an object is writable exactly when all of
  its parts are;
* `exists_written` -- **the text of a value can be written and encoded exactly when the value is
  writable**, and `unsent_written` -- the faults that come up otherwise;
* `membersWritable_update` -- putting writable members leaves writable members;
* `writable_errorsJsonFrom` -- **an error document is writable when messages and details are**.
-/

namespace Waypost

open Decimal Text

mutual

/-- Whether the text of a value can be written and encoded. -/
def Json.writable : Json → Bool
  | .null => true
  | .bool _ => true
  | .int n => fewDigits n
  | .float x => x.isFinite
  | .str s => encodable s
  | .arr items => itemsWritable items
  | .obj members => membersWritable members

/-- Whether the texts of all items can be written and encoded. -/
def itemsWritable : List Json → Bool
  | [] => true
  | item :: rest => item.writable && itemsWritable rest

/-- Whether the texts of all members can be written and encoded, with their keys. -/
def membersWritable : List (String × Json) → Bool
  | [] => true
  | (key, value) :: rest => encodable key && value.writable && membersWritable rest

end

/-! ## 1. Parts -/

theorem itemsWritable_iff {items : List Json} :
    itemsWritable items = true ↔ ∀ item ∈ items, item.writable = true := by
  induction items with
  | nil => simp [itemsWritable]
  | cons item rest ih => simp [itemsWritable, ih]

theorem membersWritable_iff {members : Members} : membersWritable members = true ↔
    ∀ member ∈ members, encodable member.1 = true ∧ member.2.writable = true := by
  induction members with
  | nil => simp [membersWritable]
  | cons member rest ih => simp [membersWritable, ih, and_assoc]

theorem membersWritable_append {members others : Members} :
    membersWritable (members ++ others) = true ↔
      membersWritable members = true ∧ membersWritable others = true := by
  rw [membersWritable_iff, membersWritable_iff, membersWritable_iff]
  exact List.forall_mem_append

theorem writable_jsonTexts {texts : List String} :
    (jsonTexts texts).writable = true ↔ ∀ text ∈ texts, encodable text = true := by
  rw [jsonTexts, Json.writable, itemsWritable_iff, List.forall_mem_map]
  rfl

/-! ## 2. Written texts -/

/-- Escaping neither brings in a mark nor takes one away. -/
theorem mem_escapeJson {c : Char} : surrogateMark ∈ escapeJson c ↔ c = surrogateMark := by
  by_cases hc : c = surrogateMark
  · rw [hc]
    decide
  · refine iff_of_false ?_ hc
    unfold escapeJson
    repeat' split
    all_goals simp +decide [Ne.symm hc, not_mem_hexDigits]

theorem encodable_jsonText (s : String) : encodable (jsonText s) = encodable s := by
  rw [Bool.eq_iff_iff, encodable_iff, encodable_iff, not_iff_not, jsonText, String.toList_ofList]
  simp +decide [List.mem_flatMap, mem_escapeJson]

/-- A fault of a value whose text cannot be written or encoded. -/
def Fault.Unsent : Fault → Prop
  | .unexpected .notFiniteJson | .unexpected .longInteger | .unexpected (.unwritable _) => True
  | _ => False

mutual

/-- **The text of a value can be written and encoded exactly when the value is writable.** -/
theorem exists_written (json : Json) :
    (∃ text, json.written = .ok text ∧ encodable text = true) ↔ json.writable = true := by
  have hcomma : encodable "," = true := by decide
  cases json with
  | null => exact iff_of_true ⟨_, rfl, by decide⟩ rfl
  | bool b => exact iff_of_true ⟨_, rfl, by cases b <;> decide⟩ rfl
  | int n =>
    simp only [Json.written, integerText_eq_ok, Json.writable]
    exact ⟨fun ⟨_, ⟨hfew, _⟩, _⟩ => hfew, fun hfew => ⟨_, ⟨hfew, rfl⟩, encodable_toString n⟩⟩
  | float x =>
    unfold Json.written jsonNumber Json.writable
    split
    · rename_i hfinite
      exact iff_of_true ⟨_, rfl, encodable_floatText x⟩ hfinite
    · rename_i hfinite
      exact iff_of_false (by rintro ⟨_, ⟨⟩, _⟩) hfinite
  | str s => simp [Json.written, Json.writable, encodable_jsonText]
  | arr items =>
    have hends : encodable "[" = true ∧ encodable "]" = true := by decide
    simp only [Json.written, Json.writable, bind_pure_comp, exists_map_of, encodable_append,
      encodable_intercalate hcomma, hends, Bool.true_and, Bool.and_true]
    exact exists_itemsWritten items
  | obj members =>
    have hends : encodable "\x7b" = true ∧ encodable "\x7d" = true := by decide
    simp only [Json.written, Json.writable, bind_pure_comp, exists_map_of, encodable_append,
      encodable_intercalate hcomma, hends, Bool.true_and, Bool.and_true]
    exact exists_membersWritten members

/-- The texts of items can be written and encoded exactly when each item is writable. -/
theorem exists_itemsWritten (items : List Json) :
    (∃ texts, itemsWritten items = .ok texts ∧ texts.all encodable = true) ↔
      itemsWritable items = true := by
  cases items with
  | nil => exact iff_of_true ⟨[], rfl, rfl⟩ rfl
  | cons item rest =>
    rw [itemsWritable, Bool.and_eq_true, ← exists_written item, ← exists_itemsWritten rest]
    constructor
    · rintro ⟨_, hwritten, hall⟩
      obtain ⟨text, htext, hwritten⟩ := bind_eq_ok.mp hwritten
      obtain ⟨texts, htexts, ⟨⟩⟩ := bind_eq_ok.mp hwritten
      rw [List.all_cons, Bool.and_eq_true] at hall
      exact ⟨⟨text, htext, hall.1⟩, texts, htexts, hall.2⟩
    · rintro ⟨⟨text, htext, hfirst⟩, texts, htexts, hothers⟩
      refine ⟨text :: texts, ?_, by rw [List.all_cons, hfirst, hothers]; rfl⟩
      rw [itemsWritten, htext, ok_bind, htexts]
      rfl

/-- The texts of members can be written and encoded exactly when each member is writable. -/
theorem exists_membersWritten (members : List (String × Json)) :
    (∃ texts, membersWritten members = .ok texts ∧ texts.all encodable = true) ↔
      membersWritable members = true := by
  cases members with
  | nil => exact iff_of_true ⟨[], rfl, rfl⟩ rfl
  | cons member rest =>
    obtain ⟨key, value⟩ := member
    have hcolon : encodable ":" = true := by decide
    rw [membersWritable, Bool.and_eq_true, Bool.and_eq_true, ← exists_written value,
      ← exists_membersWritten rest]
    constructor
    · rintro ⟨_, hwritten, hall⟩
      obtain ⟨text, htext, hwritten⟩ := bind_eq_ok.mp hwritten
      obtain ⟨texts, htexts, ⟨⟩⟩ := bind_eq_ok.mp hwritten
      simp only [List.all_cons, encodable_append, encodable_jsonText, hcolon, Bool.and_true,
        Bool.and_eq_true] at hall
      exact ⟨⟨hall.1.1, text, htext, hall.1.2⟩, texts, htexts, hall.2⟩
    · rintro ⟨⟨hkey, text, htext, hfirst⟩, texts, htexts, hothers⟩
      refine ⟨(jsonText key ++ ":" ++ text) :: texts, ?_, ?_⟩
      · rw [membersWritten, htext, ok_bind, htexts]
        rfl
      · simp only [List.all_cons, encodable_append, encodable_jsonText, hcolon, hkey, hfirst,
          hothers, Bool.and_true]

end

mutual

/-- The faults that come up where the text of a value cannot be written. -/
theorem unsent_written (json : Json) : FailsOnly Fault.Unsent json.written := by
  cases json with
  | null | bool | str => exact failsOnly_of_ok ⟨_, rfl⟩
  | int n =>
    intro fault hfault
    rw [(writtenText_eq_error.mp hfault).2]
    trivial
  | float x =>
    unfold Json.written jsonNumber
    split
    · exact failsOnly_of_ok ⟨_, rfl⟩
    · exact failsOnly_error trivial
  | arr items => exact (unsent_itemsWritten items).bind fun _ _ => failsOnly_of_ok ⟨_, rfl⟩
  | obj members => exact (unsent_membersWritten members).bind fun _ _ => failsOnly_of_ok ⟨_, rfl⟩

theorem unsent_itemsWritten (items : List Json) :
    FailsOnly Fault.Unsent (itemsWritten items) := by
  cases items with
  | nil => exact failsOnly_of_ok ⟨_, rfl⟩
  | cons item rest =>
    exact (unsent_written item).bind fun _ _ => (unsent_itemsWritten rest).bind fun _ _ =>
      failsOnly_of_ok ⟨_, rfl⟩

theorem unsent_membersWritten (members : List (String × Json)) :
    FailsOnly Fault.Unsent (membersWritten members) := by
  cases members with
  | nil => exact failsOnly_of_ok ⟨_, rfl⟩
  | cons member rest =>
    exact (unsent_written member.2).bind fun _ _ => (unsent_membersWritten rest).bind fun _ _ =>
      failsOnly_of_ok ⟨_, rfl⟩

end

/-- A breakdown whose wording can be encoded. -/
def Fault.Told (fault : Fault) : Prop :=
  ∃ cause, fault = .unexpected cause ∧ encodable cause.text = true

/-- What is said of a value that cannot be sent can be sent. -/
theorem Fault.Unsent.told {fault : Fault} (h : fault.Unsent) : fault.Told := by
  match fault with
  | .unexpected .notFiniteJson => exact ⟨_, rfl, by decide +kernel⟩
  | .unexpected .longInteger => exact ⟨_, rfl, by decide +kernel⟩
  | .unexpected (.unwritable why) => exact ⟨_, rfl, encodable_message why⟩

/-! ## 3. Members that are put -/

theorem membersWritable_set {members : Members} {key : String} {value : Json}
    (h : membersWritable members = true) (hkey : encodable key = true)
    (hvalue : value.writable = true) : membersWritable (members.set key value) = true := by
  induction members with
  | nil => exact membersWritable_iff.mpr (List.forall_mem_singleton.mpr ⟨hkey, hvalue⟩)
  | cons member rest ih =>
    rw [membersWritable_iff, List.forall_mem_cons, ← membersWritable_iff] at h
    unfold Members.set
    split
    · rename_i hsame
      rw [beq_iff_eq.mp hsame] at *
      exact membersWritable_iff.mpr
        (List.forall_mem_cons.mpr ⟨⟨hkey, hvalue⟩, membersWritable_iff.mp h.2⟩)
    · exact membersWritable_iff.mpr
        (List.forall_mem_cons.mpr ⟨h.1, membersWritable_iff.mp (ih h.2)⟩)

/-- Putting writable members leaves writable members. -/
theorem membersWritable_update {members extra : Members} (h : membersWritable members = true)
    (hextra : membersWritable extra = true) : membersWritable (members.update extra) = true := by
  unfold Members.update
  induction extra generalizing members with
  | nil => exact h
  | cons member rest ih =>
    rw [membersWritable_iff, List.forall_mem_cons, ← membersWritable_iff] at hextra
    exact ih (membersWritable_set h hextra.1.1 hextra.1.2) hextra.2

/-! ## 4. Error documents -/

/-- A breakdown that can be told has a message that can be sent. -/
theorem Fault.Told.writable_message {fault : Fault} (h : fault.Told) :
    fault.message.writable = true := by
  obtain ⟨cause, rfl, htext⟩ := h
  have hkinds : encodable cause.kind.name = true := by cases cause.kind <;> decide
  unfold Fault.message
  dsimp only
  split
  · exact hkinds
  · exact htext

theorem membersWritable_errorEntry {fault : Fault} (hmessage : fault.message.writable = true)
    (hdetails : membersWritable fault.details = true) :
    membersWritable (errorEntry fault) = true := by
  have hword : encodable "message" = true := by decide
  have hdetailsWord : encodable "details" = true := by decide
  have hclass : encodable fault.typeId.name = true := by cases fault.typeId <;> decide
  refine membersWritable_update ?_ hdetails
  refine membersWritable_iff.mpr (List.forall_mem_cons.mpr ⟨⟨hword, hmessage⟩, ?_⟩)
  exact List.forall_mem_singleton.mpr ⟨hdetailsWord, hclass⟩

/-- **An error document is writable when the messages and the details of its faults are.** -/
theorem writable_errorsJsonFrom {first : Fault} {rest : List Fault}
    (h : ∀ fault ∈ first :: rest,
      fault.message.writable = true ∧ membersWritable fault.details = true) :
    (errorsJsonFrom first rest).writable = true := by
  have hentries :
      itemsWritable ((first :: rest).map fun fault => .obj (errorEntry fault)) = true := by
    refine itemsWritable_iff.mpr fun entry hentry => ?_
    obtain ⟨fault, hfault, rfl⟩ := List.mem_map.mp hentry
    exact membersWritable_errorEntry (h fault hfault).1 (h fault hfault).2
  have hmessage : encodable "message" = true := by decide
  have hhints : encodable "hints" = true := by decide
  refine membersWritable_iff.mpr
    (List.forall_mem_cons.mpr ⟨⟨hmessage, (h first List.mem_cons_self).1⟩, ?_⟩)
  exact List.forall_mem_singleton.mpr ⟨hhints, hentries⟩

end Waypost
