import Waypost.Proofs.Json.Read
import Waypost.Proofs.Text.Joined
import Waypost.Proofs.Text.Stripped
import Waypost.Settings

/-!
# List settings

A list setting can be spelled as a list, as the text of a JSON list, or as texts between commas.

* `Tidy`, `tidied` -- a text that is not blank and has no blanks at its ends; and what is left of
  some texts when the blank ones are dropped and the others stripped;
* `ReadFault.Stops` -- the faults of a reader that are not taken for a sign of another spelling;
* `textsOfItems_eq_error` -- a list of values has no texts where a long whole number is in it;
* `ListValue.texts_eq_ok`, `ListValue.texts_eq_error` -- a list setting is made of tidied texts, and
  which values have none;
* `ListValue.texts_of_spellings` -- **a list setting means the same in every spelling**.
-/

namespace Waypost

open Text

/-! ## 1. Tidy texts -/

/-- A text that is not blank and has no blanks at its ends. -/
structure Tidy (s : String) : Prop where
  nonblank : ∃ c ∈ s.toList, isBlank c = false
  stripped : strip s = s

/-- The texts that are not blank, each without the blanks at its ends, in order. -/
def tidied (texts : List String) : List String :=
  (texts.filter fun s => s.toList.any (!isBlank ·)).map strip

theorem strippedTexts_eq (texts : List String) : strippedTexts texts = tidied texts := by
  have hkept : ∀ s : String, (!(strip s).isEmpty) = s.toList.any (!isBlank ·) := by
    intro s
    rw [Bool.eq_iff_iff, Bool.not_eq_true', Bool.eq_false_iff, ne_eq, String.isEmpty_iff,
      strip_eq_empty]
    simp
  unfold strippedTexts tidied
  rw [List.filter_map]
  exact congrArg (List.map strip) (List.filter_congr fun s _ => hkept s)

theorem tidy_of_mem {texts : List String} {s : String} (h : s ∈ tidied texts) : Tidy s := by
  obtain ⟨t, ht, rfl⟩ := List.mem_map.mp h
  have hkept : ¬ ∀ c ∈ t.toList, isBlank c = true := by
    simpa using (List.mem_filter.mp ht).2
  have hstays : ¬ ∀ c ∈ (strip t).toList, isBlank c = true := by
    rwa [← strip_eq_empty, strip_strip, strip_eq_empty]
  refine ⟨?_, strip_strip t⟩
  simpa using hstays

theorem tidied_of_tidy {texts : List String} (h : ∀ s ∈ texts, Tidy s) : tidied texts = texts := by
  have hall : texts.filter (fun s => s.toList.any (!isBlank ·)) = texts := by
    rw [List.filter_eq_self]
    intro s hs
    simpa using (h s hs).nonblank
  unfold tidied
  rw [hall, List.map_congr_left fun s hs => (h s hs).stripped, List.map_id']

/-! ## 2. Texts of a setting -/

/-- A fault of a reader that is no sign of another spelling, and how it breaks a setting down: what
    was read so far may be a list, but a number in it has too many digits, or it is nested too
    deeply. -/
inductive ReadFault.Stops : ReadFault → Breakdown → Prop
  | digitLimit (digits : Nat) : Stops (.digitLimit digits) (.digitLimit digits)
  | tooDeep (object : Bool) : Stops (.tooDeep object) (.tooDeep object)

theorem isSome_mapM_text? (items : List Json) :
    (items.mapM Json.text?).isSome = itemsBrief items := by
  induction items with
  | nil => rfl
  | cons item rest ih =>
    rw [itemsBrief, ← ih, ← isSome_text? item, List.mapM_cons]
    cases item.text? <;> cases rest.mapM Json.text? <;> rfl

/-- The texts of a list of values are tidied. -/
theorem textsOfItems_eq_ok {items : List Json} {texts : List String}
    (h : textsOfItems items = .ok texts) : ∃ parts, texts = tidied parts := by
  unfold textsOfItems at h
  split at h
  · cases h
    exact ⟨_, strippedTexts_eq _⟩
  · cases h

/-- **A list of values has no texts exactly where a long whole number is in it.** -/
theorem textsOfItems_eq_error {items : List Json} {cause : Breakdown} :
    textsOfItems items = .error cause ↔
      (∃ item ∈ items, item.brief = false) ∧ cause = .longInteger := by
  have hbrief : (∃ item ∈ items, item.brief = false) ↔ items.mapM Json.text? = none := by
    rw [← Option.isNone_iff_eq_none, ← Option.isSome_eq_false_iff, isSome_mapM_text?,
      ← Bool.not_eq_true, itemsBrief_iff]
    simp
  rw [hbrief]
  unfold textsOfItems
  split
  · rename_i htexts
    rw [htexts]
    exact iff_of_false nofun (fun h => nomatch h.1)
  · rename_i htexts
    rw [htexts]
    exact ⟨fun h => ⟨rfl, (Except.error.inj h).symm⟩, fun h => by rw [h.2]⟩

/-- Texts as values have those texts. -/
theorem textsOfItems_texts (texts : List String) :
    textsOfItems (texts.map .str) = .ok (tidied texts) := by
  have htexts : (texts.map Json.str).mapM Json.text? = some texts := by
    induction texts with
    | nil => rfl
    | cons first rest ih =>
      rw [List.map_cons, List.mapM_cons, ih]
      rfl
  unfold textsOfItems
  rw [htexts, ← strippedTexts_eq]

theorem textsOfText_of_list {s : String} {items : List Json} (h : Json.read s = .ok (.arr items)) :
    textsOfText s = textsOfItems items := by
  unfold textsOfText
  rw [h]

/-- A text that is no JSON list has the texts between its commas, unless its reader stops. -/
theorem textsOfText_of_no_list {s : String} (h : ¬ ∃ items, Json.read s = .ok (.arr items)) :
    (∃ fault cause, Json.read s = .error fault ∧ fault.Stops cause ∧
        textsOfText s = .error cause) ∨
      (¬ ∃ fault cause, Json.read s = .error fault ∧ fault.Stops cause) ∧
        textsOfText s = .ok (tidied (splitText ',' s)) := by
  rw [← strippedTexts_eq]
  unfold textsOfText
  cases hread : Json.read s with
  | error fault =>
    cases fault with
    | malformed what index =>
      refine Or.inr ⟨?_, rfl⟩
      rintro ⟨_, _, ⟨⟩, ⟨⟩⟩
    | digitLimit digits => exact Or.inl ⟨_, _, rfl, .digitLimit digits, rfl⟩
    | tooDeep object => exact Or.inl ⟨_, _, rfl, .tooDeep object, rfl⟩
  | ok value =>
    have hnone : ¬ ∃ fault cause, (Except.ok value : Except ReadFault Json) = .error fault ∧
        fault.Stops cause := by
      rintro ⟨_, _, ⟨⟩, _⟩
    cases value with
    | arr items => exact absurd ⟨items, hread⟩ h
    | null | bool | int | float | str | obj => exact Or.inr ⟨hnone, rfl⟩

/-- **A list setting is made of tidied texts**, from whatever value it comes. -/
theorem ListValue.texts_eq_ok {value : ListValue} {texts : List String}
    (h : value.texts = .ok texts) : ∃ parts, texts = tidied parts := by
  cases value with
  | tuple items | list items => exact textsOfItems_eq_ok h
  | text s =>
    have h : textsOfText s = .ok texts := h
    by_cases hlist : ∃ items, Json.read s = .ok (.arr items)
    · obtain ⟨items, hread⟩ := hlist
      rw [textsOfText_of_list hread] at h
      exact textsOfItems_eq_ok h
    · rcases textsOfText_of_no_list hlist with ⟨_, cause, -, -, hcause⟩ | ⟨-, hparts⟩
      · rw [hcause] at h
        cases h
      · rw [hparts] at h
        cases h
        exact ⟨_, rfl⟩
  | other =>
    cases h
    exact ⟨[], rfl⟩

/-- How a value has no list setting: it is a text whose reader stops, or a list with a long whole
    number in it. -/
inductive ListValue.Fails : ListValue → Breakdown → Prop
  | text {s : String} {fault : ReadFault} {cause : Breakdown}
      (hread : Json.read s = .error fault) (hstops : fault.Stops cause) : Fails (.text s) cause
  | tuple {items : List Json} (hlong : ∃ item ∈ items, item.brief = false) :
      Fails (.tuple items) .longInteger
  | list {items : List Json} (hlong : ∃ item ∈ items, item.brief = false) :
      Fails (.list items) .longInteger

/-- A text has no list setting exactly when its reader stops: a list that was read from it is
    without long whole numbers. -/
theorem textsOfText_eq_error {s : String} {cause : Breakdown} :
    textsOfText s = .error cause ↔
      ∃ fault, Json.read s = .error fault ∧ fault.Stops cause := by
  by_cases hlist : ∃ items, Json.read s = .ok (.arr items)
  · obtain ⟨items, hread⟩ := hlist
    have hbrief : ¬ ∃ item ∈ items, item.brief = false := by
      rintro ⟨item, hitem, hlong⟩
      rw [itemsBrief_iff.mp (Json.brief_of_read hread) item hitem] at hlong
      cases hlong
    rw [textsOfText_of_list hread, textsOfItems_eq_error, hread]
    exact iff_of_false (fun h => hbrief h.1) (by rintro ⟨_, ⟨⟩, _⟩)
  · rcases textsOfText_of_no_list hlist with ⟨found, other, hread, hstops, hcause⟩ | ⟨hnone, hparts⟩
    · rw [hcause, hread]
      constructor
      · rintro ⟨⟩
        exact ⟨found, rfl, hstops⟩
      · rintro ⟨_, ⟨⟩, hother⟩
        cases hstops <;> cases hother <;> rfl
    · rw [hparts]
      exact iff_of_false nofun fun ⟨fault, h⟩ => hnone ⟨fault, cause, h⟩

/-- **Which values have no list setting, and with which breakdown.** -/
theorem ListValue.texts_eq_error {value : ListValue} {cause : Breakdown} :
    value.texts = .error cause ↔ value.Fails cause := by
  cases value with
  | tuple items =>
    refine textsOfItems_eq_error.trans ⟨?_, ?_⟩
    · rintro ⟨hlong, rfl⟩
      exact .tuple hlong
    · intro h
      cases h with
      | tuple hlong => exact ⟨hlong, rfl⟩
  | list items =>
    refine textsOfItems_eq_error.trans ⟨?_, ?_⟩
    · rintro ⟨hlong, rfl⟩
      exact .list hlong
    · intro h
      cases h with
      | list hlong => exact ⟨hlong, rfl⟩
  | other => exact iff_of_false nofun nofun
  | text s =>
    refine textsOfText_eq_error.trans ⟨?_, ?_⟩
    · rintro ⟨fault, hread, hstops⟩
      exact .text hread hstops
    · intro h
      cases h with
      | text hread hstops => exact ⟨_, hread, hstops⟩

/-! ## 3. Spellings -/

/-- Texts that hold no comma are read back, tidied, from the text that commas join. -/
theorem tidied_splitText {texts : List String} (h : ∀ s ∈ texts, ',' ∉ s.toList) :
    tidied (splitText ',' (",".intercalate texts)) = tidied texts := by
  cases texts with
  | nil => rfl
  | cons first rest =>
    have hcomma : "," = String.singleton ',' := rfl
    rw [hcomma, splitText_intercalate h (List.cons_ne_nil _ _)]

/-- **A list setting means the same in every spelling.** Whatever it comes from, it consists of tidy
    texts, and given again it stays as it is. Only a text whose reader stops has none, or a list
    with a long whole number in it. Some texts, as a list that is fixed or not and as the text of a
    JSON list, are tidied; and so they are with commas between them, if none of them holds a comma,
    the whole is no JSON list and its reader does not stop. -/
theorem ListValue.texts_of_spellings :
    (∀ value texts, ListValue.texts value = .ok texts → (∀ s ∈ texts, Tidy s) ∧
      (ListValue.tuple (texts.map .str)).texts = .ok texts) ∧
    (∀ value cause, ListValue.texts value = .error cause ↔ value.Fails cause) ∧
    ∀ xs : List String,
      (ListValue.tuple (xs.map .str)).texts = .ok (tidied xs) ∧
      (ListValue.list (xs.map .str)).texts = .ok (tidied xs) ∧
      (∀ s, Json.read s = .ok (.arr (xs.map .str)) →
        (ListValue.text s).texts = .ok (tidied xs)) ∧
      ((∀ x ∈ xs, ',' ∉ x.toList) →
        (¬ ∃ items, Json.read (",".intercalate xs) = .ok (.arr items)) →
          ∀ texts, (ListValue.text (",".intercalate xs)).texts = .ok texts →
            texts = tidied xs) := by
  refine ⟨fun value texts h => ?_, fun value cause => texts_eq_error,
    fun xs => ⟨textsOfItems_texts xs, textsOfItems_texts xs, ?_, ?_⟩⟩
  · obtain ⟨parts, rfl⟩ := texts_eq_ok h
    have htidy : ∀ s ∈ tidied parts, Tidy s := fun s => tidy_of_mem
    refine ⟨htidy, ?_⟩
    show textsOfItems _ = Except.ok (tidied parts)
    rw [textsOfItems_texts, tidied_of_tidy htidy]
  · intro s hread
    show textsOfText s = _
    rw [textsOfText_of_list hread, textsOfItems_texts]
  · intro hcomma hnone texts htexts
    have htexts : textsOfText (",".intercalate xs) = .ok texts := htexts
    rcases textsOfText_of_no_list hnone with ⟨_, cause, -, -, hcause⟩ | ⟨-, hparts⟩
    · rw [hcause] at htexts
      cases htexts
    · rw [hparts, tidied_splitText hcomma] at htexts
      cases htexts
      rfl

/-- Two profiles with blanks around them, and an empty one between them. -/
theorem ListValue.texts_of_spellings_looseProfiles :
    Json.read "[\" car\",\"\",\"bike\\n\"]" = .ok (.arr [.str " car", .str "", .str "bike\n"]) ∧
    (ListValue.text "[\" car\",\"\",\"bike\\n\"]").texts = .ok ["car", "bike"] ∧
    (ListValue.text " car,,bike\n").texts = .ok ["car", "bike"] ∧
    (∀ s ∈ ["car", "bike"], Tidy s) ∧
    (ListValue.tuple [.str "car", .str "bike"]).texts = .ok ["car", "bike"] := by
  have hread : Json.read "[\" car\",\"\",\"bike\\n\"]" =
      .ok (.arr ([" car", "", "bike\n"].map .str)) := by rfl
  have hmalformed : Json.read " car,,bike\n" = .error (.malformed .value 1) := by rfl
  have hnone : ¬ ∃ items, Json.read " car,,bike\n" = .ok (.arr items) := by
    rw [hmalformed]
    rintro ⟨_, ⟨⟩⟩
  have htidied : tidied [" car", "", "bike\n"] = ["car", "bike"] := by decide +kernel
  obtain ⟨hagain, hfails, hspellings⟩ := ListValue.texts_of_spellings
  obtain ⟨-, -, hjson, hjoined⟩ := hspellings [" car", "", "bike\n"]
  have hlist : (ListValue.text "[\" car\",\"\",\"bike\\n\"]").texts = .ok ["car", "bike"] := by
    rw [hjson _ hread, htidied]
  obtain ⟨htidy, hsame⟩ := hagain _ _ hlist
  refine ⟨hread, hlist, ?_, htidy, hsame⟩
  cases htexts : (ListValue.text " car,,bike\n").texts with
  | ok texts => rw [hjoined (by decide) hnone texts htexts, htidied]
  | error cause =>
    cases (hfails _ _).mp htexts with
    | text hfault hstops =>
      rw [hmalformed] at hfault
      cases hfault
      cases hstops

end Waypost
