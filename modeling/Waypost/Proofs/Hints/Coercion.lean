import Waypost.Proofs.Decimal.Notation
import Waypost.Proofs.Decimal.Range
import Waypost.Proofs.Hints.Overlong
import Waypost.Proofs.Json.Read
import Waypost.Proofs.Text.LetterCase

/-!
# What a text spells

A text that is put as a hint becomes the most specific value that it spells: a truth value in any
letter case, a whole number, a double, and otherwise the text itself, with the blanks at its ends.

* `NamesTruth`, `Spells` -- what a text spells, told without the reader;
* `FloatText.isFinite_double` -- a written number has a finite double exactly below the bound of the
  range, and an infinity beyond it;
* `ofText_eq_ok` -- **reading a text gives what it spells**;
* `ofText_eq_digitLimit` -- **reading fails on whole numbers with too many digits alone**;
* `ofJson_list`, `joined_eq_error` -- a list of several items is its joined text, and when it has
  none;
* `hints_are_coerced` -- **what becomes of texts, lists and query strings**.
-/

namespace Waypost

open Text Decimal

/-! ## 1. What is spelled -/

/-- The word for a truth value. -/
def truthWord (b : Bool) : String := if b then "true" else "false"

/-- A text that names a truth value, in any letter case and with blanks around it. -/
def NamesTruth (s : String) (b : Bool) : Prop :=
  (strip s).toList.map Char.toLower = (truthWord b).toList

/-- A text that is a whole number with blanks around it. -/
def Decimal.WholeText.Fills (t : WholeText) (s : String) : Prop := t.chars = (strip s).toList

/-- A text that is a number with a sign and blanks around it. -/
def Decimal.FloatText.Fills (t : FloatText) (sign : SignMark) (s : String) : Prop :=
  sign.chars ++ t.chars = (strip s).toList

/-- The value that a text spells. -/
inductive Spells (s : String) : HintValue → Prop
  | flag {b : Bool} (h : NamesTruth s b) : Spells s (.flag b)
  | whole {t : WholeText} (h : t.Fills s) (hshort : t.digits.length ≤ digitLimit) :
      Spells s (.int t.value)
  | real {sign : SignMark} {t : FloatText} (hwhole : ∀ w : WholeText, ¬ w.Fills s)
      (h : t.Fills sign s) : Spells s (.float (t.double sign.isMinus))
  | itself (hflag : ∀ b, ¬ NamesTruth s b) (hwhole : ∀ w : WholeText, ¬ w.Fills s)
      (hreal : ∀ (sign : SignMark) (t : FloatText), ¬ t.Fills sign s) : Spells s (.text s)

/-! ## 2. Characters of numbers -/

/-- A character that a number may have. -/
def NumberChar (c : Char) : Prop := isDigit c = true ∨ c ∈ ['+', '-', '.', 'e', 'E']

theorem Decimal.SignMark.numberChar {sign : SignMark} : ∀ c ∈ sign.chars, NumberChar c := by
  cases sign with
  | none => exact nofun
  | plus =>
    intro c hc
    rw [List.mem_singleton.mp hc]
    exact Or.inr (by decide)
  | minus =>
    intro c hc
    rw [List.mem_singleton.mp hc]
    exact Or.inr (by decide)

theorem Decimal.WholeText.numberChar (t : WholeText) : ∀ c ∈ t.chars, NumberChar c :=
  List.forall_mem_append.mpr ⟨SignMark.numberChar, fun c hc => Or.inl (t.isDigit_digits c hc)⟩

theorem numberChar_exponentChars (t : Option ExponentText) :
    ∀ c ∈ exponentChars t, NumberChar c := by
  cases t with
  | none => exact nofun
  | some t =>
    refine List.forall_mem_cons.mpr ⟨Or.inr ?_, t.power.numberChar⟩
    rcases t.isMark with hmark | hmark
    · rw [hmark]
      decide
    · rw [hmark]
      decide

theorem Decimal.FloatText.numberChar (t : FloatText) : ∀ c ∈ t.chars, NumberChar c := by
  refine List.forall_mem_append.mpr ⟨fun c hc => Or.inl (t.isDigit_whole c hc),
    List.forall_mem_append.mpr ⟨?_, numberChar_exponentChars t.exponent⟩⟩
  have hdigits := t.isDigit_fraction
  cases hfraction : t.fraction with
  | none => exact nofun
  | some digits =>
    rw [hfraction] at hdigits
    exact List.forall_mem_cons.mpr ⟨Or.inr (by decide), fun c hc => Or.inl (hdigits c hc)⟩

/-! ## 3. Truth values -/

/-- **A text that names a truth value is read as it.** -/
theorem flagOfText?_eq_some {s : String} {b : Bool} :
    HintValue.flagOfText? s = some b ↔ NamesTruth s b := by
  have hletters : ∀ b, (truthWord b).toList.all (fun c => decide (PlainLetter c)) = true := by decide
  have hword : ∀ b, lower (strip s) = truthWord b ↔ NamesTruth s b :=
    fun b => lower_eq_iff fun c hc => of_decide_eq_true (List.all_eq_true.mp (hletters b) c hc)
  rw [← hword]
  unfold HintValue.flagOfText?
  dsimp only
  by_cases htrue : lower (strip s) = "true"
  · rw [if_pos htrue, htrue]
    cases b <;> decide
  · rw [if_neg htrue]
    by_cases hfalse : lower (strip s) = "false"
    · rw [if_pos hfalse, hfalse]
      cases b <;> decide
    · rw [if_neg hfalse]
      refine iff_of_false nofun ?_
      cases b with
      | true => exact htrue
      | false => exact hfalse

theorem flagOfText?_eq_none {s : String} :
    HintValue.flagOfText? s = none ↔ ∀ b, ¬ NamesTruth s b := by
  rw [Option.eq_none_iff_forall_ne_some]
  exact forall_congr' fun b => not_congr flagOfText?_eq_some

/-- A text with a digit names no truth value. -/
theorem not_namesTruth {s : String} {c : Char} (hc : c ∈ (strip s).toList)
    (hdigit : isDigit c = true) (b : Bool) : ¬ NamesTruth s b := by
  intro h
  have hword : ∀ b, (truthWord b).toList.all Char.isLower = true := by decide
  rw [isDigit_of_isLower (isLower_of_mem (hword b) h c hc)] at hdigit
  cases hdigit

/-! ## 4. Numbers -/

theorem plainInteger?_eq_none {cs : List Char} :
    plainInteger? cs = none ↔ ∀ t : WholeText, t.chars ≠ cs := by
  rw [Option.eq_none_iff_forall_ne_some]
  constructor
  · rintro h t ht
    exact h (_, _) (plainInteger?_eq_some.mpr ⟨t, ht, rfl, rfl⟩)
  · rintro h ⟨negative, digits⟩ hsome
    obtain ⟨t, ht, -, -⟩ := plainInteger?_eq_some.mp hsome
    exact h t ht

theorem plainFloat?_eq_none {cs : List Char} :
    plainFloat? cs = none ↔ ∀ (sign : SignMark) (t : FloatText), sign.chars ++ t.chars ≠ cs := by
  rw [Option.eq_none_iff_forall_ne_some]
  constructor
  · exact fun h sign t ht => h _ (plainFloat?_eq_some.mpr ⟨sign, t, ht, rfl⟩)
  · rintro h x hsome
    obtain ⟨sign, t, ht, -⟩ := plainFloat?_eq_some.mp hsome
    exact h sign t ht

variable {s : String}

theorem Decimal.WholeText.Fills.not_namesTruth {t : WholeText} (h : t.Fills s) (b : Bool) :
    ¬ NamesTruth s b := by
  obtain ⟨c, hc, hdigit⟩ := t.exists_digit
  rw [show t.chars = _ from h] at hc
  exact Waypost.not_namesTruth hc hdigit b

theorem Decimal.FloatText.Fills.not_namesTruth {sign : SignMark} {t : FloatText}
    (h : t.Fills sign s) (b : Bool) : ¬ NamesTruth s b := by
  obtain ⟨c, hc, hdigit⟩ := t.exists_digit
  exact Waypost.not_namesTruth (h ▸ List.mem_append_right _ hc) hdigit b

theorem boundedInteger_asciiDigits (t : WholeText) :
    boundedInteger t.sign.isMinus (asciiDigits t.digits) =
      if digitLimit < t.digits.length then .error t.digits.length else .ok t.value := by
  unfold boundedInteger WholeText.value signed
  rw [digitsValue_asciiDigits t.isDigit_digits, asciiDigits_eq_map, List.length_map]

/-- A whole number is read unless it has too many digits. -/
theorem ofText_whole {t : WholeText} (h : t.Fills s) :
    HintValue.ofText s =
      if digitLimit < t.digits.length then .error (.unexpected (.digitLimit t.digits.length))
      else .ok (.int t.value) := by
  have hplain := plainInteger?_eq_some.mpr ⟨t, h, rfl, rfl⟩
  unfold HintValue.ofText
  rw [flagOfText?_eq_none.mpr h.not_namesTruth]
  dsimp only
  rw [hplain]
  dsimp only
  rw [boundedInteger_asciiDigits]
  by_cases hlimit : digitLimit < t.digits.length
  · rw [if_pos hlimit, if_pos hlimit]
  · rw [if_neg hlimit, if_neg hlimit]

/-- A written number below the bound of the range. -/
def Decimal.FloatText.HasDouble (t : FloatText) : Prop :=
  InRange (rowValue (t.whole ++ t.fraction.getD [])) t.scale

/-- **A written number has a finite double exactly below the bound of the range.** -/
theorem Decimal.FloatText.isFinite_double (t : FloatText) (negative : Bool) :
    (t.double negative).isFinite = true ↔ t.HasDouble := by
  have hdigits : ∀ c ∈ t.whole ++ t.fraction.getD [], isDigit c = true :=
    List.forall_mem_append.mpr ⟨t.isDigit_whole, t.isDigit_fraction⟩
  have hascii : ∀ c ∈ asciiDigits (t.whole ++ t.fraction.getD []), c.isDigit = true :=
    List.all_eq_true.mp (all_isDigit_asciiDigits.mpr hdigits)
  unfold double HasDouble
  rw [isFinite_nearestFloat _ hascii, digitsValue_asciiDigits hdigits]

/-- A written number beyond the range has an infinity. -/
theorem Decimal.FloatText.isInf_double {t : FloatText} (h : ¬ t.HasDouble) (negative : Bool) :
    (t.double negative).isInf = true :=
  isInf_of_not_isFinite (isNaN_nearestFloat _ _ _) (mt (t.isFinite_double negative).mp h)

/-! ## 5. Texts -/

/-- **Reading a text gives what it spells.** -/
theorem ofText_eq_ok {v : HintValue} : HintValue.ofText s = .ok v ↔ Spells s v := by
  constructor
  · intro h
    unfold HintValue.ofText at h
    split at h
    · rename_i hflag
      cases h
      exact .flag (flagOfText?_eq_some.mp hflag)
    · rename_i hflag
      dsimp only at h
      split at h
      · rename_i hplain
        obtain ⟨t, ht, rfl, rfl⟩ := plainInteger?_eq_some.mp hplain
        rw [boundedInteger_asciiDigits] at h
        by_cases hlimit : digitLimit < t.digits.length
        · rw [if_pos hlimit] at h
          cases h
        · rw [if_neg hlimit] at h
          cases h
          exact .whole ht (Nat.not_lt.mp hlimit)
      · rename_i hplain
        have hwhole := plainInteger?_eq_none.mp hplain
        split at h
        · rename_i hreal
          obtain ⟨sign, t, ht, rfl⟩ := plainFloat?_eq_some.mp hreal
          cases h
          exact .real hwhole ht
        · rename_i hreal
          cases h
          exact .itself (flagOfText?_eq_none.mp hflag) hwhole (plainFloat?_eq_none.mp hreal)
  · intro h
    cases h with
    | flag h =>
      unfold HintValue.ofText
      rw [flagOfText?_eq_some.mpr h]
    | @whole t h hshort => rw [ofText_whole h, if_neg (Nat.not_lt.mpr hshort)]
    | @real sign t hwhole h =>
      unfold HintValue.ofText
      rw [flagOfText?_eq_none.mpr h.not_namesTruth]
      dsimp only
      rw [plainInteger?_eq_none.mpr hwhole, plainFloat?_eq_some.mpr ⟨sign, t, h, rfl⟩]
    | itself hflag hwhole hreal =>
      unfold HintValue.ofText
      rw [flagOfText?_eq_none.mpr hflag]
      dsimp only
      rw [plainInteger?_eq_none.mpr hwhole, plainFloat?_eq_none.mpr hreal]

/-- The overlong texts are the whole numbers with too many digits. -/
theorem overlong_iff :
    Overlong s ↔ ∃ t : WholeText, t.Fills s ∧ digitLimit < t.digits.length := by
  constructor
  · rintro ⟨-, negative, digits, hplain, hlimit⟩
    obtain ⟨t, ht, rfl, rfl⟩ := plainInteger?_eq_some.mp hplain
    rw [asciiDigits_eq_map, List.length_map] at hlimit
    exact ⟨t, ht, hlimit⟩
  · rintro ⟨t, ht, hlimit⟩
    refine ⟨flagOfText?_eq_none.mpr ht.not_namesTruth, _, _,
      plainInteger?_eq_some.mpr ⟨t, ht, rfl, rfl⟩, ?_⟩
    rw [asciiDigits_eq_map, List.length_map]
    exact hlimit

/-- **Reading fails on whole numbers with too many digits alone.** -/
theorem ofText_eq_digitLimit {fault : Fault} :
    HintValue.ofText s = .error fault ↔
      ∃ t : WholeText, t.Fills s ∧ digitLimit < t.digits.length ∧
        fault = .unexpected (.digitLimit t.digits.length) := by
  constructor
  · intro h
    obtain ⟨t, ht, hlimit⟩ := overlong_iff.mp (HintValue.ofText_eq_error h)
    rw [ofText_whole ht, if_pos hlimit] at h
    exact ⟨t, ht, hlimit, (Except.error.inj h).symm⟩
  · rintro ⟨t, ht, hlimit, rfl⟩
    rw [ofText_whole ht, if_pos hlimit]

/-! ## 6. Lists -/

theorem mem_trimBoth {inClass : Char → Bool} {c : Char} (hc : inClass c = false) :
    ∀ {cs : List Char}, c ∈ cs → c ∈ trimBoth inClass cs := by
  have hdrop : ∀ {cs : List Char}, c ∈ cs → c ∈ cs.dropWhile inClass := by
    intro cs hmem
    induction cs with
    | nil => exact absurd hmem List.not_mem_nil
    | cons d rest ih =>
      by_cases hd : inClass d = true
      · rw [List.dropWhile_cons_of_pos hd]
        rcases List.mem_cons.mp hmem with rfl | hrest
        · rw [hc] at hd
          cases hd
        · exact ih hrest
      · rw [List.dropWhile_cons_of_neg hd]
        exact hmem
  intro cs hmem
  unfold trimBoth
  exact List.mem_reverse.mpr (hdrop (List.mem_reverse.mpr (hdrop hmem)))

/-- A text with a comma spells itself alone. -/
theorem spells_comma (h : ',' ∈ s.toList) : Spells s (.text s) := by
  have hcomma : ',' ∈ (strip s).toList := by
    unfold strip
    rw [String.toList_ofList]
    exact mem_trimBoth (by decide) h
  have hnumber : ¬ NumberChar ',' := by
    unfold NumberChar
    decide
  refine .itself (fun b hflag => ?_) (fun t ht => ?_) (fun sign t ht => ?_)
  · have hmem : Char.toLower ',' ∈ (truthWord b).toList := by
      rw [← show _ = _ from hflag]
      exact List.mem_map_of_mem hcomma
    cases b <;> exact absurd hmem (by decide)
  · rw [← show t.chars = _ from ht] at hcomma
    exact hnumber (t.numberChar _ hcomma)
  · rw [← show sign.chars ++ t.chars = _ from ht] at hcomma
    exact hnumber (List.forall_mem_append.mpr ⟨SignMark.numberChar, t.numberChar⟩ _ hcomma)

theorem spells_empty : Spells "" (.text "") := ofText_eq_ok.mp rfl

/-- The items of a list, joined with commas. An item with a long whole number breaks this down. -/
def HintValue.joined (items : List Json) : Except Fault String := do
  return ",".intercalate (← items.mapM itemText)

/-- An item has a text unless there is a long whole number in it. -/
theorem itemText_eq_error {item : Json} {fault : Fault} :
    HintValue.itemText item = .error fault ↔
      item.brief = false ∧ fault = .unexpected .longInteger := by
  cases item with
  | bool b => exact iff_of_false nofun (fun h => Bool.noConfusion h.1)
  | null | int | float | str | arr | obj => exact Json.text_eq_error

theorem joined_eq_error {items : List Json} {fault : Fault} :
    HintValue.joined items = .error fault ↔
      (∃ item ∈ items, item.brief = false) ∧ fault = .unexpected .longInteger := by
  rw [HintValue.joined, bind_pure_comp, map_eq_error]
  exact mapM_eq_error fun _ _ => itemText_eq_error

/-- A list is read as its joined text. -/
theorem ofJson_arr (items : List Json) :
    HintValue.ofJson (.arr items) = HintValue.joined items >>= HintValue.ofText := by
  unfold HintValue.ofJson HintValue.joined
  rw [bind_assoc]
  simp only [pure_bind]

theorem comma_mem_joined {first second : Json} {rest : List Json} {text : String}
    (h : HintValue.joined (first :: second :: rest) = .ok text) : ',' ∈ text.toList := by
  obtain ⟨texts, htexts, h⟩ := bind_eq_ok.mp h
  cases h
  cases forall₂_of_mapM htexts with
  | cons _ hrest =>
    cases hrest
    rw [String.intercalate_cons_cons, String.toList_append, String.toList_append]
    exact List.mem_append_left _ (List.mem_append_right _ (by decide))

/-- The joined text of several items, or of none, spells itself. -/
theorem spells_joined {items : List Json} (h : items.length ≠ 1) {text : String}
    (htext : HintValue.joined items = .ok text) : Spells text (.text text) := by
  match items with
  | [] =>
    cases htext
    exact spells_empty
  | [_] => exact absurd rfl h
  | first :: second :: rest => exact spells_comma (comma_mem_joined htext)

/-- **A list of several items is its joined text**, and so is one without any. -/
theorem ofJson_list {items : List Json} (h : items.length ≠ 1) :
    HintValue.ofJson (.arr items) = .text <$> HintValue.joined items := by
  rw [ofJson_arr]
  cases htext : HintValue.joined items with
  | error fault => rfl
  | ok text =>
    rw [ok_bind, ofText_eq_ok.mpr (spells_joined h htext)]
    rfl

/-- A list of one item is that item, as a text. -/
theorem joined_singleton (item : Json) : HintValue.joined [item] = HintValue.itemText item := by
  unfold HintValue.joined
  cases h : HintValue.itemText item with
  | error fault => simp [h]
  | ok text => simp [h, String.intercalate_singleton]

/-! ## 7. Hints -/

/-- A text that is no whole number with too many digits. -/
def Bounded (s : String) : Prop := ∀ t : WholeText, t.Fills s → t.digits.length ≤ digitLimit

theorem not_overlong_iff : ¬ Overlong s ↔ Bounded s := by
  rw [overlong_iff]
  constructor
  · exact fun h t ht => Nat.not_lt.mp fun hlimit => h ⟨t, ht, hlimit⟩
  · rintro h ⟨t, ht, hlimit⟩
    exact absurd (h t ht) (Nat.not_le.mpr hlimit)

/-- Short texts have few digits. -/
theorem bounded_of_length (h : (strip s).toList.length ≤ digitLimit) : Bounded s := by
  intro t ht
  rw [← show t.chars = _ from ht] at h
  unfold WholeText.chars at h
  rw [List.length_append] at h
  omega

/-- **What becomes of texts, lists and query strings.** A text is read as the most specific value
    that it spells, where a number beyond the range of doubles becomes an infinity. Reading fails on
    whole numbers with too many digits alone, and a query string fails with them. A list fails where
    a whole number with too many digits is in it. -/
theorem hints_are_coerced (s : String) (items : List Json) (raw : Grouped) (skip : List String) :
    (∀ v : HintValue, HintValue.ofText s = .ok v ↔ Spells s v) ∧
    (∀ fault : Fault, HintValue.ofText s = .error fault ↔
      ∃ t : WholeText, t.Fills s ∧ digitLimit < t.digits.length ∧
        fault = .unexpected (.digitLimit t.digits.length)) ∧
    (∀ (t : FloatText) (negative : Bool),
      ((t.double negative).isFinite = true ↔ t.HasDouble) ∧
      ((t.double negative).isInf = true ↔ ¬ t.HasDouble)) ∧
    (items.length ≠ 1 →
      HintValue.ofJson (.arr items) = .text <$> HintValue.joined items) ∧
    (∀ item : Json, items = [item] →
      HintValue.ofJson (.arr items) = HintValue.itemText item >>= HintValue.ofText) ∧
    (∀ fault : Fault, HintValue.joined items = .error fault ↔
      (∃ item ∈ items, item.brief = false) ∧ fault = .unexpected .longInteger) ∧
    ((∃ hints, Hints.ofQuery raw skip = .ok hints) ↔
      ∀ sent ∈ singleValues raw skip, Bounded sent.2) := by
  refine ⟨fun _ => ofText_eq_ok, fun _ => ofText_eq_digitLimit, fun t negative => ?_,
    ofJson_list, ?_, fun _ => joined_eq_error, ?_⟩
  · refine ⟨t.isFinite_double negative, fun hinf hdouble => ?_,
      fun h => FloatText.isInf_double h negative⟩
    rw [isInf_of_isFinite ((t.isFinite_double negative).mpr hdouble)] at hinf
    cases hinf
  · rintro item rfl
    rw [ofJson_arr, joined_singleton]
  · simp only [exists_ofQuery_iff, not_overlong_iff]

/-- A minus and a digit of another script, a number beyond the range, and a list. -/
theorem hints_are_coerced_scripts :
    (∃ hints, Hints.ofQuery [("x", ["-٣"]), ("y", ["1e999"]), ("point", ["a", "b"])] [] =
      .ok hints) ∧
    HintValue.ofJson (.arr [.str "true", .int 7]) =
      .text <$> HintValue.joined [.str "true", .int 7] := by
  obtain ⟨-, -, -, hlist, -, -, hquery⟩ := hints_are_coerced "-٣" [.str "true", .int 7]
    [("x", ["-٣"]), ("y", ["1e999"]), ("point", ["a", "b"])] []
  refine ⟨hquery.mpr fun sent hsent => bounded_of_length ?_, hlist (by decide)⟩
  have hshort : ∀ sent ∈ singleValues [("x", ["-٣"]), ("y", ["1e999"]), ("point", ["a", "b"])] [],
      (strip sent.2).toList.length ≤ digitLimit := by decide +kernel
  exact hshort sent hsent

/-- A row of 4301 ones cannot be read, alone or in a query string, nor can a list with a number of
    as many digits, and `1e999` does not stay the text that it is. -/
theorem ones_are_not_coerced :
    (¬ ∃ v, HintValue.ofText (String.ofList (List.replicate 4301 '1')) = .ok v) ∧
    (¬ ∃ hints, Hints.ofQuery [("x", [String.ofList (List.replicate 4301 '1')])] [] =
      .ok hints) ∧
    (¬ ∃ v, HintValue.ofJson (.arr [.int (10 ^ digitLimit), .str "a"]) = .ok v) ∧
    HintValue.ofText "1e999" ≠ .ok (.text "1e999") := by
  have hlong : Overlong (String.ofList (List.replicate 4301 '1')) := overlong_ones (by decide)
  refine ⟨?_, ?_, ?_, ?_⟩
  · rintro ⟨v, hv⟩
    obtain ⟨count, -, herror⟩ := HintValue.ofText_of_overlong hlong
    rw [hv] at herror
    cases herror
  · intro h
    exact exists_ofQuery_iff.mp h _ List.mem_cons_self hlong
  · have hlarge : (Json.int (10 ^ digitLimit)).brief = false := fewDigits_pow_digitLimit
    rw [ofJson_list (by decide), joined_eq_error.mpr ⟨⟨_, List.mem_cons_self, hlarge⟩, rfl⟩]
    rintro ⟨v, ⟨⟩⟩
  · intro h
    cases ofText_eq_ok.mp h with
    | itself hflag hwhole hreal =>
      obtain ⟨x, hx⟩ : ∃ x, plainFloat? (strip "1e999").toList = some x := ⟨_, rfl⟩
      obtain ⟨sign, t, ht, -⟩ := plainFloat?_eq_some.mp hx
      exact hreal sign t ht

end Waypost
