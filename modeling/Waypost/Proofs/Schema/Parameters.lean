import Waypost.Proofs.Hints.Query
import Waypost.Proofs.Text.Plain
import Waypost.Schema.Query

/-!
# What parameters say that passed their check

* `Check.forall_seq`, `Check.forall_map` -- checks that passed together have each passed;
* `fields_of_check` -- switch for elevation and output type of a query are the parameters of these
  names;
* `Parameters.unbound_text` -- a text that was sent several times is the last one;
* `flagOfText?_of_flagOfWord` -- a typed field and a hint never read opposite truth values from one
  text;
* `elevation_ne_true` -- **a query without the switch does not ask for elevation under its own
  name**.
-/

namespace Waypost

open Text

/-! ## 1. Checks that passed -/

namespace Check

theorem forall_map {P : β → Prop} {f : α → β} {check : Check α}
    (h : ∀ a, check = .passed a → P (f a)) : ∀ b, (f <$> check) = .passed b → P b := by
  intro b hb
  cases check with
  | passed a =>
    cases hb
    exact h a rfl
  | failed issues => cases hb
  | broken cause => cases hb

/-- What holds of all values that two checks lead to holds of the value of both. -/
theorem forall_seq {P : β → Prop} {f : Check (α → β)} {check : Check α}
    (h : ∀ g, f = .passed g → ∀ a, check = .passed a → P (g a)) :
    ∀ b, (f <*> check) = .passed b → P b := by
  intro b hb
  cases f with
  | passed g =>
    cases check with
    | passed a =>
      cases hb
      exact h g rfl a rfl
    | failed issues => cases hb
    | broken cause => cases hb
  | failed issues => cases check <;> cases hb
  | broken cause => cases check <;> cases hb

/-- Two checks passed together with the values that they passed with. -/
theorem passed_of_pair {first : Check α} {second : Check β} {a : α} {b : β}
    (h : (Prod.mk <$> first <*> second) = .passed (a, b)) :
    first = .passed a ∧ second = .passed b := by
  cases first with
  | passed value =>
    cases second with
    | passed other =>
      cases h
      exact ⟨rfl, rfl⟩
    | failed issues => cases h
    | broken cause => cases h
  | failed issues => cases second <;> cases h
  | broken cause => cases second <;> cases h

/-- The value that passed, where one did. -/
def passed? : Check α → Option α
  | .passed value => some value
  | _ => none

/-- A test that finds what it looks for was made on the value that passed. -/
theorem exists_passed_of_any {check : Check α} {test : α → Bool}
    (h : check.passed?.any test = true) : ∃ a, check = .passed a ∧ test a = true := by
  cases check with
  | passed value => exact ⟨value, rfl, h⟩
  | failed issues => cases h
  | broken cause => cases h

theorem inside_eq_passed {check : Check α} {step : Step} {a : α} :
    check.inside step = .passed a ↔ check = .passed a := by
  cases check with
  | passed value => exact Iff.rfl
  | failed issues => exact iff_of_false (by rintro ⟨⟩) (by rintro ⟨⟩)
  | broken cause => exact Iff.rfl

end Check

theorem pathFirst_eq_passed {check : Check α} {a : α} :
    pathFirst check = .passed a ↔ check = .passed a := by
  cases check with
  | passed value => exact Iff.rfl
  | failed issues => exact iff_of_false (by rintro ⟨⟩) (by rintro ⟨⟩)
  | broken cause => exact Iff.rfl

/-- The switch for elevation and the output type are two of the twenty-two parameters of a query. -/
theorem fields_of_check {ps : Parameters} {q : RouteQuery} (h : RouteQuery.check ps = .passed q) :
    ps.one Key.elevation false Check.flag = .passed q.elevation ∧
      ps.unbound "type" "json" Check.text = .passed q.outputType := by
  unfold RouteQuery.check at h
  rw [pathFirst_eq_passed] at h
  revert q h
  iterate 21 apply Check.forall_seq
  apply Check.forall_map
  intros
  constructor <;> assumption

/-- The output type is one of the eight parameters for a batch. -/
theorem BulkQuery.outputType_of_check {ps : Parameters} {q : BulkQuery}
    (h : BulkQuery.check ps = .passed q) :
    ps.unbound "type" "json" Check.text = .passed q.outputType := by
  unfold BulkQuery.check at h
  rw [pathFirst_eq_passed] at h
  revert q h
  iterate 7 apply Check.forall_seq
  apply Check.forall_map
  intros
  assumption

/-- A text that only the query string may hold is the one that was sent last. -/
theorem Parameters.unbound_text (ps : Parameters) (key fallback : String) :
    ps.unbound key fallback Check.text = .passed ((ps.values key).getLast?.getD fallback) := by
  unfold unbound
  cases (ps.values key).getLast? with
  | none => rfl
  | some value => rfl

/-- A parameter that was sent once, and that no path binds, has passed its own check. -/
theorem Parameters.one_of_single {raw : Grouped} {key value : String}
    (hvalue : raw.lookup key = some [value]) {fallback a : α} {check : Json → Check α}
    (h : Parameters.one ⟨raw, []⟩ key fallback check = .passed a) :
    check (.str value) = .passed a := by
  have hvalues : Parameters.values ⟨raw, []⟩ key = [value] := by
    unfold values
    rw [hvalue]
    rfl
  have hunbound : Parameters.unbound ⟨raw, []⟩ key fallback check = .passed a := h
  unfold unbound at hunbound
  rw [hvalues] at hunbound
  exact Check.inside_eq_passed.mp hunbound

/-! ## 2. Truth values -/

theorem isBlank_of_ascii : ∀ n < 128, 48 ≤ (Char.ofNat n).toLower.toNat →
    isBlank (Char.ofNat n) = false := by decide +kernel

/-- A character whose small letter is a letter or a digit of ASCII is one of ASCII, and no blank. -/
theorem ascii_of_toLower {c : Char} (hfirst : 48 ≤ c.toLower.toNat)
    (hlast : c.toLower.toNat < 128) :
    c.toNat < 128 ∧ isBlank c = false := by
  have hc : c.toNat < 128 := by
    by_contra hbeyond
    rw [toLower_of_not_ascii hbeyond] at hlast
    exact hbeyond hlast
  have hblank := isBlank_of_ascii c.toNat hc
  rw [Char.ofNat_toNat] at hblank
  exact ⟨hc, hblank hfirst⟩

theorem ascii_of_mem_words : ∀ word ∈ Check.trueWords ++ Check.falseWords, ∀ c ∈ word.toList,
    48 ≤ c.toNat ∧ c.toNat < 128 := by
  have hall : ((Check.trueWords ++ Check.falseWords).all fun word =>
      word.toList.all fun c => decide (48 ≤ c.toNat ∧ c.toNat < 128)) = true := by decide +kernel
  intro word hword c hc
  exact of_decide_eq_true (List.all_eq_true.mp (List.all_eq_true.mp hall word hword) c hc)

/-- A text that is one of the words for a truth value, but for capitals, is that word in small
    letters, with no blanks around it. -/
theorem lower_strip_of_word {s : String}
    (h : String.ofList (s.toList.map (·.toLower)) ∈ Check.trueWords ++ Check.falseWords) :
    lower (strip s) = String.ofList (s.toList.map (·.toLower)) := by
  have hplain : ∀ c ∈ s.toList, c.toNat < 128 ∧ isBlank c = false := by
    intro c hc
    have hword := ascii_of_mem_words _ h c.toLower (by
      rw [String.toList_ofList]
      exact List.mem_map_of_mem hc)
    exact ascii_of_toLower hword.1 hword.2
  unfold lower strip
  rw [trimBoth_of_outside fun c hc => (hplain c hc).2, String.toList_ofList,
    lowerFrom_of_ascii fun c hc => (hplain c hc).1]

/-- **A text that a typed field reads as false is no true hint.** -/
theorem flagOfText?_of_flagOfWord {s : String} (h : Check.flagOfWord s = .passed false) :
    HintValue.flagOfText? s ≠ some true := by
  unfold Check.flagOfWord at h
  dsimp only at h
  split at h
  · cases h
  · split at h
    · rename_i hfalse
      have hmem := List.contains_iff_mem.mp hfalse
      have hne : ∀ word ∈ Check.falseWords, word ≠ "true" := by decide +kernel
      unfold HintValue.flagOfText?
      dsimp only
      rw [lower_strip_of_word (List.mem_append_right _ hmem), if_neg (hne _ hmem)]
      split
      · simp
      · simp
    · cases h

/-- Whatever a check of texts lets pass was encodable and passed that check. -/
theorem Check.readable_eq_passed {α : Type} {check : String → Check α} {s : String} {a : α} :
    Check.readable check s = .passed a ↔ encodable s = true ∧ check s = .passed a := by
  unfold Check.readable
  split
  · rename_i hs
    exact ⟨fun h => ⟨hs, h⟩, fun h => h.2⟩
  · rename_i hs
    exact iff_of_false nofun fun h => hs h.1

/-! ## 3. The switch for elevation -/

/-- **A query without the switch does not ask for elevation under its own name**: the text that was
    sent once under that name is no true hint. -/
theorem elevation_ne_true {pairs : List (String × String)} {q : RouteQuery}
    (hq : RouteQuery.check ⟨groupPairs pairs, []⟩ = .passed q) (hoff : q.elevation = false)
    {value : String}
    (hsent : (Key.elevation, value) ∈ (groupPairs pairs).sentOnce Key.elevation) :
    HintValue.flagOfText? value ≠ some true := by
  have hmem := (Grouped.mem_sentOnce.mp hsent).1
  have hvalue := lookup_of_mem (nodup_keys_groupPairs pairs) hmem
  have hflag := Parameters.one_of_single hvalue (fields_of_check hq).1
  rw [hoff] at hflag
  exact flagOfText?_of_flagOfWord (Check.readable_eq_passed.mp hflag).2

end Waypost
