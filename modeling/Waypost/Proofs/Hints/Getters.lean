import Waypost.Proofs.Fault.First
import Waypost.Proofs.Hints.Coercion
import Waypost.Proofs.Hints.History

/-!
# Asking hints for a form

Hints are asked for a truth value, a double or a text under a key, with a default for the case that
the stored value has none. Whatever the hints went through, the answer is told by the stored value
alone. A whole number beyond the range of doubles breaks the question for a double, and one with too
many digits that for a text.

* `Hints.flagOr`, `Hints.floatOr`, `Hints.textOr` -- the three questions;
* `Answers` -- the double that a stored value gives, or the default;
* `not_namesTruth_of_stored` -- a stored text names no truth value;
* `floatOr_eq_ok`, `floatOr_eq_error` -- **when the question for a double is answered, and how**;
* `textOr_eq_ok`, `textOr_eq_error` -- the same for a text;
* `asked_after_run` -- **the three questions after every run**.
-/

namespace Waypost

open Text Decimal

namespace Hints

/-! ## 1. Questions -/

/-- The truth value under a key, or the default. -/
def flagOr (h : Hints) (key : String) (default : Bool) : Bool := (h.flag? key).getD default

/-- The double under a key, or the default. -/
def floatOr (h : Hints) (key : String) (default : Float) : Except Fault Float := do
  return (← h.float? key).getD default

/-- The text under a key, or the default. -/
def textOr (h : Hints) (key : String) (default : String) : Except Fault String := do
  return (← h.text? key).getD default

/-- What a question for a double is answered: the stored number, the number that a stored text
    spells in generous notation, and otherwise the default. -/
inductive Answers (default : Float) : Option HintValue → Float → Prop
  | missing : Answers default none default
  | flag (b : Bool) : Answers default (some (.flag b)) default
  | int {n : Int} (h : n.natAbs < rangeBound) : Answers default (some (.int n)) (Float.ofInt n)
  | float (x : Float) : Answers default (some (.float x)) x
  | number {s : String} {x : Float} (h : NumberText s x) : Answers default (some (.text s)) x
  | text {s : String} (h : ∀ x, ¬ NumberText s x) : Answers default (some (.text s)) default

/-- A stored whole number that no finite double is next to. -/
inductive BeyondDoubles : Option HintValue → Prop
  | int {n : Int} (h : rangeBound ≤ n.natAbs) : BeyondDoubles (some (.int n))

/-! ## 2. Doubles -/

theorem looseFloat?_eq_none {s : String} : looseFloat? s = none ↔ ∀ x, ¬ NumberText s x := by
  rw [Option.eq_none_iff_forall_ne_some]
  exact forall_congr' fun x => not_congr looseFloat?_eq_some

/-- A whole number has a double exactly within the range. -/
theorem floatOfInt_eq (n : Int) :
    floatOfInt n = if n.natAbs < rangeBound then .ok (Float.ofInt n)
      else .error (.unexpected .integerTooLarge) := by
  unfold floatOfInt
  dsimp only
  by_cases h : n.natAbs < rangeBound
  · rw [if_pos h, if_pos ((isFinite_ofInt n).mpr h)]
  · rw [if_neg h, if_neg (mt (isFinite_ofInt n).mp h)]

section Float

variable {h : Hints} {key : String}

/-- **Outside the range of doubles nothing is answered.** -/
theorem floatOr_of_beyond (hbeyond : BeyondDoubles (h.get? key)) (default : Float) :
    h.floatOr key default = .error (.unexpected .integerTooLarge) := by
  unfold floatOr float?
  cases hv : h.get? key with
  | none =>
    rw [hv] at hbeyond
    cases hbeyond
  | some value =>
    rw [hv] at hbeyond
    cases hbeyond with
    | int hlarge =>
      dsimp only
      rw [floatOfInt_eq, if_neg (Nat.not_lt.mpr hlarge)]
      rfl

/-- **Within it a question is always answered.** -/
theorem exists_answer (hwithin : ¬ BeyondDoubles (h.get? key)) (default : Float) :
    ∃ x, h.floatOr key default = .ok x ∧ Answers default (h.get? key) x := by
  unfold floatOr float?
  cases hv : h.get? key with
  | none => exact ⟨default, rfl, .missing⟩
  | some value =>
    rw [hv] at hwithin
    cases value with
    | flag b => exact ⟨default, rfl, .flag b⟩
    | int n =>
      have hsmall : n.natAbs < rangeBound := Nat.not_le.mp fun hlarge => hwithin (.int hlarge)
      refine ⟨Float.ofInt n, ?_, .int hsmall⟩
      dsimp only
      rw [floatOfInt_eq, if_pos hsmall]
      rfl
    | float x => exact ⟨x, rfl, .float x⟩
    | text s =>
      dsimp only
      cases hloose : looseFloat? s with
      | some x => exact ⟨x, rfl, .number (looseFloat?_eq_some.mp hloose)⟩
      | none => exact ⟨default, rfl, .text (looseFloat?_eq_none.mp hloose)⟩

/-- One answer is given, and none beyond the range of doubles. -/
theorem Answers.unique {default x y : Float} {stored : Option HintValue}
    (hx : Answers default stored x) (hy : Answers default stored y) : x = y := by
  cases hx with
  | missing => cases hy; rfl
  | flag b => cases hy; rfl
  | int hn => cases hy; rfl
  | float x => cases hy; rfl
  | number hs =>
    cases hy with
    | number hother =>
      rw [← looseFloat?_eq_some] at hs hother
      exact Option.some.inj (hs.symm.trans hother)
    | text hnone => exact absurd hs (hnone _)
  | text hnone =>
    cases hy with
    | number hs => exact absurd hs (hnone _)
    | text => rfl

theorem Answers.not_beyond {default x : Float} {stored : Option HintValue}
    (hx : Answers default stored x) : ¬ BeyondDoubles stored := by
  intro hbeyond
  cases hbeyond with
  | int hlarge =>
    cases hx with
    | int hsmall => exact absurd hsmall (Nat.not_lt.mpr hlarge)

/-- **A question for a double is answered as the stored value says.** -/
theorem floatOr_eq_ok {default x : Float} :
    h.floatOr key default = .ok x ↔ Answers default (h.get? key) x := by
  constructor
  · intro hok
    by_cases hbeyond : BeyondDoubles (h.get? key)
    · rw [floatOr_of_beyond hbeyond] at hok
      cases hok
    · obtain ⟨y, hy, hanswer⟩ := exists_answer hbeyond default
      rw [hy] at hok
      cases hok
      exact hanswer
  · intro hanswer
    obtain ⟨y, hy, hother⟩ := exists_answer hanswer.not_beyond default
    rw [hy, hother.unique hanswer]

/-- **It breaks down on whole numbers beyond the range of doubles alone.** -/
theorem floatOr_eq_error {default : Float} {fault : Fault} :
    h.floatOr key default = .error fault ↔
      BeyondDoubles (h.get? key) ∧ fault = .unexpected .integerTooLarge := by
  constructor
  · intro herror
    by_cases hbeyond : BeyondDoubles (h.get? key)
    · rw [floatOr_of_beyond hbeyond] at herror
      cases herror
      exact ⟨hbeyond, rfl⟩
    · obtain ⟨y, hy, -⟩ := exists_answer hbeyond default
      rw [hy] at herror
      cases herror
  · rintro ⟨hbeyond, rfl⟩
    exact floatOr_of_beyond hbeyond default

end Float

/-! ## 3. Truth values -/

theorem mem_of_get? {h : Hints} {key : String} {value : HintValue} (hv : h.get? key = some value) :
    (normalizeKey key, value) ∈ h.entries := by
  obtain ⟨before, after, hentries, -⟩ := List.lookup_eq_some_iff.mp hv
  rw [hentries]
  exact List.mem_append_right _ List.mem_cons_self

/-- A stored text names no truth value: it would have been stored as one. -/
theorem not_namesTruth_of_stored {h : Hints} (hr : h.Regular) {key s : String}
    (hs : h.get? key = some (.text s)) (b : Bool) : ¬ NamesTruth s b := by
  have hread := hr.settled (normalizeKey key, .text s) (mem_of_get? hs)
  rw [HintValue.toJson, HintValue.ofJson_str, ofText_eq_ok] at hread
  cases hread with
  | itself hflag => exact hflag b

/-- **A question for a truth value is answered by a stored one alone.** -/
theorem flag?_of_regular {h : Hints} (hr : h.Regular) {key : String} {b : Bool} :
    h.flag? key = some b ↔ h.get? key = some (.flag b) := by
  rw [flag?_eq]
  cases hv : h.get? key with
  | none => exact iff_of_false nofun nofun
  | some value =>
    rw [Option.bind_some]
    cases value with
    | flag c =>
      show some c = some b ↔ _
      exact ⟨fun he => by cases he; rfl, fun he => by cases he; rfl⟩
    | int n => exact iff_of_false nofun nofun
    | float x => exact iff_of_false nofun nofun
    | text s =>
      refine iff_of_false (fun hflag => ?_) nofun
      exact not_namesTruth_of_stored hr hv b (flagOfText?_eq_some.mp hflag)

/-! ## 4. Texts -/

section Text

variable {h : Hints} {key default : String}

/-- **A question for a text is answered with the text of the stored value.** -/
theorem textOr_eq_ok {text : String} :
    h.textOr key default = .ok text ↔
      h.get? key = none ∧ text = default ∨
        ∃ value, h.get? key = some value ∧ value.shown = .ok text := by
  unfold textOr text?
  cases h.get? key with
  | none => exact ⟨fun hok => .inl ⟨rfl, (Except.ok.inj hok).symm⟩,
      fun hok => hok.elim (fun hnone => hnone.2 ▸ rfl) (fun ⟨_, hsome, _⟩ => nomatch hsome)⟩
  | some value =>
    have hmap : (some value).mapM HintValue.shown = some <$> value.shown := rfl
    simp [hmap]

/-- **It breaks down on whole numbers with too many digits alone.** -/
theorem textOr_eq_error {fault : Fault} :
    h.textOr key default = .error fault ↔
      (∃ n, h.get? key = some (.int n) ∧ fewDigits n = false) ∧
        fault = .unexpected .longInteger := by
  rw [textOr, bind_pure_comp, map_eq_error, text?_eq_error]

end Text

/-! ## 5. After a run -/

/-- **The three questions after every run.** For a truth value the answer is the stored one, and
    otherwise the default; for a text the text of the stored value, or the default, but a whole
    number with too many digits breaks the question down; for a double the stored number, the number
    of a stored text, or the default, but beyond the range of doubles the question breaks down. -/
theorem asked_after_run (operations : List Operation) (key : String) :
    (∀ default b, (ofRun operations).flagOr key default = b ↔
      (ofRun operations).get? key = some (.flag b) ∨
        (∀ c, (ofRun operations).get? key ≠ some (.flag c)) ∧ b = default) ∧
    (∀ default text, (ofRun operations).textOr key default = .ok text ↔
      (ofRun operations).get? key = none ∧ text = default ∨
        ∃ value, (ofRun operations).get? key = some value ∧ value.shown = .ok text) ∧
    (∀ default fault, (ofRun operations).textOr key default = .error fault ↔
      (∃ n, (ofRun operations).get? key = some (.int n) ∧ fewDigits n = false) ∧
        fault = .unexpected .longInteger) ∧
    (∀ default x, (ofRun operations).floatOr key default = .ok x ↔
      Answers default ((ofRun operations).get? key) x) ∧
    ∀ default fault, (ofRun operations).floatOr key default = .error fault ↔
      BeyondDoubles ((ofRun operations).get? key) ∧ fault = .unexpected .integerTooLarge := by
  have hregular := (ofRun_keeps operations).1
  refine ⟨fun default b => ?_, fun default text => textOr_eq_ok,
    fun default fault => textOr_eq_error, fun default x => floatOr_eq_ok,
    fun default fault => floatOr_eq_error⟩
  unfold flagOr
  cases hflag : (ofRun operations).flag? key with
  | some c =>
    have hstored := (flag?_of_regular hregular).mp hflag
    rw [hstored]
    constructor
    · rintro rfl
      exact Or.inl rfl
    · rintro (he | ⟨hnone, -⟩)
      · cases he
        rfl
      · exact absurd rfl (hnone c)
  | none =>
    have hnone : ∀ c, (ofRun operations).get? key ≠ some (.flag c) := by
      intro c hc
      rw [(flag?_of_regular hregular).mpr hc] at hflag
      cases hflag
    constructor
    · rintro rfl
      exact Or.inr ⟨hnone, rfl⟩
    · rintro (he | ⟨-, rfl⟩)
      · exact absurd he (hnone b)
      · rfl

/-- A whole number is stored as it is. -/
theorem get?_ofRun_put (key : String) (n : Int) :
    (ofRun [.put key (.int n)]).get? key = some (.int n) := get?_set_self empty key _

/-- Ten to the power of four hundred is stored, and asking for it as a double breaks down; so does
    asking for the text of the least whole number with too many digits. -/
theorem power_of_ten_not_answered :
    (ofRun [.put "n" (.int (10 ^ 400))]).floatOr "n" 2.5 =
      .error (.unexpected .integerTooLarge) ∧
    (ofRun [.put "n" (.int (10 ^ digitLimit))]).textOr "n" "" =
      .error (.unexpected .longInteger) := by
  constructor
  · refine floatOr_of_beyond ?_ 2.5
    rw [get?_ofRun_put]
    exact .int (by decide +kernel)
  · exact textOr_eq_error.mpr ⟨⟨_, get?_ofRun_put _ _, fewDigits_pow_digitLimit⟩, rfl⟩

end Hints

end Waypost
