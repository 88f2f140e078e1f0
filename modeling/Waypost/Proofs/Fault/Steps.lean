import Mathlib.Data.List.Forall2
import Waypost.Fault.Basic

/-!
# Steps that may fail

What a computation of several steps says about each of them: it succeeds exactly when each step
does, with the value of the step before.
-/

namespace Waypost

variable {ε α β : Type}

theorem bind_eq_ok {x : Except ε α} {f : α → Except ε β} {b : β} :
    (x >>= f) = .ok b ↔ ∃ a, x = .ok a ∧ f a = .ok b := by
  cases x with
  | error e =>
    constructor
    · intro h
      cases h
    · rintro ⟨_, h, _⟩
      cases h
  | ok a =>
    constructor
    · intro h
      exact ⟨a, rfl, h⟩
    · rintro ⟨_, h, hf⟩
      cases h
      exact hf

theorem bind_eq_error {x : Except ε α} {f : α → Except ε β} {e : ε} :
    (x >>= f) = .error e ↔ x = .error e ∨ ∃ a, x = .ok a ∧ f a = .error e := by
  cases x with
  | error other =>
    constructor
    · rintro ⟨⟩
      exact Or.inl rfl
    · rintro (⟨⟨⟩⟩ | ⟨_, ⟨⟩, _⟩)
      rfl
  | ok a =>
    constructor
    · intro h
      exact Or.inr ⟨a, rfl, h⟩
    · rintro (⟨⟨⟩⟩ | ⟨_, ⟨⟩, h⟩)
      exact h

theorem ok_bind (a : α) (f : α → Except ε β) : ((.ok a : Except ε α) >>= f) = f a := rfl

theorem error_bind (e : ε) (f : α → Except ε β) : ((.error e : Except ε α) >>= f) = .error e := rfl

theorem isSome_toOption {x : Except ε α} : x.toOption.isSome = true ↔ ∃ a, x = .ok a := by
  cases x with
  | error e =>
    constructor
    · intro h
      cases h
    · rintro ⟨_, h⟩
      cases h
  | ok a => exact ⟨fun _ => ⟨a, rfl⟩, fun _ => rfl⟩

/-- A test that finds what it looks for was made on the value of a step. -/
theorem exists_ok_of_any {x : Except ε α} {test : α → Bool} (h : x.toOption.any test = true) :
    ∃ a, x = .ok a ∧ test a = true := by
  cases x with
  | error e => cases h
  | ok a => exact ⟨a, rfl, h⟩

theorem map_eq_ok {g : α → β} {x : Except ε α} {b : β} :
    g <$> x = .ok b ↔ ∃ a, x = .ok a ∧ g a = b := by
  cases x with
  | error e => exact iff_of_false nofun (by rintro ⟨_, ⟨⟩, _⟩)
  | ok a =>
    constructor
    · rintro ⟨⟩
      exact ⟨a, rfl, rfl⟩
    · rintro ⟨_, ⟨⟩, rfl⟩
      rfl

theorem map_eq_error {g : α → β} {x : Except ε α} {e : ε} :
    g <$> x = .error e ↔ x = .error e := by
  cases x with
  | error other => exact ⟨fun h => by cases h; rfl, fun h => by cases h; rfl⟩
  | ok a => exact ⟨nofun, nofun⟩

/-- A step that goes on without fail comes to a value with a property exactly when the step before
    comes to one that leads there. -/
theorem exists_map_of {g : α → β} {x : Except ε α} {P : β → Prop} :
    (∃ b, g <$> x = .ok b ∧ P b) ↔ ∃ a, x = .ok a ∧ P (g a) := by
  cases x with
  | error e => exact iff_of_false (by rintro ⟨_, ⟨⟩, _⟩) (by rintro ⟨_, ⟨⟩, _⟩)
  | ok a =>
    constructor
    · rintro ⟨_, ⟨⟩, hb⟩
      exact ⟨a, rfl, hb⟩
    · rintro ⟨_, ⟨⟩, ha⟩
      exact ⟨g a, rfl, ha⟩

/-- A list of steps comes to values with a property exactly when each step does. -/
theorem exists_mapM_of {f : α → Except ε β} {xs : List α} {P : β → Prop} :
    (∃ ys, xs.mapM f = .ok ys ∧ ∀ y ∈ ys, P y) ↔ ∀ x ∈ xs, ∃ y, f x = .ok y ∧ P y := by
  induction xs with
  | nil =>
    refine iff_of_true ⟨[], rfl, ?_⟩ ?_
    · exact fun y hy => absurd hy List.not_mem_nil
    · exact fun x hx => absurd hx List.not_mem_nil
  | cons x rest ih =>
    rw [List.mapM_cons, List.forall_mem_cons]
    constructor
    · rintro ⟨_, h, hall⟩
      obtain ⟨y, hy, h⟩ := bind_eq_ok.mp h
      obtain ⟨ys, hys, h⟩ := bind_eq_ok.mp h
      cases h
      obtain ⟨hfirst, hothers⟩ := List.forall_mem_cons.mp hall
      exact ⟨⟨y, hy, hfirst⟩, ih.mp ⟨ys, hys, hothers⟩⟩
    · rintro ⟨⟨y, hy, hfirst⟩, hrest⟩
      obtain ⟨ys, hys, hothers⟩ := ih.mpr hrest
      rw [hy, ok_bind, hys, ok_bind]
      exact ⟨y :: ys, rfl, List.forall_mem_cons.mpr ⟨hfirst, hothers⟩⟩

/-- A list of steps succeeds exactly when each step does. -/
theorem exists_mapM {f : α → Except ε β} {xs : List α} :
    (∃ ys, xs.mapM f = .ok ys) ↔ ∀ x ∈ xs, ∃ y, f x = .ok y := by
  have h := @exists_mapM_of _ _ _ f xs fun _ => True
  simp only [and_true, implies_true] at h
  exact h

/-- Where steps have one fault only, a list of them has it exactly when one of them does. -/
theorem mapM_eq_error {f : α → Except ε β} {Bad : α → Prop} {fault : ε}
    (hf : ∀ x e, f x = .error e ↔ Bad x ∧ e = fault) {xs : List α} {e : ε} :
    xs.mapM f = .error e ↔ (∃ x ∈ xs, Bad x) ∧ e = fault := by
  induction xs with
  | nil =>
    refine iff_of_false nofun ?_
    rintro ⟨⟨x, hx, -⟩, -⟩
    exact List.not_mem_nil hx
  | cons x rest ih =>
    rw [List.mapM_cons, List.exists_mem_cons_iff]
    cases hx : f x with
    | error other =>
      obtain ⟨hbad, rfl⟩ := (hf x other).mp hx
      rw [error_bind]
      exact ⟨fun h => ⟨Or.inl hbad, (Except.error.inj h).symm⟩, fun h => by rw [h.2]⟩
    | ok y =>
      have hgood : ¬ Bad x := by
        intro hbad
        have herror := (hf x fault).mpr ⟨hbad, rfl⟩
        rw [hx] at herror
        cases herror
      rw [ok_bind, or_iff_right hgood, ← ih]
      exact map_eq_error

/-- A list of steps that succeeds comes to the value of each step, in order. -/
theorem forall₂_of_mapM {f : α → Except ε β} {xs : List α} {ys : List β}
    (h : xs.mapM f = .ok ys) : List.Forall₂ (fun x y => f x = .ok y) xs ys := by
  induction xs generalizing ys with
  | nil =>
    cases h
    exact List.Forall₂.nil
  | cons x rest ih =>
    rw [List.mapM_cons] at h
    obtain ⟨y, hy, h⟩ := bind_eq_ok.mp h
    obtain ⟨others, hothers, h⟩ := bind_eq_ok.mp h
    cases h
    exact List.Forall₂.cons hy (ih hothers)

/-- Steps that each come to a value come to all these values, in order. -/
theorem mapM_of_forall₂ {f : α → Except ε β} {xs : List α} {ys : List β}
    (h : List.Forall₂ (fun x y => f x = .ok y) xs ys) : xs.mapM f = .ok ys := by
  induction h with
  | nil => rfl
  | cons hfirst _ ih =>
    rw [List.mapM_cons, hfirst, ok_bind, ih, ok_bind]
    rfl

/-- Values that can be chosen for each element of a list make up a list. -/
theorem exists_forall₂ {R : α → β → Prop} {xs : List α} (h : ∀ x ∈ xs, ∃ y, R x y) :
    ∃ ys, List.Forall₂ R xs ys := by
  induction xs with
  | nil => exact ⟨[], .nil⟩
  | cons x rest ih =>
    obtain ⟨hfirst, hrest⟩ := List.forall_mem_cons.mp h
    obtain ⟨y, hy⟩ := hfirst
    obtain ⟨ys, hys⟩ := ih hrest
    exact ⟨y :: ys, .cons hy hys⟩

/-- Whatever stands in the second of two related rows is related to something in the first. -/
theorem exists_mem_of_forall₂ {R : α → β → Prop} {xs : List α} {ys : List β}
    (h : List.Forall₂ R xs ys) {y : β} (hy : y ∈ ys) : ∃ x ∈ xs, R x y := by
  induction h with
  | nil => exact absurd hy List.not_mem_nil
  | cons hfirst _ ih =>
    rcases List.mem_cons.mp hy with rfl | hy
    · exact ⟨_, List.mem_cons_self, hfirst⟩
    · obtain ⟨x, hx, hrelated⟩ := ih hy
      exact ⟨x, List.mem_cons_of_mem _ hx, hrelated⟩

/-- Steps one after another succeed exactly when each does, where that does not depend on what the
    steps before it came to. -/
theorem exists_foldlM {f : β → α → Except ε β} {xs : List α} {P : α → Prop}
    (hstep : ∀ s, ∀ x ∈ xs, (∃ s', f s x = .ok s') ↔ P x) (start : β) :
    (∃ last, xs.foldlM f start = .ok last) ↔ ∀ x ∈ xs, P x := by
  induction xs generalizing start with
  | nil => exact iff_of_true ⟨start, rfl⟩ fun x hx => absurd hx List.not_mem_nil
  | cons x rest ih =>
    obtain ⟨hfirst, hrest⟩ : (∀ s, (∃ s', f s x = .ok s') ↔ P x) ∧
        ∀ s, ∀ y ∈ rest, (∃ s', f s y = .ok s') ↔ P y :=
      ⟨fun s => hstep s x List.mem_cons_self, fun s y hy => hstep s y (List.mem_cons_of_mem _ hy)⟩
    rw [List.foldlM_cons, List.forall_mem_cons]
    constructor
    · rintro ⟨last, h⟩
      obtain ⟨s, hs, hlast⟩ := bind_eq_ok.mp h
      exact ⟨(hfirst start).mp ⟨s, hs⟩, (ih hrest s).mp ⟨last, hlast⟩⟩
    · rintro ⟨hx, hall⟩
      obtain ⟨s, hs⟩ := (hfirst start).mpr hx
      rw [hs]
      exact (ih hrest s).mpr hall

/-- What each step keeps, all steps one after another keep. -/
theorem foldlM_keeps {f : β → α → Except ε β} {xs : List α} {start last : β} {I : β → Prop}
    (hstep : ∀ s x s', I s → f s x = .ok s' → I s') (hstart : I start)
    (h : xs.foldlM f start = .ok last) : I last := by
  induction xs generalizing start with
  | nil =>
    cases h
    exact hstart
  | cons x rest ih =>
    rw [List.foldlM_cons] at h
    obtain ⟨s, hs, hlast⟩ := bind_eq_ok.mp h
    exact ih (hstep start x s hstart hs) hlast

/-! ## Whole numbers -/

section Whole

variable {x : Except Decimal.NoInteger Int}

theorem wholeNumber_eq_ok {n : Int} : wholeNumber x = .ok n ↔ x = .ok n := by
  cases x with
  | ok m => exact ⟨fun h => by cases h; rfl, fun h => by cases h; rfl⟩
  | error why => exact ⟨nofun, nofun⟩

theorem wholeNumber_eq_error {fault : Fault} :
    wholeNumber x = .error fault ↔ ∃ why, x = .error why ∧ fault = .unexpected (.noInteger why) := by
  cases x with
  | ok n => exact iff_of_false nofun (by rintro ⟨_, ⟨⟩, _⟩)
  | error why =>
    constructor
    · rintro ⟨⟩
      exact ⟨why, rfl, rfl⟩
    · rintro ⟨_, ⟨⟩, rfl⟩
      rfl

end Whole

end Waypost
