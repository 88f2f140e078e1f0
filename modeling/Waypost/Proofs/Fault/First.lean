import Waypost.Proofs.Fault.Steps

/-!
# The first fault

A computation of several steps ends with the fault of the first step that fails.

* `fault?` -- the fault of a computation that fails;
* `fault?_bind`, `fault?_mapM` -- of two steps, and of a list of steps, the first fault counts;
* `FailsOnly` -- a computation that fails with no other faults than those with a property;
* `failsOnly_mapM` -- **a list of steps fails as the first step does that fails**;
* `Fault.Own` -- a refusal or a breakdown, and no report of a collaborator;
* `Fault.Broken` -- a breakdown alone;
* `Fault.Numeric` -- a breakdown of a computation with numbers, and not over an index.
-/

namespace Waypost

variable {α β : Type}

/-! ## 1. Faults -/

/-- The fault of a computation that fails. -/
def fault? (x : Except Fault α) : Option Fault :=
  match x with
  | .ok _ => none
  | .error fault => some fault

@[simp] theorem fault?_ok (a : α) : fault? (.ok a : Except Fault α) = none := rfl

@[simp] theorem fault?_error (fault : Fault) :
    fault? (.error fault : Except Fault α) = some fault := rfl

theorem fault?_eq_some {x : Except Fault α} {fault : Fault} :
    fault? x = some fault ↔ x = .error fault := by
  cases x with
  | ok a => exact iff_of_false nofun nofun
  | error e =>
    exact ⟨fun h => congrArg Except.error (Option.some.inj h), fun h => congrArg fault? h⟩

theorem fault?_eq_none {x : Except Fault α} : fault? x = none ↔ ∃ a, x = .ok a := by
  cases x with
  | ok a => exact iff_of_true rfl ⟨a, rfl⟩
  | error e => exact iff_of_false nofun (by rintro ⟨_, ⟨⟩⟩)

/-- Of two steps the first fault counts. That of the second step may be told without the value that
    the first one came to. -/
theorem fault?_bind {x : Except Fault α} {f : α → Except Fault β} {after : Option Fault}
    (h : ∀ a, x = .ok a → fault? (f a) = after) : fault? (x >>= f) = (fault? x).or after := by
  cases x with
  | ok a => exact h a rfl
  | error e => rfl

theorem fault?_map (f : α → β) (x : Except Fault α) : fault? (f <$> x) = fault? x := by
  cases x <;> rfl

theorem fault?_bind_pure (f : α → β) (x : Except Fault α) :
    fault? (x >>= fun a => pure (f a)) = fault? x := by
  cases x <;> rfl

/-- Of a list of steps the first fault counts. -/
theorem fault?_mapM (f : α → Except Fault β) (xs : List α) :
    fault? (xs.mapM f) = xs.findSome? fun x => fault? (f x) := by
  induction xs with
  | nil => rfl
  | cons x rest ih =>
    have hrest : ∀ y, f x = .ok y →
        fault? (rest.mapM f >>= fun ys => pure (y :: ys)) = fault? (rest.mapM f) :=
      fun y _ => fault?_bind_pure (y :: ·) (rest.mapM f)
    rw [List.mapM_cons, fault?_bind hrest, ih, List.findSome?_cons]
    cases fault? (f x) <;> rfl

/-! ## 2. Faults of one kind -/

/-- A computation that fails with no other faults than those with a property. -/
def FailsOnly (P : Fault → Prop) (x : Except Fault α) : Prop := ∀ fault, x = .error fault → P fault

section Kind

variable {P Q : Fault → Prop}

theorem failsOnly_iff {x : Except Fault α} : FailsOnly P x ↔ ∀ fault ∈ fault? x, P fault :=
  forall_congr' fun fault => by rw [Option.mem_def, fault?_eq_some]

theorem failsOnly_of_ok {x : Except Fault α} (h : ∃ a, x = .ok a) : FailsOnly P x := by
  obtain ⟨a, rfl⟩ := h
  rintro _ ⟨⟩

theorem failsOnly_error {fault : Fault} (h : P fault) :
    FailsOnly P (.error fault : Except Fault α) := by
  rintro _ ⟨⟩
  exact h

theorem FailsOnly.mono {x : Except Fault α} (h : FailsOnly P x) (hPQ : ∀ fault, P fault → Q fault) :
    FailsOnly Q x :=
  fun fault hx => hPQ fault (h fault hx)

theorem failsOnly_bind {x : Except Fault α} {f : α → Except Fault β} :
    FailsOnly P (x >>= f) ↔ FailsOnly P x ∧ ∀ a, x = .ok a → FailsOnly P (f a) := by
  cases x with
  | ok a =>
    refine ⟨fun h => ⟨failsOnly_of_ok ⟨a, rfl⟩, ?_⟩, fun h => h.2 a rfl⟩
    rintro _ ⟨⟩
    exact h
  | error e =>
    refine ⟨fun h => ⟨?_, nofun⟩, fun h => ?_⟩
    · rintro _ ⟨⟩
      exact h e rfl
    · rintro _ ⟨⟩
      exact h.1 e rfl

theorem FailsOnly.bind {x : Except Fault α} {f : α → Except Fault β} (hx : FailsOnly P x)
    (hf : ∀ a, x = .ok a → FailsOnly P (f a)) : FailsOnly P (x >>= f) :=
  failsOnly_bind.mpr ⟨hx, hf⟩

theorem failsOnly_map {f : α → β} {x : Except Fault α} :
    FailsOnly P (f <$> x) ↔ FailsOnly P x := by
  rw [failsOnly_iff, fault?_map, ← failsOnly_iff]

/-- **A list of steps fails as the first step does that fails.** -/
theorem failsOnly_mapM {f : α → Except Fault β} {xs : List α} :
    FailsOnly P (xs.mapM f) ↔
      ∀ x, xs.find? (fun x => (fault? (f x)).isSome) = some x → FailsOnly P (f x) := by
  rw [failsOnly_iff, fault?_mapM]
  induction xs with
  | nil => exact iff_of_true nofun nofun
  | cons x rest ih =>
    rw [List.findSome?_cons, List.find?_cons]
    cases hx : fault? (f x) with
    | none => exact ih
    | some fault =>
      have hfails : f x = .error fault := fault?_eq_some.mp hx
      dsimp only [Option.isSome_some]
      constructor
      · rintro h _ ⟨⟩
        rw [hfails]
        exact failsOnly_error (h fault rfl)
      · rintro h _ ⟨⟩
        exact h x rfl fault hfails

theorem FailsOnly.mapM {f : α → Except Fault β} {xs : List α} (h : ∀ x ∈ xs, FailsOnly P (f x)) :
    FailsOnly P (xs.mapM f) :=
  failsOnly_mapM.mpr fun x hx => h x (List.mem_of_find?_eq_some hx)

theorem FailsOnly.filterMapM {f : α → Except Fault (Option β)} {xs : List α}
    (h : ∀ x ∈ xs, FailsOnly P (f x)) : FailsOnly P (xs.filterMapM f) := by
  induction xs with
  | nil => exact failsOnly_of_ok ⟨[], rfl⟩
  | cons x rest ih =>
    rw [List.filterMapM_cons]
    obtain ⟨hx, hrest⟩ := List.forall_mem_cons.mp h
    refine hx.bind fun kept _ => ?_
    cases kept with
    | none => exact ih hrest
    | some y => exact (ih hrest).bind fun ys _ => failsOnly_of_ok ⟨y :: ys, rfl⟩

theorem FailsOnly.foldlM {f : β → α → Except Fault β} {xs : List α} {start : β}
    (h : ∀ s, ∀ x ∈ xs, FailsOnly P (f s x)) : FailsOnly P (xs.foldlM f start) := by
  induction xs generalizing start with
  | nil => exact failsOnly_of_ok ⟨start, rfl⟩
  | cons x rest ih =>
    rw [List.foldlM_cons]
    exact (h start x List.mem_cons_self).bind fun s _ =>
      ih fun s y hy => h s y (List.mem_cons_of_mem x hy)

end Kind

/-! ## 3. Own faults -/

/-- A refusal or a breakdown, and no report of a collaborator. -/
def Fault.Own : Fault → Prop
  | .reported _ _ _ => False
  | _ => True

/-- A breakdown, and neither a refusal nor a report. -/
def Fault.Broken : Fault → Prop
  | .unexpected _ => True
  | _ => False

/-- A breakdown of a computation with numbers. It is none over the shape of a value, and so none
    over an index. -/
def Fault.Numeric : Fault → Prop
  | .unexpected (.mismatch _) => False
  | .unexpected _ => True
  | _ => False

theorem Fault.Numeric.broken {fault : Fault} (h : fault.Numeric) : fault.Broken := by
  cases fault with
  | unexpected cause => trivial
  | refused reason => exact h.elim
  | reported kind message details => exact h.elim

theorem Fault.Broken.own {fault : Fault} (h : fault.Broken) : fault.Own := by
  cases fault with
  | unexpected cause => trivial
  | refused reason => exact h.elim
  | reported kind message details => exact h.elim

theorem Fault.Broken.exists_cause {fault : Fault} (h : fault.Broken) :
    ∃ cause, fault = .unexpected cause := by
  cases fault with
  | unexpected cause => exact ⟨cause, rfl⟩
  | refused reason => exact h.elim
  | reported kind message details => exact h.elim

/-- What fails with breakdowns only fails with own faults only. -/
theorem FailsOnly.own {x : Except Fault α} (h : FailsOnly Fault.Broken x) :
    FailsOnly Fault.Own x :=
  h.mono fun _ => Fault.Broken.own

theorem floatOfInt_cases (n : Int) : floatOfInt n = .ok (Float.ofInt n) ∨
    floatOfInt n = .error (.unexpected .integerTooLarge) := by
  unfold floatOfInt
  dsimp only
  split
  · exact Or.inl rfl
  · exact Or.inr rfl

theorem numeric_floatOfInt (n : Int) : FailsOnly Fault.Numeric (floatOfInt n) := by
  rcases floatOfInt_cases n with hok | hlarge
  · exact failsOnly_of_ok ⟨_, hok⟩
  · rw [hlarge]
    exact failsOnly_error trivial

theorem numeric_wholeNumber (x : Except Decimal.NoInteger Int) :
    FailsOnly Fault.Numeric (wholeNumber x) := by
  cases x with
  | ok n => exact failsOnly_of_ok ⟨n, rfl⟩
  | error why => exact failsOnly_error trivial

theorem numeric_writtenText (text? : Option String) :
    FailsOnly Fault.Numeric (writtenText text?) := by
  cases text? with
  | some s => exact failsOnly_of_ok ⟨s, rfl⟩
  | none => exact failsOnly_error trivial

theorem broken_floatOfInt (n : Int) : FailsOnly Fault.Broken (floatOfInt n) :=
  (numeric_floatOfInt n).mono fun _ => Fault.Numeric.broken

theorem broken_wholeNumber (x : Except Decimal.NoInteger Int) :
    FailsOnly Fault.Broken (wholeNumber x) :=
  (numeric_wholeNumber x).mono fun _ => Fault.Numeric.broken

/-- Nothing else than a breakdown comes of telling a value. -/
theorem broken_writtenText (text? : Option String) : FailsOnly Fault.Broken (writtenText text?) :=
  (numeric_writtenText text?).mono fun _ => Fault.Numeric.broken

end Waypost
