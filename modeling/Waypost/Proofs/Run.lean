import Waypost.Run

/-!
# Laws of runs

* the monad laws, so that lists of runs can be taken apart one run at a time;
* `Run.result_bind` -- the end of a run that goes on is the end of what follows;
* `Run.handed_bind_of_ok`, `Run.handed_bind_of_error` -- what a run that goes on hands over;
* `Run.result_mapM`, `Run.result_foldlM` and their twins for `handed` -- lists of runs none of which
  fails.
-/

namespace Waypost

namespace Run

/-! ## 1. One run after another -/

theorem result_bind (run : Run α) (next : α → Run β) :
    (run >>= next).result = run.result >>= fun value => (next value).result := by
  cases h : run.result with
  | ok value => rw [bind_of_ok h]; rfl
  | error fault => rw [bind_of_error h]; rfl

theorem id_map (run : Run α) : id <$> run = run := by
  obtain ⟨events, result⟩ := run
  cases result with
  | ok value =>
    show (⟨events ++ [], .ok value⟩ : Run α) = _
    rw [List.append_nil]
  | error fault => rfl

theorem pure_bind (value : α) (next : α → Run β) : (pure value >>= next) = next value := by
  rw [bind_of_ok (result_pure value)]
  rfl

theorem bind_assoc (run : Run α) (next : α → Run β) (last : β → Run γ) :
    (run >>= next >>= last) = run >>= fun value => next value >>= last := by
  cases h : run.result with
  | error fault => rw [bind_of_error h, bind_of_error h, bind_of_error rfl]
  | ok value =>
    rw [bind_of_ok h, bind_of_ok h]
    cases h' : (next value).result with
    | error fault => rw [bind_of_error h', bind_of_error rfl]
    | ok other => rw [bind_of_ok h', bind_of_ok rfl, List.append_assoc]

instance : LawfulMonad Run := LawfulMonad.mk' Run id_map pure_bind bind_assoc

/-! ## 2. What is handed over -/

@[simp] theorem handed_pure (value : α) : (pure value : Run α).handed = [] := rfl

@[simp] theorem handed_ofExcept (result : Except Fault α) : (ofExcept result).handed = [] := rfl

@[simp] theorem handed_fail (fault : Fault) : (fail fault : Run α).handed = [] := rfl

@[simp] theorem handed_log (level : Level) (message : String) : (log level message).handed = [] :=
  rfl

@[simp] theorem handed_attempt (run : Run α) : run.attempt.handed = run.handed := rfl

@[simp] theorem result_ofExcept (result : Except Fault α) : (ofExcept result).result = result :=
  rfl

@[simp] theorem result_log (level : Level) (message : String) :
    (log level message).result = .ok () := rfl

/-- A computation without events shows nothing and ends as it does. -/
@[simp] theorem liftM_eq_ofExcept (result : Except Fault α) :
    (liftM result : Run α) = ofExcept result := rfl

@[simp] theorem handed_withoutHandOvers (run : Run α) : run.withoutHandOvers.handed = [] := by
  unfold handed withoutHandOvers
  rw [List.filterMap_eq_nil_iff]
  intro event h
  exact Option.isNone_iff_eq_none.mp (List.mem_filter.mp h).2

theorem handed_bind_of_ok {run : Run α} {value : α} (h : run.result = .ok value)
    (next : α → Run β) : (run >>= next).handed = run.handed ++ (next value).handed := by
  rw [bind_of_ok h]
  exact List.filterMap_append

theorem handed_bind_of_error {run : Run α} {fault : Fault} (h : run.result = .error fault)
    (next : α → Run β) : (run >>= next).handed = run.handed := by
  rw [bind_of_error h]
  rfl

/-- What only logs, computes and writes afterwards hands nothing over. -/
theorem handed_bind_of_nil (run : Run α) {next : α → Run β}
    (h : ∀ value, (next value).handed = []) : (run >>= next).handed = run.handed := by
  cases hr : run.result with
  | ok value => rw [handed_bind_of_ok hr, h, List.append_nil]
  | error fault => exact handed_bind_of_error hr next

@[simp] theorem handed_map (f : α → β) (run : Run α) : (f <$> run).handed = run.handed :=
  handed_bind_of_nil run fun _ => rfl

theorem result_map_of_ok {run : Run α} {value : α} (h : run.result = .ok value) (f : α → β) :
    (f <$> run).result = .ok (f value) := by
  show (run >>= fun value => pure (f value)).result = _
  rw [bind_of_ok h]
  rfl

/-- A computation before a run hands nothing over. -/
theorem handed_ofExcept_bind (result : Except Fault α) (next : α → Run β) :
    (ofExcept result >>= next).handed =
      match result with
      | .ok value => (next value).handed
      | .error _ => [] := by
  cases result with
  | ok value => rw [handed_bind_of_ok (result_ofExcept _)]; rfl
  | error fault => exact handed_bind_of_error (result_ofExcept _) next

/-! ## 3. Lists of runs that do not fail -/

theorem result_mapM {f : α → Run β} {g : α → β} (h : ∀ x, (f x).result = .ok (g x))
    (xs : List α) : (xs.mapM f).result = .ok (xs.map g) := by
  induction xs with
  | nil => rfl
  | cons x xs ih =>
    rw [List.mapM_cons, result_bind, h, List.map_cons]
    show ((xs.mapM f) >>= fun ys => pure (g x :: ys)).result = _
    rw [result_bind, ih]
    rfl

theorem handed_mapM {f : α → Run β} {g : α → β} (h : ∀ x, (f x).result = .ok (g x))
    (xs : List α) : (xs.mapM f).handed = xs.flatMap fun x => (f x).handed := by
  induction xs with
  | nil => rfl
  | cons x xs ih =>
    rw [List.mapM_cons, handed_bind_of_ok (h x), handed_bind_of_nil _ fun _ => handed_pure _, ih,
      List.flatMap_cons]

theorem result_foldlM {step : σ → α → Run σ} {next : σ → α → σ}
    (h : ∀ s x, (step s x).result = .ok (next s x)) (xs : List α) (s : σ) :
    (xs.foldlM step s).result = .ok (xs.foldl next s) := by
  induction xs generalizing s with
  | nil => rfl
  | cons x xs ih =>
    rw [List.foldlM_cons, result_bind, h]
    exact ih (next s x)

theorem handed_foldlM {step : σ → α → Run σ} {next : σ → α → σ} {asked : α → List Request}
    (h : ∀ s x, (step s x).result = .ok (next s x)) (ha : ∀ s x, (step s x).handed = asked x)
    (xs : List α) (s : σ) : (xs.foldlM step s).handed = xs.flatMap asked := by
  induction xs generalizing s with
  | nil => rfl
  | cons x xs ih =>
    rw [List.foldlM_cons, handed_bind_of_ok (h s x), ha, ih, List.flatMap_cons]

end Run

end Waypost
