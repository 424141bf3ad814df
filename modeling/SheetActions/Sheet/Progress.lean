import SheetActions.Fault

/-! Work in steps that stops at the first failure.

The steps before one that fails stay done, and so does what that one did before it
failed: `Progress` holds the state that was reached and the fault that stopped the work,
if any. -/
namespace SheetActions

structure Progress (σ : Type) where
  state : σ
  fault : Option Fault

namespace Progress

variable {σ α : Type}

/-- Nothing was done, for the given reason. -/
def stopped (s : σ) (f : Fault) : Progress σ := ⟨s, some f⟩

/-- All was done. -/
def done (s : σ) : Progress σ := ⟨s, none⟩

/-- Work that is done in full or changes nothing. -/
def ofExcept (s : σ) : Except Fault σ → Progress σ
  | .ok t => done t
  | .error f => stopped s f

/-- More work on the state that was reached, unless the work had stopped. -/
def andThen (p : Progress σ) (next : σ → Progress σ) : Progress σ :=
  match p.fault with
  | none => next p.state
  | some _ => p

/-- Takes a step for each item, up to the first one that fails. -/
def run (step : σ → α → Progress σ) (s : σ) : List α → Progress σ
  | [] => done s
  | a :: rest =>
    match step s a with
    | ⟨t, none⟩ => run step t rest
    | ⟨t, some f⟩ => stopped t f

theorem run_cons (step : σ → α → Progress σ) (s : σ) (a : α) (rest : List α) :
    run step s (a :: rest) = (step s a).andThen fun t => run step t rest := by
  rw [run]
  rcases step s a with ⟨t, _ | f⟩ <;> rfl

/-- A step that is done in full leaves the other items to the rest of the work. -/
theorem run_cons_of_ok {step : σ → α → Except Fault σ} {s t : σ} {a : α} (h : step s a = .ok t)
    (rest : List α) : run (fun s a => .ofExcept s (step s a)) s (a :: rest) =
      run (fun s a => .ofExcept s (step s a)) t rest := by
  rw [run_cons, h]
  rfl

/-- A step that fails and changes nothing ends the work. -/
theorem run_cons_of_error {step : σ → α → Except Fault σ} {s : σ} {a : α} {f : Fault}
    (h : step s a = .error f) (rest : List α) :
    run (fun s a => .ofExcept s (step s a)) s (a :: rest) = .stopped s f := by
  rw [run_cons, h]
  rfl

/-- The state at the end of all work, or the fault that stopped it. -/
def toExcept (p : Progress σ) : Except Fault σ :=
  match p.fault with
  | none => .ok p.state
  | some f => .error f

theorem andThen_assoc (p : Progress σ) (f g : σ → Progress σ) :
    (p.andThen f).andThen g = p.andThen fun s => (f s).andThen g := by
  obtain ⟨s, _ | fault⟩ := p <;> rfl

theorem run_append (step : σ → α → Progress σ) (s : σ) (as bs : List α) :
    run step s (as ++ bs) = (run step s as).andThen fun t => run step t bs := by
  induction as generalizing s with
  | nil => rfl
  | cons a as ih =>
    rw [List.cons_append, run_cons, run_cons, andThen_assoc]
    congr 1
    funext t
    exact ih t

end Progress

end SheetActions
