import SheetActions.Sheet.Progress

/-! Work that succeeded, taken apart.

An action is a chain of stages, each of which can fail. When the chain succeeds, each of
its stages did, and these lemmas name the results on the way: for stages that are done
in full or fail (`Except`), and for work that keeps what it did before it failed
(`Progress`). -/
namespace SheetActions

variable {ε ε' α β σ : Type}

theorem bind_eq_ok {x : Except ε α} {f : α → Except ε β} {b : β} :
    (x >>= f) = .ok b ↔ ∃ a, x = .ok a ∧ f a = .ok b := by
  cases x <;> simp [bind, Except.bind]

theorem ok_bind (a : α) (f : α → Except ε β) : (Except.ok a >>= f) = f a := rfl

/-- Two chains are the same if they go on alike from what the first stage gives. -/
theorem bind_congr_ok {x : Except ε α} {f g : α → Except ε β} (h : ∀ a, x = .ok a → f a = g a) :
    x >>= f = x >>= g := by
  cases x with
  | error e => rfl
  | ok a => exact h a rfl

theorem mapError_eq_ok {x : Except ε α} {f : ε → ε'} {a : α} :
    x.mapError f = .ok a ↔ x = .ok a := by
  cases x with
  | error e =>
    constructor
    · rintro ⟨⟩
    · rintro ⟨⟩
  | ok b =>
    constructor
    · rintro ⟨⟩
      rfl
    · rintro ⟨⟩
      rfl

theorem mapError_ok (a : α) (f : ε → ε') : (Except.ok a).mapError f = .ok a := rfl

theorem bind_eq_error {x : Except ε α} {f : α → Except ε β} {e : ε} :
    (x >>= f) = .error e ↔ x = .error e ∨ ∃ a, x = .ok a ∧ f a = .error e := by
  cases x <;> simp [bind, Except.bind]

theorem mapError_bind (x : Except ε α) (f : α → Except ε β) (g : ε → ε') :
    (x >>= f).mapError g = x.mapError g >>= fun a => (f a).mapError g := by
  cases x <;> rfl

theorem toOption_eq_some {x : Except ε α} {a : α} : x.toOption = some a ↔ x = .ok a := by
  cases x <;> simp [Except.toOption]

theorem toOption_bind (x : Except ε α) (f : α → Except ε β) :
    (x >>= f).toOption = x.toOption.bind fun a => (f a).toOption := by
  cases x <;> rfl

theorem toOption_mapError (x : Except ε α) (f : ε → ε') : (x.mapError f).toOption = x.toOption := by
  cases x <;> rfl

namespace Progress

theorem toExcept_eq_ok {p : Progress σ} {e : σ} : p.toExcept = .ok e ↔ p = .done e := by
  obtain ⟨s, _ | f⟩ := p <;> simp [toExcept, done]

theorem toExcept_eq_error {p : Progress σ} {f : Fault} :
    p.toExcept = .error f ↔ p.fault = some f := by
  obtain ⟨s, _ | f⟩ := p <;> simp [toExcept]

theorem toExcept_andThen (p : Progress σ) (next : σ → Progress σ) :
    (p.andThen next).toExcept = p.toExcept >>= fun s => (next s).toExcept := by
  obtain ⟨s, _ | f⟩ := p <;> rfl

/-- The state at the end of work that is all done. -/
def end? (p : Progress σ) : Option σ :=
  p.toExcept.toOption

theorem end?_eq_some {p : Progress σ} {e : σ} : p.end? = some e ↔ p = .done e := by
  rw [end?, toOption_eq_some, toExcept_eq_ok]

theorem end?_andThen (p : Progress σ) (next : σ → Progress σ) :
    (p.andThen next).end? = p.end?.bind fun s => (next s).end? := by
  obtain ⟨s, _ | f⟩ := p <;> rfl

theorem andThen_eq_done {p : Progress σ} {next : σ → Progress σ} {e : σ} :
    p.andThen next = .done e ↔ ∃ s, p = .done s ∧ next s = .done e := by
  obtain ⟨s, _ | f⟩ := p <;> simp [andThen, done]

theorem done_inj {s e : σ} (h : done s = done e) : s = e :=
  congrArg state h

/-- All steps are done when the first one is, and the others are from where it leads. -/
theorem run_cons_eq_done {step : σ → α → Progress σ} {s e : σ} {a : α} {rest : List α} :
    run step s (a :: rest) = .done e ↔ ∃ t, step s a = .done t ∧ run step t rest = .done e := by
  rw [run_cons, andThen_eq_done]

theorem ofExcept_eq_stopped {x : Except Fault σ} {s t : σ} {f : Fault} :
    ofExcept s x = .stopped t f ↔ x = .error f ∧ s = t := by
  cases x <;> simp [ofExcept, stopped, done, and_comm]

/-- What each step keeps, also one that fails, all work keeps. -/
theorem state_run {step : σ → α → Progress σ} {P : σ → Prop} {s : σ}
    (keeps : ∀ t a, P t → P (step t a).state) (hs : P s) (l : List α) : P (run step s l).state := by
  induction l generalizing s with
  | nil => exact hs
  | cons a l ih =>
    rw [run_cons]
    have ha := keeps s a hs
    rcases hstep : step s a with ⟨t, _ | f⟩
    · rw [hstep] at ha
      exact ih ha
    · rw [hstep] at ha
      exact ha

/-- Work that stopped did all the steps up to the one that failed. -/
theorem exists_step_of_run_fault {step : σ → α → Progress σ} {s : σ} {l : List α} {f : Fault}
    (h : (run step s l).fault = some f) :
    ∃ before a after t, l = before ++ a :: after ∧ run step s before = .done t ∧
      step t a = .stopped (run step s l).state f := by
  induction l generalizing s with
  | nil => cases h
  | cons a l ih =>
    rw [run_cons] at h ⊢
    rcases hstep : step s a with ⟨t, _ | g⟩
    · rw [hstep] at h
      obtain ⟨before, b, after, u, rfl, hbefore, hb⟩ := ih (s := t) h
      exact ⟨a :: before, b, after, u, rfl, run_cons_eq_done.mpr ⟨t, hstep, hbefore⟩, hb⟩
    · rw [hstep] at h
      cases h
      exact ⟨[], a, l, s, rfl, rfl, hstep⟩

end Progress

end SheetActions
