import SheetActions.Proofs.OpenRows
import SheetActions.Proofs.Steps

/-! Opening rows that comes to a stop.

Runs are opened in order, and the one that is refused changes nothing. So the sheet is left as if
only the targets before that run had been given: the moves made are the plan for these targets
(`planFrom_append`), and the rows between the opened ones hold what they held, in order
(`openRows_stopped`). -/
namespace SheetActions

theorem Opening.planFrom_append (last : Int) (rs qs : List Run) :
    planFrom last (rs ++ qs) =
      planFrom last rs ++ planFrom (last + (rs.map Run.length).sum) qs := by
  induction rs generalizing last with
  | nil => simp [planFrom]
  | cons r rs ih =>
    rw [List.cons_append, planFrom, ih, planFrom, List.cons_append]
    simp only [List.map_cons, List.sum_cons, Int.natCast_add, Int.add_assoc]

namespace Sheet

/-- Runs that were opened made the used rows longer by no more than their lengths. -/
theorem lastRow_of_openRuns {s t : Sheet} {rs : List Run} (h : s.openRuns rs = .done t) :
    t.lastRow ≤ s.lastRow + (rs.map Run.length).sum := by
  induction rs generalizing s with
  | nil =>
    cases Progress.done_inj h
    exact Int.le_add_of_nonneg_right (Int.natCast_nonneg _)
  | cons r rs ih =>
    cases hr : s.openRun r with
    | error f => rw [openRuns_cons_error hr] at h; cases h
    | ok u =>
      rw [openRuns_cons_ok hr] at h
      have hrun := lastRow_of_openRun hr
      have hrest := ih h
      rw [List.map_cons, List.sum_cons]
      omega

/-- Runs are opened up to one that is refused, and that one changes nothing. -/
theorem openRuns_stopped {s : Sheet} {rs : List Run} {f : Fault}
    (h : (s.openRuns rs).fault = some f) :
    ∃ before r after, rs = before ++ r :: after ∧
      s.openRuns before = .done (s.openRuns rs).state ∧
      (s.openRuns rs).state.openRun r = .error f := by
  obtain ⟨before, r, after, t, hrs, hbefore, hstep⟩ := Progress.exists_step_of_run_fault h
  obtain ⟨hrefused, rfl⟩ := Progress.ofExcept_eq_stopped.mp hstep
  exact ⟨before, r, after, hrs, hbefore, hrefused⟩

/-- **A stop.** When opening rows fails, there is a run of the targets such that the sheet is what
opening the targets before it makes of it, with nothing left out and nothing else changed: those
targets are blank, and the `k`-th row that is none of them holds what row `k` held. The plan goes
on from the plan for those targets with the move for the run, and that is the move refused. -/
theorem openRows_stopped (s : Sheet) (rows : IndexSet) {f : Fault}
    (h : (s.openRows rows).fault = some f) :
    ∃ r ∈ rows.runs,
      s.openRows (rows.below r.first) = .done (s.openRows rows).state ∧
      (∀ i ∈ rows.below r.first, ∀ c, (s.openRows rows).state.cell i c = none) ∧
      (∀ k c, (s.openRows rows).state.cell ((rows.below r.first).outside k) c = s.cell k c) ∧
      ∃ o after, Opening.plan rows s.lastRow =
          Opening.plan (rows.below r.first) s.lastRow ++ o :: after ∧
        o.first = r.first ∧ o.count = r.length ∧
        Opening.apply (s.openRows rows).state o = .error f := by
  rw [openRows_eq_openRuns] at h ⊢
  obtain ⟨before, r, after, hruns, hbefore, hrefused⟩ := openRuns_stopped h
  have hbelow : (rows.below r.first).runs = before := IndexSet.runs_below hruns
  have hdone : s.openRows (rows.below r.first) = .done (s.openRuns rows.runs).state := by
    rw [openRows_eq_openRuns, hbelow, hbefore]
  have hopened := opened_of_done hdone
  have hr : r ∈ rows.runs := hruns ▸ List.mem_append_right before List.mem_cons_self
  have hplan : Opening.plan rows s.lastRow = Opening.plan (rows.below r.first) s.lastRow ++
      Opening.planFrom (s.lastRow + (before.map Run.length).sum) (r :: after) := by
    rw [Opening.plan, Opening.plan, hbelow, hruns, Opening.planFrom_append]
  exact ⟨r, hr, hdone, hopened.blank, hopened.kept, _, _, hplan, rfl, rfl,
    (apply_opening _ r (lastRow_of_openRuns hbefore)).trans hrefused⟩

/-- A sheet with a value in the first row and one in the last row but one. -/
def nearlyFull : Sheet :=
  ((∅ : Sheet).put 0 0 (some (.text "a"))).put (maxRowIndex - 1) 0 (some (.text "b"))

/-- There is room for one row on it: row 0 is opened, row 2 is not. -/
theorem openRows_stopped_nearlyFull :
    let rows := (IndexSet.interval 0 1).insertInterval 2 1
    (nearlyFull.openRows rows).fault =
        some (.refusal (.shiftFailure 2 maxRowIndex 1 (some pastSheetReason))) ∧
      ∃ r ∈ rows.runs,
        nearlyFull.openRows (rows.below r.first) = .done (nearlyFull.openRows rows).state := by
  intro rows
  have hfault : (nearlyFull.openRows rows).fault =
      some (.refusal (.shiftFailure 2 maxRowIndex 1 (some pastSheetReason))) := rfl
  obtain ⟨r, hr, hdone, _⟩ := openRows_stopped nearlyFull rows hfault
  exact ⟨hfault, r, hr, hdone⟩

end Sheet

end SheetActions
