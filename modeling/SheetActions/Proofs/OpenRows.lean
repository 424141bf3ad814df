import SheetActions.Proofs.Outside
import SheetActions.Proofs.Runs
import SheetActions.Sheet.Opening

/-! Opening rows: what the plan of block moves leaves on a worksheet.

A run that starts behind the used rows moves nothing; any other one takes everything
from it on down by its length, and its own rows are left blank (`openRun`). The plan
reckons where the used rows end by then without looking, and is never too low, so the
moves are these, run by run (`openRows_eq_openRuns`).

`Opened l s t` says what `t` has of `s` once the rows of `l` were opened: row `k` is at
`skip l k`, the rows of `l` are blank, and the heights of those that lie above the end
are forgotten. One run gives it, and it composes over runs that follow each other
(`Opened.trans`). -/
namespace SheetActions

/-- The number of used rows of a sheet of `n` used rows once rows were opened. -/
def grown (l : List Nat) : Nat → Nat
  | 0 => 0
  | n + 1 => skip l n + 1

theorem grown_append (l m : List Nat) (n : Nat) : grown (l ++ m) n = grown m (grown l n) := by
  cases n with
  | zero => rfl
  | succ n => simp only [grown, skip_append]

theorem le_grown (l : List Nat) (n : Nat) : n ≤ grown l n := by
  cases n with
  | zero => exact Nat.le_refl 0
  | succ n => exact Nat.succ_le_succ (le_skip l n)

/-- Rows that are opened behind the used rows leave their number as it is. -/
theorem grown_of_le {l : List Nat} {n : Nat} (h : ∀ i ∈ l, n ≤ i) : grown l n = n := by
  cases n with
  | zero => rfl
  | succ n => exact congrArg (· + 1) (skip_of_lt h)

theorem grown_run (r : Run) (n : Nat) :
    grown r.toList n = if r.first < n then n + r.length else n := by
  cases n with
  | zero => simp [grown]
  | succ n =>
    simp only [grown, skip_run]
    split <;> split <;> omega

/-- A block of rows cannot be moved down. -/
def Fault.IsShiftFailure (f : Fault) : Prop :=
  ∃ first last count reason, f = .refusal (.shiftFailure first last count reason)

namespace Sheet

/-! ### One run -/

/-- The sheet with a run of blank rows put in above the end of the used rows. -/
def openedAt (s : Sheet) (r : Run) : Sheet :=
  s.moved r.first (s.usedRows - 1) r.length false true

/-- Opens one run of rows. -/
def openRun (s : Sheet) (r : Run) : Except Fault Sheet :=
  if s.usedRows ≤ r.first then .ok s
  else if s.usedRows + r.length > maxRowIndex + 1 then
    .error (.refusal (.shiftFailure r.first s.lastRow r.length (some pastSheetReason)))
  else if s.extent.columns > namedColumns then
    .error (.breakdown (.columnWithoutName s.extent.columns))
  else .ok (s.openedAt r)

/-- Opens runs one after the other, up to the first one that is refused. -/
def openRuns (s : Sheet) (rs : List Run) : Progress Sheet :=
  Progress.run (fun s r => .ofExcept s (s.openRun r)) s rs

theorem openRuns_nil (s : Sheet) : s.openRuns [] = .done s := rfl

theorem openRuns_cons_ok {s t : Sheet} {r : Run} (h : s.openRun r = .ok t) (rs : List Run) :
    s.openRuns (r :: rs) = t.openRuns rs :=
  Progress.run_cons_of_ok h rs

theorem openRuns_cons_error {s : Sheet} {r : Run} {f : Fault} (h : s.openRun r = .error f)
    (rs : List Run) : s.openRuns (r :: rs) = .stopped s f :=
  Progress.run_cons_of_error h rs

/-- Every used row from the run on is further down by the length of the run. -/
theorem usedRows_openedAt {s : Sheet} {r : Run} (h : r.first < s.usedRows) :
    (s.openedAt r).usedRows = s.usedRows + r.length := by
  obtain ⟨n, hn⟩ : ∃ n, s.usedRows = n + 1 := ⟨s.usedRows - 1, by omega⟩
  have hpos := r.length_pos
  apply Nat.le_antisymm
  · refine usedRows_le_iff.mpr fun i c hi => ?_
    rw [openedAt, cell_moved s hpos, if_neg (by omega), if_neg (by omega)]
    exact cell_of_usedRows_le (by omega) c
  · obtain ⟨c, v, hv⟩ := exists_cell_of_usedRows hn
    refine Nat.le_of_not_lt fun hlt => ?_
    have hblank := cell_of_usedRows_le (s := s.openedAt r) (r := n + r.length) (by omega) c
    rw [openedAt, cell_moved s hpos, if_pos (by omega), Nat.add_sub_cancel, hv] at hblank
    cases hblank

theorem columns_openedAt (s : Sheet) (r : Run) : (s.openedAt r).extent.columns = s.extent.columns :=
  Nat.max_eq_left (Nat.zero_le _)

/-- The planned move for a run, as long as the plan does not take the used rows for fewer
than they are. -/
theorem apply_opening (s : Sheet) (r : Run) {last : Int} (h : s.lastRow ≤ last) :
    Opening.apply s { first := r.first, last := (max last r.first).toNat, count := r.length } =
      s.openRun r := by
  have hpos := r.length_pos
  have hlast : ((max last r.first).toNat : Int) = max last r.first := by omega
  have hrow : s.lastRow = (s.usedRows : Int) - 1 := rfl
  simp only [Opening.apply, shiftDown, hlast]
  rw [if_neg (by omega), openRun]
  by_cases hused : s.usedRows ≤ r.first
  · rw [if_pos (by omega), if_pos hused]
  · have hmin : min (max last r.first) s.lastRow = s.lastRow := by omega
    rw [if_neg (by omega), if_neg hused, hmin]
    by_cases hpast : s.usedRows + r.length > maxRowIndex + 1
    · rw [if_pos (by omega), if_pos hpast]
    · rw [if_neg (by omega), if_neg hpast, openedAt]
      have hto : s.lastRow.toNat = s.usedRows - 1 := by omega
      rw [hto]
      rfl

/-- A run that was opened made the used rows longer by no more than its length. -/
theorem lastRow_of_openRun {s t : Sheet} {r : Run} (h : s.openRun r = .ok t) :
    t.lastRow ≤ s.lastRow + r.length := by
  unfold openRun at h
  split at h
  · cases h
    omega
  · split at h
    · cases h
    · split at h
      · cases h
      · cases h
        have := usedRows_openedAt (s := s) (r := r) (by omega)
        simp only [lastRow]
        omega

theorem execute_planFrom (rs : List Run) (s : Sheet) {last : Int} (h : s.lastRow ≤ last) :
    Opening.execute Opening.apply s (Opening.planFrom last rs) = s.openRuns rs := by
  induction rs generalizing s last with
  | nil => rfl
  | cons r rs ih =>
    rw [Opening.planFrom, Opening.execute, Progress.run_cons, apply_opening s r h]
    cases hr : s.openRun r with
    | error f => exact (openRuns_cons_error hr rs).symm
    | ok t =>
      rw [openRuns_cons_ok hr]
      exact ih t (Int.le_trans (lastRow_of_openRun hr) (Int.add_le_add_right h _))

/-- The plan opens the runs of the targets one after the other. -/
theorem openRows_eq_openRuns (s : Sheet) (rows : IndexSet) :
    s.openRows rows = s.openRuns rows.runs :=
  execute_planFrom rows.runs s (Int.le_refl _)

/-- Runs behind the used rows are open already. -/
theorem openRuns_of_usedRows_le {s : Sheet} {rs : List Run}
    (h : ∀ i ∈ rs.flatMap Run.toList, s.usedRows ≤ i) : s.openRuns rs = .done s := by
  induction rs with
  | nil => rfl
  | cons r rs ih =>
    rw [List.flatMap_cons, List.forall_mem_append] at h
    have hfirst : s.usedRows ≤ r.first := h.1 r.first r.first_mem_toList
    rw [openRuns_cons_ok (if_pos hfirst), ih h.2]

theorem openRows_of_usedRows_le {s : Sheet} {rows : IndexSet} (h : ∀ i ∈ rows, s.usedRows ≤ i) :
    s.openRows rows = .done s := by
  rw [openRows_eq_openRuns]
  refine openRuns_of_usedRows_le ?_
  rw [IndexSet.flatMap_runs]
  exact h

/-! ### What is where afterwards -/

theorem style_moved (s : Sheet) {first last count : Nat} (hc : 0 < count) (copy reset : Bool)
    (r c : Nat) :
    (s.moved first last count copy reset).style r c =
      if first + count ≤ r ∧ r ≤ last + count then s.style (r - count) c
      else if first ≤ r ∧ r ≤ last then none
      else s.style r c :=
  s.styles.get?_moveDown hc r c

/-- `t` is `s` with the rows of the list opened. Behind the used rows nothing moves, so it is only
where there is a value that the style is known to be kept. -/
structure Opened (l : List Nat) (s t : Sheet) : Prop where
  blank : ∀ i ∈ l, ∀ c, t.cell i c = none
  kept : ∀ k c, t.cell (skip l k) c = s.cell k c
  style : ∀ k c v, s.cell k c = some v → t.style (skip l k) c = s.style k c
  usedRows : t.usedRows = grown l s.usedRows
  height : ∀ i, t.height i = if i ∈ l ∧ i < t.usedRows then none else s.height i
  columns : t.extent.columns = s.extent.columns

namespace Opened
variable {l m : List Nat} {s t u : Sheet}

/-- Rows behind the used rows are open already. -/
theorem of_usedRows_le (h : ∀ i ∈ l, s.usedRows ≤ i) : Opened l s s where
  blank := fun i hi c => cell_of_usedRows_le (h i hi) c
  kept := fun k c => by
    by_cases hk : k < s.usedRows
    · rw [skip_of_lt fun i hi => Nat.lt_of_lt_of_le hk (h i hi)]
    · have hle := le_skip l k
      rw [cell_of_usedRows_le (by omega), cell_of_usedRows_le (by omega)]
  style := fun k c v hv => by
    have hk := lt_usedRows_of_cell hv
    rw [skip_of_lt fun i hi => Nat.lt_of_lt_of_le hk (h i hi)]
  usedRows := (grown_of_le h).symm
  height := fun i => by
    rw [if_neg]
    rintro ⟨hi, hlt⟩
    have := h i hi
    omega
  columns := rfl

/-- One block move opens a run. -/
theorem openedAt {r : Run} (h : r.first < s.usedRows) : Opened r.toList s (s.openedAt r) where
  blank := fun i hi c => by
    obtain ⟨hfirst, hstop⟩ := Run.mem_toList.mp hi
    have hpos := r.length_pos
    rw [Run.stop] at hstop
    rw [Sheet.openedAt, cell_moved s hpos, if_neg (by omega)]
    split
    · rfl
    · exact cell_of_usedRows_le (by omega) c
  kept := fun k c => by
    have hpos := r.length_pos
    rw [skip_run, Sheet.openedAt, cell_moved s hpos]
    by_cases hk : r.first ≤ k
    · rw [if_pos hk]
      by_cases hused : k < s.usedRows
      · rw [if_pos (by omega), Nat.add_sub_cancel]
      · rw [if_neg (by omega), if_neg (by omega), cell_of_usedRows_le (by omega),
          cell_of_usedRows_le (by omega)]
    · rw [if_neg hk, if_neg (by omega), if_neg (by omega)]
  style := fun k c v hv => by
    have hpos := r.length_pos
    have hused := lt_usedRows_of_cell hv
    rw [skip_run, Sheet.openedAt, style_moved s hpos]
    by_cases hk : r.first ≤ k
    · rw [if_pos hk, if_pos (by omega), Nat.add_sub_cancel]
    · rw [if_neg hk, if_neg (by omega), if_neg (by omega)]
  usedRows := by rw [usedRows_openedAt h, grown_run, if_pos h]
  height := fun i => by
    have hiff : (r.first ≤ i ∧ i < r.first + r.length) ∧ i < s.usedRows + r.length ↔
        r.first ≤ i ∧ i < r.first + r.length := by omega
    rw [usedRows_openedAt h, Sheet.openedAt, height_moved]
    simp only [Run.mem_toList, Run.stop, true_and, Bool.false_eq_true, false_and, if_false, hiff]
  columns := columns_openedAt s r

/-- Rows that lie behind all that were opened can be opened next. -/
theorem trans (h₁ : Opened l s t) (h₂ : Opened m t u) (below : ∀ i ∈ l, ∀ j ∈ m, i < j) :
    Opened (l ++ m) s u where
  blank := fun i hi c => by
    rcases List.mem_append.mp hi with hl | hm
    · rw [← skip_of_lt (below i hl), h₂.kept]
      exact h₁.blank i hl c
    · exact h₂.blank i hm c
  kept := fun k c => by rw [skip_append, h₂.kept, h₁.kept]
  style := fun k c v hv => by
    rw [skip_append, h₂.style _ c v ((h₁.kept k c).trans hv), h₁.style k c v hv]
  usedRows := by rw [h₂.usedRows, h₁.usedRows, grown_append]
  height := fun i => by
    have hle : t.usedRows ≤ u.usedRows := h₂.usedRows ▸ le_grown m t.usedRows
    rw [h₂.height, h₁.height]
    simp only [List.mem_append]
    by_cases hm : i ∈ m
    · have hl : i ∉ l := fun hl => Nat.lt_irrefl i (below i hl i hm)
      simp only [hm, hl, false_and, if_false, or_true]
    · simp only [hm, false_and, or_false, if_false]
      by_cases hl : i ∈ l
      · -- nothing that is opened further down reaches a row of `l`
        have hiff : i < t.usedRows ↔ i < u.usedRows := by
          refine ⟨fun hlt => Nat.lt_of_lt_of_le hlt hle, fun hlt => ?_⟩
          by_contra hge
          have hsame : u.usedRows = t.usedRows := h₂.usedRows.trans
            (grown_of_le fun j hj => by have := below i hl j hj; omega)
          omega
        simp only [hl, true_and, hiff]
      · simp only [hl, false_and, if_false]
  columns := h₂.columns.trans h₁.columns

end Opened

/-- A run that is opened does just that. -/
theorem opened_of_openRun {s t : Sheet} {r : Run} (h : s.openRun r = .ok t) :
    Opened r.toList s t := by
  unfold openRun at h
  split at h
  · rename_i hused
    cases h
    exact .of_usedRows_le fun i hi => Nat.le_trans hused (Run.mem_toList.mp hi).1
  · split at h
    · cases h
    · split at h
      · cases h
      · cases h
        exact .openedAt (by omega)

/-- When no run is refused, all of their rows are open. -/
theorem opened_of_openRuns {rs : List Run} (ascending : (rs.flatMap Run.toList).Pairwise (· < ·))
    {s : Sheet} (h : (s.openRuns rs).fault = none) :
    Opened (rs.flatMap Run.toList) s (s.openRuns rs).state := by
  induction rs generalizing s with
  | nil => exact .of_usedRows_le fun i hi => absurd hi List.not_mem_nil
  | cons r rs ih =>
    rw [List.flatMap_cons] at ascending ⊢
    obtain ⟨_, hrest, hbelow⟩ := List.pairwise_append.mp ascending
    cases hr : s.openRun r with
    | error f => rw [openRuns_cons_error hr] at h; cases h
    | ok t =>
      rw [openRuns_cons_ok hr] at h ⊢
      exact (opened_of_openRun hr).trans (ih hrest h) hbelow

theorem opened_of_openRows {s : Sheet} {rows : IndexSet} (h : (s.openRows rows).fault = none) :
    Opened rows.toList s (s.openRows rows).state := by
  rw [openRows_eq_openRuns] at h ⊢
  have hopened := opened_of_openRuns (by rw [IndexSet.flatMap_runs]; exact rows.ascending) h
  rwa [IndexSet.flatMap_runs] at hopened

/-- The same for rows that are known to have been opened. -/
theorem opened_of_done {s o : Sheet} {rows : IndexSet} (h : s.openRows rows = .done o) :
    Opened rows.toList s o := by
  have hfault : (s.openRows rows).fault = none := by
    rw [h]
    rfl
  have hopened := opened_of_openRows hfault
  rw [h] at hopened
  exact hopened

/-! ### Refusals -/

/-- Every value of the sheet lies in the grid. -/
def InGrid (s : Sheet) : Prop :=
  ∀ r c v, s.cell r c = some v → r ≤ maxRowIndex ∧ c ≤ maxColumnIndex

theorem inGrid_empty : (∅ : Sheet).InGrid := by
  intro r c v h
  cases h

theorem InGrid.put {s : Sheet} (h : s.InGrid) {r c : Nat} (hr : r ≤ maxRowIndex)
    (hc : c ≤ maxColumnIndex) (v : Option Value) : (s.put r c v).InGrid := by
  intro i j w hw
  rw [cell_put] at hw
  split at hw
  · rename_i hij
    exact ⟨hij.1 ▸ hr, hij.2 ▸ hc⟩
  · exact h i j w hw

/-- A cell that is made blank can be anywhere. -/
theorem InGrid.put_none {s : Sheet} (h : s.InGrid) (r c : Nat) : (s.put r c none).InGrid := by
  intro i j w hw
  rw [cell_put] at hw
  split at hw
  · cases hw
  · exact h i j w hw

theorem InGrid.usedRows_le {s : Sheet} (h : s.InGrid) : s.usedRows ≤ maxRowIndex + 1 := by
  refine usedRows_le_iff.mpr fun r c hr => ?_
  cases hcell : s.cell r c with
  | none => rfl
  | some v =>
    have := (h r c v hcell).1
    omega

/-- All runs are opened exactly when they lie behind the used rows, or the used rows stay in the
grid and the columns have names. -/
theorem openRuns_fault_iff {rs : List Run} {s : Sheet} :
    (s.openRuns rs).fault = none ↔
      (∀ i ∈ rs.flatMap Run.toList, s.usedRows ≤ i) ∨
        (grown (rs.flatMap Run.toList) s.usedRows ≤ maxRowIndex + 1 ∧
          s.extent.columns ≤ namedColumns) := by
  induction rs generalizing s with
  | nil => simp [openRuns_nil, Progress.done]
  | cons r rs ih =>
    rw [List.flatMap_cons, grown_append, grown_run]
    simp only [List.forall_mem_append]
    by_cases hused : s.usedRows ≤ r.first
    · have hopen : s.openRun r = .ok s := if_pos hused
      have hrun : ∀ i ∈ r.toList, s.usedRows ≤ i := fun i hi =>
        Nat.le_trans hused (Run.mem_toList.mp hi).1
      rw [openRuns_cons_ok hopen, if_neg (by omega), ih]
      simp only [iff_true_intro hrun, true_and]
    · have hnot : ¬ ∀ i ∈ r.toList, s.usedRows ≤ i := fun h =>
        hused (h _ r.first_mem_toList)
      have hgrown := le_grown (rs.flatMap Run.toList) (s.usedRows + r.length)
      rw [if_pos (by omega)]
      simp only [hnot, false_and, false_or]
      by_cases hpast : s.usedRows + r.length > maxRowIndex + 1
      · rw [openRuns_cons_error (by rw [openRun, if_neg hused, if_pos hpast])]
        simp only [Progress.stopped, reduceCtorEq, false_iff, not_and_or]
        exact .inl (by omega)
      · by_cases hnamed : s.extent.columns > namedColumns
        · rw [openRuns_cons_error (by rw [openRun, if_neg hused, if_neg hpast, if_pos hnamed])]
          simp only [Progress.stopped, reduceCtorEq, false_iff, not_and_or]
          exact .inr (by omega)
        · have hopen : s.openRun r = .ok (s.openedAt r) := by
            rw [openRun, if_neg hused, if_neg hpast, if_neg hnamed]
          have hgrid := usedRows_openedAt (s := s) (r := r) (by omega)
          rw [openRuns_cons_ok hopen, ih, hgrid, columns_openedAt]
          refine or_iff_right_of_imp fun hbehind => ?_
          rw [grown_of_le hbehind]
          omega

/-- On a sheet of the grid, all runs are opened exactly when the used rows stay in it, and the
columns of a block that has to move have names. -/
theorem openRuns_fault_eq_none_iff {rs : List Run} {s : Sheet}
    (grid : s.usedRows ≤ maxRowIndex + 1) :
    (s.openRuns rs).fault = none ↔
      grown (rs.flatMap Run.toList) s.usedRows ≤ maxRowIndex + 1 ∧
        (s.extent.columns ≤ namedColumns ∨ ∀ i ∈ rs.flatMap Run.toList, s.usedRows ≤ i) := by
  rw [openRuns_fault_iff]
  constructor
  · rintro (hbehind | ⟨hgrown, hnamed⟩)
    · exact ⟨by rw [grown_of_le hbehind]; exact grid, .inr hbehind⟩
    · exact ⟨hgrown, .inl hnamed⟩
  · rintro ⟨hgrown, hnamed | hbehind⟩
    · exact .inr ⟨hgrown, hnamed⟩
    · exact .inl hbehind

theorem fault_of_openRun {s : Sheet} {r : Run} {f : Fault} (h : s.openRun r = .error f) :
    f.IsShiftFailure ∨ (namedColumns < s.extent.columns ∧
      f = .breakdown (.columnWithoutName s.extent.columns)) := by
  unfold openRun at h
  split at h
  · cases h
  · split at h
    · cases h
      exact .inl ⟨_, _, _, _, rfl⟩
    · split at h
      · cases h
        exact .inr ⟨by omega, rfl⟩
      · cases h

/-- Why a run is refused. -/
theorem fault_of_openRuns {rs : List Run} {s : Sheet} {f : Fault}
    (h : (s.openRuns rs).fault = some f) :
    f.IsShiftFailure ∨ (namedColumns < s.extent.columns ∧
      f = .breakdown (.columnWithoutName s.extent.columns)) := by
  induction rs generalizing s with
  | nil => cases h
  | cons r rs ih =>
    cases hr : s.openRun r with
    | error g =>
      rw [openRuns_cons_error hr] at h
      cases h
      exact fault_of_openRun hr
    | ok t =>
      rw [openRuns_cons_ok hr] at h
      have hfault := ih h
      rwa [(opened_of_openRun hr).columns] at hfault

/-! ### Opening rows on a sheet of the grid -/

/-- **Opening rows.** On a sheet whose values lie in the grid, the targets are opened exactly
when the last used row stays in the grid and no block has to move that spans a column
without a name. Then the targets are blank, the `k`-th row that is no target holds what row
`k` held, and only targets above the new place of the last used row lose their height. -/
theorem openRows_spec (s : Sheet) (rows : IndexSet) (grid : s.InGrid) :
    ((s.openRows rows).fault = none ↔
      (s.lastRow = -1 ∨ rows.outside s.lastRow.toNat ≤ maxRowIndex) ∧
        (s.extent.columns ≤ namedColumns ∨ ∀ r ∈ rows, s.lastRow < r)) ∧
    (∀ f, (s.openRows rows).fault = some f → f.IsShiftFailure ∨
      (namedColumns < s.extent.columns ∧ f = .breakdown (.columnWithoutName s.extent.columns))) ∧
    ((s.openRows rows).fault = none →
      (∀ r ∈ rows, ∀ c, (s.openRows rows).state.cell r c = none) ∧
      (∀ k c, (s.openRows rows).state.cell (rows.outside k) c = s.cell k c) ∧
      ∀ r, (s.openRows rows).state.height r =
        if 0 ≤ s.lastRow ∧ r ∈ rows ∧ r < rows.outside s.lastRow.toNat then none
        else s.height r) := by
  have hrow : s.lastRow = (s.usedRows : Int) - 1 := rfl
  have hgrown : grown rows.toList s.usedRows ≤ maxRowIndex + 1 ↔
      s.lastRow = -1 ∨ rows.outside s.lastRow.toNat ≤ maxRowIndex := by
    rw [hrow]
    cases s.usedRows with
    | zero => simp [grown]
    | succ n => simp [grown, IndexSet.outside]
  have hbelow : (∀ r ∈ rows, s.lastRow < r) ↔ ∀ i ∈ rows.toList, s.usedRows ≤ i :=
    forall₂_congr fun i _ => by omega
  refine ⟨?_, fun f hf => ?_, fun hdone => ?_⟩
  · rw [openRows_eq_openRuns, openRuns_fault_eq_none_iff grid.usedRows_le,
      IndexSet.flatMap_runs, hgrown, hbelow]
  · rw [openRows_eq_openRuns] at hf
    exact fault_of_openRuns hf
  · have hopened := opened_of_openRows hdone
    refine ⟨hopened.blank, hopened.kept, fun r => ?_⟩
    have hiff : r ∈ rows.toList ∧ r < (s.openRows rows).state.usedRows ↔
        0 ≤ s.lastRow ∧ r ∈ rows ∧ r < rows.outside s.lastRow.toNat := by
      rw [hopened.usedRows, hrow]
      cases s.usedRows with
      | zero => simp [grown]
      | succ n =>
        -- the new place of the last used row is no target itself
        have hnot : r ∈ rows → rows.outside n ≠ r := fun hr h => rows.outside_not_mem n (h ▸ hr)
        have hto : ((n + 1 : Nat) - 1 : Int).toNat = n := by omega
        rw [hto]
        simp only [grown, IndexSet.outside, IndexSet.mem_iff] at hnot ⊢
        constructor
        · rintro ⟨hr, hlt⟩
          have := hnot hr
          exact ⟨by omega, hr, by omega⟩
        · rintro ⟨_, hr, hlt⟩
          exact ⟨hr, by omega⟩
    rw [hopened.height]
    simp only [hiff]

/-- Three rows, the middle one with a height of its own. -/
def threeRows : Sheet :=
  ((((∅ : Sheet).put 0 0 (some (.text "a"))).put 1 0 (some (.text "b"))).put 2 0
    (some (.text "c"))).setHeight 1 (some .zero)

theorem inGrid_threeRows : threeRows.InGrid :=
  ((inGrid_empty.put (by decide) (by decide) _).put (by decide) (by decide) _).put
    (by decide) (by decide) _

/-- Opening rows 1 and 3 of three rows leaves them at 0, 2 and 4. -/
theorem openRows_spec_threeRows :
    let rows := (IndexSet.interval 1 1).insertInterval 3 1
    threeRows.InGrid ∧ (threeRows.openRows rows).fault = none ∧
      (∀ c, (threeRows.openRows rows).state.cell 3 c = none) ∧
      (∀ c, (threeRows.openRows rows).state.cell 4 c = threeRows.cell 2 c) ∧
      (threeRows.openRows rows).state.height 1 = none := by
  intro rows
  obtain ⟨hiff, _, hspec⟩ := openRows_spec threeRows rows inGrid_threeRows
  have hdone : (threeRows.openRows rows).fault = none :=
    hiff.mpr ⟨.inr (by decide), .inl (by decide)⟩
  obtain ⟨hblank, hkept, hheight⟩ := hspec hdone
  refine ⟨inGrid_threeRows, hdone, hblank 3 (by decide), hkept 2, ?_⟩
  rw [hheight]
  decide

/-- The grid is not all that counts: a cell that was touched in the first column without a name
and stayed blank keeps row 0 from being opened, though the row below is in the grid. -/
theorem openRows_unnamed_column :
    let s := ((∅ : Sheet).put 0 0 (some (.text "a"))).put 0 namedColumns none
    let rows := IndexSet.interval 0 1
    (∀ r c v, s.cell r c = some v → r ≤ maxRowIndex ∧ c ≤ maxColumnIndex) ∧
      rows.outside s.lastRow.toNat ≤ maxRowIndex ∧
      (s.openRows rows).fault = some (.breakdown (.columnWithoutName (namedColumns + 1))) := by
  refine ⟨fun r c v h => ?_, by decide, rfl⟩
  rw [cell_put, cell_put] at h
  split at h
  · cases h
  · split at h
    · rename_i hrc
      rw [hrc.1, hrc.2]
      decide
    · cases h

end Sheet

end SheetActions
