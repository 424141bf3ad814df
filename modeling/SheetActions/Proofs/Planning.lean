import SheetActions.Proofs.Lowering
import SheetActions.Proofs.Stopping

/-! The plan for opening rows is as it should be, and no shorter one will do.

The plan has one move for each maximal run of the targets (`mem_plan_iff`). It reckons the last
row of each move without looking at the sheet, and reckons rightly as long as the move has
something to move: then all moves before it had, too, and the used rows grew by their counts
(`lastRow_eq_of_openRuns`). When all targets are above the new place of the last used row, each
move takes everything from its first row on down (`lowerAll_eq_openRuns`), and no fewer calls that
do this leave the rows where the plan does (`plan_spec`). -/
namespace SheetActions

/-! ### How far the used rows have grown -/

/-- Where nothing is put in below `i`, no index from below comes past it. -/
theorem le_of_lt_skip {l : List Nat} {i k : Nat} (h : ∀ j ∈ l, i ≤ j) (hi : i < skip l k) :
    i ≤ k := by
  by_contra hlt
  have hstays : skip l k = k := skip_of_lt fun j hj => by
    have := h j hj
    omega
  omega

/-- An index that all of a list were put in below moved up by one for each of them. -/
theorem skip_of_all_lt {l : List Nat} (ascending : l.Pairwise (· < ·)) {k : Nat}
    (h : ∀ j ∈ l, j < skip l k) : skip l k = k + l.length := by
  induction l generalizing k with
  | nil => rfl
  | cons j l ih =>
    obtain ⟨hj, hl⟩ := List.pairwise_cons.mp ascending
    have hmoved : j ≤ k :=
      le_of_lt_skip (List.forall_mem_cons.mpr ⟨Nat.le_refl j, fun i hi => Nat.le_of_lt (hj i hi)⟩)
        (h j List.mem_cons_self)
    rw [skip_cons, if_pos hmoved] at h ⊢
    rw [ih hl fun i hi => h i (List.mem_cons_of_mem j hi), List.length_cons]
    omega

theorem length_flatMap_toList (rs : List Run) :
    (rs.flatMap Run.toList).length = (rs.map Run.length).sum := by
  rw [List.length_flatMap]
  congr 1
  exact List.map_congr_left fun r _ => List.length_range'

namespace Sheet

/-- Runs that were opened, all of them above the last used row, made the used rows longer by
their lengths. -/
theorem lastRow_eq_of_openRuns {s t : Sheet} {rs : List Run}
    (ascending : (rs.flatMap Run.toList).Pairwise (· < ·)) (h : s.openRuns rs = .done t)
    {n : Nat} (hbelow : ∀ i ∈ rs.flatMap Run.toList, i < n) (hused : (n : Int) ≤ t.lastRow) :
    t.lastRow = s.lastRow + (rs.map Run.length).sum := by
  have hfault : (s.openRuns rs).fault = none := by rw [h]; rfl
  have hopened := opened_of_openRuns ascending hfault
  rw [h] at hopened
  have hgrown : t.usedRows = grown (rs.flatMap Run.toList) s.usedRows := hopened.usedRows
  rw [lastRow] at hused
  rw [lastRow, lastRow, ← length_flatMap_toList]
  cases hs : s.usedRows with
  | zero =>
    rw [hs, grown] at hgrown
    omega
  | succ m =>
    rw [hs, grown] at hgrown
    have hskip := skip_of_all_lt ascending (k := m) fun i hi => by
      have := hbelow i hi
      omega
    omega

end Sheet

/-! ### The plan -/

namespace Opening

/-- The move for a run, when the last used row is taken for `last`. -/
def ofRun (last : Int) (r : Run) : Opening where
  first := r.first
  last := (max last r.first).toNat
  count := r.length

/-- Each move of a plan is for a run, and reckons with the rows of the runs before it. -/
theorem planFrom_eq_append {rs : List Run} {last : Int} {before after : List Opening} {o : Opening}
    (h : planFrom last rs = before ++ o :: after) :
    ∃ earlier r later, rs = earlier ++ r :: later ∧ before = planFrom last earlier ∧
      o = ofRun (last + (earlier.map Run.length).sum) r := by
  induction before generalizing rs last with
  | nil =>
    cases rs with
    | nil => cases h
    | cons r rs =>
      cases h
      exact ⟨[], r, rs, rfl, rfl, by simp [ofRun]⟩
  | cons o' before ih =>
    cases rs with
    | nil => cases h
    | cons r rs =>
      rw [planFrom, List.cons_append] at h
      obtain ⟨ho, hrest⟩ := List.cons.inj h
      obtain ⟨earlier, q, later, rfl, rfl, rfl⟩ := ih hrest
      refine ⟨r :: earlier, q, later, rfl, by rw [← ho, planFrom], ?_⟩
      rw [List.map_cons, List.sum_cons, Int.natCast_add, Int.add_assoc]

/-- What is the same for all moves for a run can be told from the runs. -/
theorem map_planFrom {α : Type} {f : Opening → α} {g : Run → α}
    (h : ∀ last r, f (ofRun last r) = g r) (rs : List Run) (last : Int) :
    (planFrom last rs).map f = rs.map g := by
  induction rs generalizing last with
  | nil => rfl
  | cons r rs ih => rw [planFrom, List.map_cons, List.map_cons, ih, ← h last r, ofRun]

/-- The first row and the count of a plan's moves are those of the runs. -/
theorem map_plan (rows : IndexSet) (last : Int) :
    (plan rows last).map (fun o => (o.first, o.count)) =
      rows.runs.map fun r => (r.first, r.length) :=
  map_planFrom (fun _ _ => rfl) rows.runs last

theorem length_plan (rows : IndexSet) (last : Int) :
    (plan rows last).length = rows.runs.length := by
  have hlength := congrArg List.length (map_plan rows last)
  rwa [List.length_map, List.length_map] at hlength

theorem exists_run_of_mem_plan {rows : IndexSet} {last : Int} {o : Opening}
    (h : o ∈ plan rows last) : ∃ r ∈ rows.runs, ∃ reckoned, o = ofRun reckoned r := by
  obtain ⟨before, after, hplan⟩ := List.append_of_mem h
  obtain ⟨earlier, r, later, hruns, -, ho⟩ := planFrom_eq_append hplan
  exact ⟨r, hruns ▸ List.mem_append_right earlier List.mem_cons_self, _, ho⟩

/-- There is a move for each maximal run, and for nothing else. -/
theorem mem_plan_iff {rows : IndexSet} {last : Int} {first count : Nat} :
    rows.IsMaximalRun first count ↔ ∃ o ∈ plan rows last, o.first = first ∧ o.count = count := by
  have hmoves : (first, count) ∈ (plan rows last).map (fun o => (o.first, o.count)) ↔
      (first, count) ∈ rows.runs.map fun r => (r.first, r.length) := by
    rw [map_plan]
  simp only [List.mem_map, Prod.mk.injEq] at hmoves
  rw [IndexSet.isMaximalRun_iff, hmoves]

/-- The moves are in the order of their runs. -/
theorem pairwise_plan (rows : IndexSet) (last : Int) :
    (plan rows last).Pairwise fun o o' => o.first + o.count < o'.first := by
  have hruns : (rows.runs.map fun r => (r.first, r.length)).Pairwise
      fun a b => a.1 + a.2 < b.1 := List.pairwise_map.mpr rows.separated_runs
  rw [← map_plan rows last, List.pairwise_map] at hruns
  exact hruns

/-- A move for a run is a block of rows and a distance to move it. -/
theorem wellFormed_ofRun (last : Int) (r : Run) :
    (ofRun last r).first ≤ (ofRun last r).last ∧ 1 ≤ (ofRun last r).count := by
  have hpos := r.length_pos
  simp only [ofRun]
  omega

/-- No sheet refuses such a move for its arguments. -/
theorem apply_ne_badBlock {o : Opening} (h : o.first ≤ o.last ∧ 1 ≤ o.count) (s : Sheet)
    (first last count : Int) : apply s o ≠
      .error (.refusal (.shiftFailure first last count (some Sheet.badBlockReason))) := by
  intro hrefused
  have hshifted := s.shifted_shiftDown o.first o.last o.count o.copyHeights o.resetHeights
  rw [apply] at hrefused
  generalize s.shiftDown o.first o.last o.count o.copyHeights o.resetHeights = result
    at hshifted hrefused
  cases hshifted with
  | malformed hbad => omega
  | past =>
    have hreason : Sheet.pastSheetReason ≠ Sheet.badBlockReason := by decide
    injection hrefused with hfault
    injection hfault with hrefusal
    injection hrefusal with _ _ _ hsame
    exact hreason (Option.some.inj hsame)
  | behind | unnamed | moved => cases hrefused

/-- A move that has something to move reckons its last row rightly. -/
theorem last_eq_of_execute {rows : IndexSet} {s t : Sheet} {before after : List Opening}
    {o : Opening} (hplan : plan rows s.lastRow = before ++ o :: after)
    (hbefore : execute apply s before = .done t) (hused : (o.first : Int) ≤ t.lastRow) :
    (o.last : Int) = t.lastRow := by
  obtain ⟨earlier, r, later, hruns, rfl, rfl⟩ := planFrom_eq_append hplan
  rw [Sheet.execute_planFrom earlier s (Int.le_refl _)] at hbefore
  have hindices := rows.ascending
  rw [← IndexSet.flatMap_runs, hruns, List.flatMap_append, List.flatMap_cons] at hindices
  obtain ⟨hearlier, -, hacross⟩ := List.pairwise_append.mp hindices
  have hlast : t.lastRow = s.lastRow + (earlier.map Run.length).sum :=
    Sheet.lastRow_eq_of_openRuns hearlier hbefore
      (fun i hi => hacross i hi r.first (List.mem_append_left _ r.first_mem_toList)) hused
  simp only [ofRun] at hused ⊢
  omega

/-! ### The plan as calls -/

/-- The call that makes a move on a sheet that ends where the move does. -/
def lowering (o : Opening) : Lowering where
  first := o.first
  count := o.count
  copyHeights := o.copyHeights
  resetHeights := o.resetHeights

end Opening

namespace Sheet

/-- Everything from the first row of a run on is moved down when the run is opened, unless it
lies behind the used rows. -/
theorem lower_ofRun {s : Sheet} {r : Run} (h : (r.first : Int) ≤ s.lastRow) (last : Int) :
    s.lower (Opening.ofRun last r).lowering = s.openRun r := by
  rw [← apply_opening s r (Int.le_refl _)]
  have hend : ((max s.lastRow r.first).toNat : Int) = s.lastRow := by omega
  simp only [lower, Opening.apply, Opening.lowering, Opening.ofRun, hend]

/-- Runs above the new place of the last used row are opened by moving everything from each of
them on down. -/
theorem lowerAll_eq_openRuns {rs : List Run} {s : Sheet} {n : Nat} (hused : s.usedRows = n + 1)
    (hbelow : ∀ i ∈ rs.flatMap Run.toList, i < skip (rs.flatMap Run.toList) n)
    (ascending : (rs.flatMap Run.toList).Pairwise (· < ·)) (last : Int) :
    s.lowerAll ((Opening.planFrom last rs).map Opening.lowering) = s.openRuns rs := by
  induction rs generalizing s n last with
  | nil => rfl
  | cons r rs ih =>
    rw [List.flatMap_cons] at hbelow ascending
    obtain ⟨-, hrest, hacross⟩ := List.pairwise_append.mp ascending
    have hfirst : r.first ≤ n := by
      refine le_of_lt_skip (List.forall_mem_append.mpr ⟨fun i hi => (Run.mem_toList.mp hi).1,
        fun i hi => Nat.le_of_lt (hacross _ r.first_mem_toList i hi)⟩) ?_
      exact hbelow r.first (List.mem_append_left _ r.first_mem_toList)
    have hlower : s.lower (Opening.ofRun last r).lowering = s.openRun r :=
      lower_ofRun (by rw [lastRow]; omega) last
    show s.lowerAll ((Opening.ofRun last r).lowering :: _) = _
    cases hr : s.openRun r with
    | error f => rw [lowerAll_cons_error (hlower.trans hr), openRuns_cons_error hr]
    | ok t =>
      rw [lowerAll_cons_ok (hlower.trans hr), openRuns_cons_ok hr]
      have hgrown : t.usedRows = n + r.length + 1 := by
        rw [(opened_of_openRun hr).usedRows, grown_run, if_pos (by omega)]
        omega
      refine ih hgrown (fun i hi => ?_) hrest _
      have := hbelow i (List.mem_append_right _ hi)
      rwa [skip_append, skip_run, if_pos hfirst] at this

end Sheet

namespace Opening

/-- **The plan.** It has one move for each maximal run of the targets, in order, and each is a
block of rows that no sheet refuses for its arguments. A move that has something to move ends at
the last used row that is found when its turn comes. And when all targets are above the new place
of the last used row, the moves of the plan take everything from their first rows on down, and
there are no fewer such calls that put row `k` at the `k`-th row that is no target on every sheet
whose columns have names. -/
theorem plan_spec (rows : IndexSet) (last : Int) :
    (plan rows last).Pairwise (fun o o' => o.first + o.count < o'.first) ∧
    (∀ first count, rows.IsMaximalRun first count ↔
      ∃ o ∈ plan rows last, o.first = first ∧ o.count = count) ∧
    (∀ o ∈ plan rows last, o.first ≤ o.last ∧ 1 ≤ o.count ∧ ∀ s first last count,
      apply s o ≠ .error (.refusal (.shiftFailure first last count (some Sheet.badBlockReason)))) ∧
    (∀ s before o after t, s.lastRow = last → plan rows last = before ++ o :: after →
      execute apply s before = .done t → (o.first : Int) ≤ t.lastRow →
      (o.last : Int) = t.lastRow) ∧
    (0 ≤ last → (∀ i ∈ rows, i < rows.outside last.toNat) →
      (∀ s : Sheet, s.lastRow = last →
        s.lowerAll ((plan rows last).map lowering) = s.openRows rows) ∧
      ∀ calls : List Lowering,
        (∀ s : Sheet, s.lastRow = last → s.extent.columns ≤ Sheet.namedColumns → ∀ k c,
          (s.lowerAll calls).state.cell (rows.outside k) c = s.cell k c) →
        (plan rows last).length ≤ calls.length) := by
  refine ⟨pairwise_plan rows last, fun _ _ => mem_plan_iff, fun o ho => ?_,
    fun s before o after t hs hplan hbefore hused => ?_, fun hlast hbelow => ⟨fun s hs => ?_,
    fun calls hcalls => ?_⟩⟩
  · obtain ⟨r, -, reckoned, rfl⟩ := exists_run_of_mem_plan ho
    have hblock := wellFormed_ofRun reckoned r
    exact ⟨hblock.1, hblock.2, apply_ne_badBlock hblock⟩
  · subst hs
    exact last_eq_of_execute hplan hbefore hused
  · rw [Sheet.openRows_eq_openRuns]
    have hused : s.usedRows = last.toNat + 1 := by
      rw [Sheet.lastRow] at hs
      omega
    refine Sheet.lowerAll_eq_openRuns hused ?_ ?_ last
    · rw [IndexSet.flatMap_runs]
      exact hbelow
    · rw [IndexSet.flatMap_runs]
      exact rows.ascending
  · rw [length_plan]
    have hrow : (Sheet.numbered (last.toNat + 1)).lastRow = last := by
      rw [Sheet.lastRow_numbered]
      omega
    have hnamed : (Sheet.numbered (last.toNat + 1)).extent.columns ≤ Sheet.namedColumns :=
      (Sheet.columns_numbered _).trans (by decide)
    exact Sheet.length_runs_le_of_lowerAll hbelow fun k _ => hcalls _ hrow hnamed k 0

/-- Rows 2, 3 and 7 of ten rows take two moves, and no one call will do. -/
theorem plan_spec_scattered :
    let rows := (IndexSet.interval 2 2).insertInterval 7 1
    plan rows 9 = [{ first := 2, last := 9, count := 2 }, { first := 7, last := 11, count := 1 }] ∧
      ∀ a : Lowering, ∃ s : Sheet, s.lastRow = 9 ∧ s.extent.columns ≤ Sheet.namedColumns ∧
        ∃ k c, (s.lowerAll [a]).state.cell (rows.outside k) c ≠ s.cell k c := by
  intro rows
  have hplan : plan rows 9 =
      [{ first := 2, last := 9, count := 2 }, { first := 7, last := 11, count := 1 }] := by decide
  refine ⟨hplan, fun a => ?_⟩
  by_contra hnone
  push Not at hnone
  obtain ⟨-, -, -, -, hfewest⟩ := plan_spec rows 9
  have hlength := (hfewest (by decide) (by decide)).2 [a] hnone
  rw [hplan] at hlength
  exact absurd hlength (Nat.not_succ_le_self 1)

end Opening

end SheetActions
