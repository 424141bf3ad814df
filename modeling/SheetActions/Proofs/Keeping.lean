import SheetActions.Proofs.Outcomes

/-! Writing that overwrites nothing.

Without overwriting, a token is written to a blank cell or the work stops, so a value that was
there stays, whether the work is done or not (`cell_writeToken`). A token never fills the cell of a
later one, since the cells of the tokens are in strict order (`pairwise_targets`): a cell that is
filled when its turn comes was filled before. So the work stops at the first such cell, with the
tokens before it written and nothing else (`writeRows_keeps`). -/
namespace SheetActions.Sheet

variable {s t : Sheet} {l before after : List Target} {a : Target}

/-! ### What is kept -/

/-- Giving a cell a value leaves the other cells alone, also where that fails. -/
theorem cell_enter {r c i j : Nat} (v : Option Value) (h : ¬(i = r ∧ j = c)) :
    (s.enter r c v).state.cell i j = s.cell i j := by
  unfold enter
  split
  · rfl
  · split
    · rfl
    · exact (s.cell_put r c _ i j).trans (if_neg h)
    · rfl

/-- A token is written to a blank cell or not at all. -/
theorem cell_writeToken {r c : Nat} {v : Value} (h : s.cell r c = some v) (a : Target) :
    (writeToken false s a).state.cell r c = some v := by
  unfold writeToken
  split
  · exact h
  · rename_i hblank
    split
    · refine (cell_enter _ ?_).trans h
      rintro ⟨rfl, rfl⟩
      rw [h] at hblank
      exact hblank rfl
    · exact h

theorem cell_writeRows {r c : Nat} {v : Value} (h : s.cell r c = some v) (data : Payload)
    (rows columns : IndexSet) : (s.writeRows data rows columns false).state.cell r c = some v := by
  unfold writeRows
  split
  · exact h
  · exact Progress.state_run (P := fun t : Sheet => t.cell r c = some v)
      (fun t a ht => cell_writeToken ht a) h _

/-! ### What is written -/

/-- A cell can take the token that is for it. -/
def Target.Fits (a : Target) : Prop :=
  a.row ≤ maxRowIndex ∧ contentOf? a.token ≠ none

/-- `t` is `s` with the content of the tokens in their cells, and nothing else. -/
structure Filled (l : List Target) (s t : Sheet) : Prop where
  content : ∀ a ∈ l, contentOf? a.token = some (t.cell a.row a.column)
  frame : ∀ r c, (∀ a ∈ l, a.place ≠ (r, c)) → t.cell r c = s.cell r c
  height : ∀ r, t.height r = s.height r

theorem filled_of_run {overwrite : Bool} (distinct : (l.map Target.place).Nodup)
    (h : Progress.run (writeToken overwrite) s l = .done t) : Filled l s t where
  content := fun a ha => by
    obtain ⟨_, v, kept, hv, hkept, hcell⟩ := content_of_run distinct h a ha
    rw [hcell]
    exact toOption_eq_some.mpr (bind_eq_ok.mpr ⟨v, hv, hkept⟩)
  frame := fun _ _ away => cell_of_run h away
  height := height_of_run h

/-- Tokens that fit into blank cells are all written. -/
theorem exists_filled (distinct : (l.map Target.place).Nodup) (fits : ∀ a ∈ l, a.Fits)
    (blank : ∀ a ∈ l, s.cell a.row a.column = none) :
    ∃ t, Progress.run (writeToken false) s l = .done t ∧ Filled l s t := by
  have hends : ∃ t, (Progress.run (writeToken true) s l).toExcept = .ok t := by
    refine exists_ok_of_not_failsAs fun k hk => ?_
    obtain ⟨_, a, ha, hnone⟩ := (failsAs_run_iff fun a ha => (fits a ha).1).mp hk
    exact (fits a ha).2 hnone
  obtain ⟨t, ht⟩ := hends
  rw [Progress.toExcept_eq_ok, ← run_writeToken_of_blank false distinct blank] at ht
  exact ⟨t, ht, filled_of_run distinct ht⟩

/-! ### Where the work stops -/

/-- The fault of a token whose cell holds a value. -/
def occupied (a : Target) : Fault :=
  .refusal (.shiftFailure a.row a.row 1 (some (notOpenedReason a.row)))

theorem writeToken_of_ne_none (h : s.cell a.row a.column ≠ none) :
    writeToken false s a = .stopped s (occupied a) := by
  unfold writeToken
  rw [Option.ne_none_iff_isSome.mp h]
  rfl

/-- The work stops at the first token whose cell held a value before. -/
theorem run_of_occupied (distinct : ((before ++ a :: after).map Target.place).Nodup)
    (fits : ∀ b ∈ before, b.Fits) (blank : ∀ b ∈ before, s.cell b.row b.column = none)
    (held : s.cell a.row a.column ≠ none) :
    ∃ t, Progress.run (writeToken false) s (before ++ a :: after) = .stopped t (occupied a) ∧
      Filled before s t := by
  rw [List.map_append, List.map_cons, List.nodup_append] at distinct
  obtain ⟨hbefore, _, hacross⟩ := distinct
  obtain ⟨t, ht, hfilled⟩ := exists_filled hbefore fits blank
  refine ⟨t, ?_, hfilled⟩
  have haway : ∀ b ∈ before, b.place ≠ (a.row, a.column) := fun b hb =>
    hacross _ (List.mem_map_of_mem hb) _ List.mem_cons_self
  -- no token before it is for its cell, which still holds what it held at first
  rw [← hfilled.frame _ _ haway] at held
  rw [Progress.run_append, ht]
  show Progress.run (writeToken false) t (a :: after) = _
  rw [Progress.run_cons, writeToken_of_ne_none held]
  rfl

/-- Of tokens in order, those before one of them stand in front of it. -/
theorem filter_before (h : (before ++ a :: after).Pairwise Target.Before) :
    (before ++ a :: after).filter (·.Before a) = before := by
  obtain ⟨_, hrest, hacross⟩ := List.pairwise_append.mp h
  have hfront : before.filter (·.Before a) = before :=
    List.filter_eq_self.mpr fun b hb => decide_eq_true (hacross b hb a List.mem_cons_self)
  have hself : ¬ a.Before a := fun hbefore => hbefore.asymm hbefore
  have hback : after.filter (·.Before a) = [] := by
    refine List.filter_eq_nil_iff.mpr fun b hb => ?_
    rw [decide_eq_true_eq]
    exact ((List.pairwise_cons.mp hrest).1 b hb).asymm
  rw [List.filter_append, hfront, List.filter_cons_of_neg (by rwa [decide_eq_true_eq]), hback,
    List.append_nil]

/-- Some token is the first whose cell held a value. -/
theorem exists_first (h : ∃ a ∈ l, s.cell a.row a.column ≠ none) :
    ∃ before a after, l = before ++ a :: after ∧ s.cell a.row a.column ≠ none ∧
      ∀ b ∈ before, s.cell b.row b.column = none := by
  cases hfind : l.find? fun a => (s.cell a.row a.column).isSome with
  | none =>
    obtain ⟨a, ha, hheld⟩ := h
    have hblank := List.find?_eq_none.mp hfind a ha
    exact absurd (Option.ne_none_iff_isSome.mp hheld) hblank
  | some a =>
    obtain ⟨hheld, before, after, hl, hbefore⟩ := List.find?_eq_some_iff_append.mp hfind
    refine ⟨before, a, after, hl, Option.ne_none_iff_isSome.mpr hheld, fun b hb => ?_⟩
    simpa using hbefore b hb

section Targets
variable {data : Payload} {rows columns : IndexSet}

theorem writeRows_of_fits (h : Placement.checkFits data rows columns = .ok ()) (overwrite : Bool) :
    s.writeRows data rows columns overwrite =
      Progress.run (writeToken overwrite) s (targets data rows columns) := by
  rw [writeRows, h]

/-- The first target that held a value stops the work, once all targets before it are written. -/
theorem writeRows_of_occupied (h : Placement.checkFits data rows columns = .ok ())
    (fits : ∀ a ∈ targets data rows columns, a.Fits) (ha : a ∈ targets data rows columns)
    (held : s.cell a.row a.column ≠ none)
    (blank : ∀ b ∈ targets data rows columns, b.Before a → s.cell b.row b.column = none) :
    (s.writeRows data rows columns false).fault = some (occupied a) ∧
      Filled ((targets data rows columns).filter (·.Before a)) s
        (s.writeRows data rows columns false).state := by
  have hdistinct := nodup_targets data rows columns
  have hordered := pairwise_targets data rows columns
  rw [writeRows_of_fits h]
  obtain ⟨before, after, hl⟩ := List.append_of_mem ha
  rw [hl] at fits blank hdistinct hordered ⊢
  have hfront := filter_before hordered
  have hmem : ∀ b ∈ before, b ∈ before ++ a :: after ∧ b.Before a := fun b hb => by
    rw [← hfront] at hb
    exact ⟨(List.mem_filter.mp hb).1, of_decide_eq_true (List.mem_filter.mp hb).2⟩
  obtain ⟨t, ht, hfilled⟩ := run_of_occupied hdistinct (fun b hb => fits b (hmem b hb).1)
    (fun b hb => blank b (hmem b hb).1 (hmem b hb).2) held
  rw [hfront, ht]
  exact ⟨rfl, hfilled⟩

end Targets

/-- **Nothing is overwritten.** Writing data without overwriting keeps every value that was on the
sheet, however it ends. Data that does not fit is not written at all. For data that fits there is a
row for each of its rows and a column for each of its tokens. If the cells can take the tokens, the
work stops just when one of the cells that are written to held a value before. Then the tokens
before the first such cell, row by row and from the left, are written and no other, and the failure
names its row. Otherwise all are written. -/
theorem writeRows_keeps (s : Sheet) (data : Payload) (rows columns : IndexSet) :
    let written := s.writeRows data rows columns false
    let touched := targets data rows columns
    (∀ r c v, s.cell r c = some v → written.state.cell r c = some v) ∧
    (∀ f, Placement.checkFits data rows columns = .error f → written = .stopped s f) ∧
    (Placement.checkFits data rows columns = .ok () →
      (∀ (i j : Nat) row token, data.rows[i]? = some row → row[j]? = some token →
        ∃ r c, rows.toList[i]? = some r ∧ columns.toList[j]? = some c ∧ ⟨r, c, token⟩ ∈ touched) ∧
      ((∀ a ∈ touched, a.Fits) →
        ((∃ f, written.fault = some f ∧ f.IsShiftFailure) ↔
          ∃ a ∈ touched, s.cell a.row a.column ≠ none) ∧
        (∀ a ∈ touched, s.cell a.row a.column ≠ none →
          (∀ b ∈ touched, b.Before a → s.cell b.row b.column = none) →
          written.fault = some (occupied a) ∧
            Filled (touched.filter (·.Before a)) s written.state) ∧
        ((∀ a ∈ touched, s.cell a.row a.column = none) →
          written.fault = none ∧ Filled touched s written.state))) := by
  intro written touched
  refine ⟨fun r c v h => cell_writeRows h data rows columns, fun f h => ?_, fun h => ⟨?_, ?_⟩⟩
  · simp only [written, writeRows, h]
  · intro i j row token hrow htoken
    obtain ⟨rowsFit, columnsFit⟩ := Placement.checkFits_eq_ok_iff.mp h
    exact exists_place_of_token rowsFit columnsFit hrow htoken
  · intro fits
    have hall : (∀ a ∈ touched, s.cell a.row a.column = none) →
        written.fault = none ∧ Filled touched s written.state := fun blank => by
      obtain ⟨t, ht, hfilled⟩ := exists_filled (nodup_targets data rows columns) fits blank
      rw [show written = .done t from (writeRows_of_fits h false).trans ht]
      exact ⟨rfl, hfilled⟩
    refine ⟨⟨?_, fun hheld => ?_⟩,
      fun a ha held blank => writeRows_of_occupied h fits ha held blank, hall⟩
    · rintro ⟨f, hf, _⟩
      by_contra hnone
      push Not at hnone
      rw [(hall hnone).1] at hf
      cases hf
    · obtain ⟨before, a, after, hl, held, hbefore⟩ := exists_first hheld
      have hfront : touched.filter (·.Before a) = before := by
        have hordered : touched.Pairwise Target.Before := pairwise_targets data rows columns
        rw [hl] at hordered ⊢
        exact filter_before hordered
      have ha : a ∈ touched := hl ▸ List.mem_append_right before List.mem_cons_self
      have hstop := writeRows_of_occupied h fits ha held fun b hb hba =>
        hbefore b (hfront ▸ List.mem_filter.mpr ⟨hb, decide_eq_true hba⟩)
      exact ⟨occupied a, hstop.1, a.row, a.row, 1, _, rfl⟩

/-- A sheet with one value, in the fourth row. -/
def heldFourth : Sheet :=
  (∅ : Sheet).put 3 0 (some (.text "x"))

/-- Rows of two, one and two tokens for the second, fourth and fifth row. The value in the fourth
row stops the work, with the two tokens of the second row written. -/
theorem writeRows_keeps_fourth :
    let data : Payload := ⟨[["1", "2"], ["3"], ["4", "5"]]⟩
    let rows := (IndexSet.interval 1 1).insertInterval 3 2
    let columns := (IndexSet.interval 0 1).insertInterval 2 1
    let written := heldFourth.writeRows data rows columns false
    written.fault = some (.refusal (.shiftFailure 3 3 1
        (some "row 3 was not opened for insertion"))) ∧
      Filled [⟨1, 0, "1"⟩, ⟨1, 2, "2"⟩] heldFourth written.state ∧
      written.state.cell 3 0 = some (.text "x") := by
  intro data rows columns written
  obtain ⟨hkeeps, -, hfits⟩ := writeRows_keeps heldFourth data rows columns
  have htouched : targets data rows columns =
      [⟨1, 0, "1"⟩, ⟨1, 2, "2"⟩, ⟨3, 0, "3"⟩, ⟨4, 0, "4"⟩, ⟨4, 2, "5"⟩] := rfl
  have htakes : ∀ a ∈ targets data rows columns, a.Fits := by
    rw [htouched]
    unfold Target.Fits
    decide
  obtain ⟨-, hstop, -⟩ := (hfits rfl).2 htakes
  obtain ⟨hfault, hfilled⟩ := hstop ⟨3, 0, "3"⟩ (by rw [htouched]; simp) (by decide) (by
    rw [htouched]
    decide)
  exact ⟨hfault, hfilled, hkeeps 3 0 _ rfl⟩

end SheetActions.Sheet
