import SheetActions.Action.Add
import SheetActions.Proofs.OpenRows
import SheetActions.Proofs.Saving
import SheetActions.Proofs.Writing

/-! The stages of adding data, when each of them succeeds.

What is known after each stage has a name: the worksheet was `Found` in the directory, the
tokens were `Placed` on it, and the sheet was opened and written, which gives `Opened` and
`Wrote`. A run that comes as far as saving went through all of them, and there are four
ways for it to end (`Ended`). -/
namespace SheetActions

theorem Payload.columnCount_le_iff {data : Payload} {n : Nat} :
    data.columnCount ≤ n ↔ ∀ row ∈ data.rows, row.length ≤ n :=
  (Grid.foldl_max_le_iff List.length data.rows 0 n).trans (and_iff_right (Nat.zero_le n))

theorem Outcome.returnCode_ofFault (during : String) (f : Fault) :
    (ofFault during f).returnCode = failureCode := by
  cases f <;> rfl

theorem Outcome.isSuccess_ofFault (during : String) (f : Fault) :
    (ofFault during f).isSuccess = false := by
  cases f <;> rfl

/-- Data fits if it has a row for each of its rows and a column for each token of them. -/
theorem Placement.checkFits_eq_ok_iff {data : Payload} {rows columns : IndexSet} :
    checkFits data rows columns = .ok () ↔
      data.rowCount ≤ rows.size ∧ ∀ row ∈ data.rows, row.length ≤ columns.size := by
  rw [← Payload.columnCount_le_iff]
  unfold checkFits
  split
  · simp only [reduceCtorEq, false_iff, not_and]
    omega
  · split
    · simp only [reduceCtorEq, false_iff, not_and]
      omega
    · simp only [true_iff]
      omega

namespace AddRequest
variable {r : AddRequest} {d : Directory} {u : Subject} {p : Plan} {s e : Sheet}
  {header : List String}

/-! ### Finding the worksheet -/

/-- The worksheet that a request names is in the directory. -/
structure Found (r : AddRequest) (d : Directory) (u : Subject) : Prop where
  file : u.file = Text.trim r.file
  sheetName : u.sheetName = Text.trim r.sheet
  opened : d.openForChange u.file = .ok u.workbook
  sheet : u.workbook.sheet? u.sheetName = some u.sheet

theorem eq_trim_of_required {value message field trimmed : String}
    (h : Input.required value message field = .ok trimmed) : trimmed = Text.trim value := by
  simp only [Input.required] at h
  split at h
  · cases h
  · exact (Except.ok.inj h).symm

theorem subject_eq_ok_iff : r.subject d = .ok u ↔
    Input.fileName r.file = .ok u.file ∧ Text.isBlankText r.data = false ∧
      Input.sheetName r.sheet = .ok u.sheetName ∧ d.openForChange u.file = .ok u.workbook ∧
      u.workbook.sheet? u.sheetName = some u.sheet := by
  have hsheet : u.workbook.sheet u.sheetName = .ok u.sheet ↔
      u.workbook.sheet? u.sheetName = some u.sheet := by
    unfold Workbook.sheet
    cases u.workbook.sheet? u.sheetName <;> simp
  rw [← hsheet]
  simp only [subject, bind_eq_ok]
  constructor
  · rintro ⟨file, hfile, h⟩
    split at h
    · obtain ⟨_, hthrow, _⟩ := bind_eq_ok.mp h
      cases hthrow
    · rename_i hdata
      simp only [bind_eq_ok] at h
      obtain ⟨name, hname, w, hw, sheet, hat, hu⟩ := h
      cases hu
      exact ⟨hfile, by simpa using hdata, hname, hw, hat⟩
  · rintro ⟨hfile, hdata, hname, hw, hat⟩
    refine ⟨u.file, hfile, ?_⟩
    rw [if_neg (by rw [hdata]; exact Bool.false_ne_true)]
    exact bind_eq_ok.mpr ⟨_, hname, bind_eq_ok.mpr ⟨_, hw, bind_eq_ok.mpr ⟨_, hat, rfl⟩⟩⟩

theorem found_of_subject (h : r.subject d = .ok u) : r.Found d u := by
  obtain ⟨hfile, _, hname, hw, hsheet⟩ := subject_eq_ok_iff.mp h
  exact ⟨eq_trim_of_required hfile, eq_trim_of_required hname, hw, hsheet⟩

/-! ### Where the data goes -/

/-- The data is that of the request, and it goes to rows and columns that have room for it;
a header has its row to itself. -/
structure Placed (r : AddRequest) (s : Sheet) (p : Plan) : Prop where
  data : Payload.parse r.rowDelimiter r.columnDelimiter r.data = .ok p.data
  rows : Placement.resolveRows r.rows s.usedRows p.data.rowCount r.hasHeader
    (r.reservesHeader s) = .ok p.rows
  columns : Placement.resolveColumns r.columns p.data.columnCount = .ok p.columns
  rowsFit : p.data.rowCount ≤ p.rows.size
  columnsFit : ∀ row ∈ p.data.rows, row.length ≤ p.columns.size
  headerRow : r.hasHeader → Placement.headerRow ∉ p.rows

theorem plan_eq_ok_iff : r.plan s = .ok p ↔
    Payload.parse r.rowDelimiter r.columnDelimiter r.data = .ok p.data ∧
      Placement.resolveRows r.rows s.usedRows p.data.rowCount r.hasHeader (r.reservesHeader s) =
        .ok p.rows ∧
      ¬(r.hasHeader ∧ Placement.headerRow ∈ p.rows) ∧
      Placement.resolveColumns r.columns p.data.columnCount = .ok p.columns ∧
      Placement.checkFits p.data p.rows p.columns = .ok () := by
  simp only [plan, bind_eq_ok]
  constructor
  · rintro ⟨data, hdata, rows, hrows, h⟩
    split at h
    · obtain ⟨_, hthrow, _⟩ := bind_eq_ok.mp h
      cases hthrow
    · obtain ⟨columns, hcolumns, h⟩ := bind_eq_ok.mp h
      obtain ⟨_, hfits, hp⟩ := bind_eq_ok.mp h
      cases hp
      exact ⟨hdata, hrows, ‹_›, hcolumns, hfits⟩
  · rintro ⟨hdata, hrows, hheader, hcolumns, hfits⟩
    refine ⟨p.data, hdata, p.rows, hrows, ?_⟩
    rw [if_neg hheader]
    exact bind_eq_ok.mpr ⟨p.columns, hcolumns, bind_eq_ok.mpr ⟨(), hfits, rfl⟩⟩

theorem placed_of_plan (h : r.plan s = .ok p) : r.Placed s p := by
  obtain ⟨hdata, hrows, hheader, hcolumns, hfits⟩ := plan_eq_ok_iff.mp h
  obtain ⟨hrowsFit, hcolumnsFit⟩ := Placement.checkFits_eq_ok_iff.mp hfits
  exact ⟨hdata, hrows, hcolumns, hrowsFit, hcolumnsFit, fun hh hm => hheader ⟨hh, hm⟩⟩

/-! ### Changing the sheet -/

/-- Every text among the tokens of a request fits into a cell. -/
structure TextsFit (r : AddRequest) : Prop where
  data : ∀ data, Payload.parse r.rowDelimiter r.columnDelimiter r.data = .ok data →
    ∀ row ∈ data.rows, ∀ token ∈ row, FitsCell token
  header : ∀ header, r.headerTokens = .ok header → ∀ token ∈ header, FitsCell token

/-- All tokens of a request, those of the data first, with their cells. -/
def allTargets (p : Plan) (header : List String) : List Sheet.Target :=
  Sheet.targets p.data p.rows p.columns ++ Sheet.headerTargets header

/-- A blank header has no tokens. -/
theorem hasHeader_of_token {j : Nat} {token : String} (h : r.headerTokens = .ok header)
    (hj : header[j]? = some token) : r.hasHeader = true := by
  unfold headerTokens at h
  split at h
  · assumption
  · cases h
    cases hj

/-- The tokens of the data are not in the row of the header. -/
theorem place_ne_of_placed (placed : r.Placed s p) (h : r.headerTokens = .ok header)
    {a b : Sheet.Target} (ha : a ∈ Sheet.targets p.data p.rows p.columns)
    (hb : b ∈ Sheet.headerTargets header) : b.place ≠ a.place := by
  intro heq
  obtain ⟨i, j, row, _, _, hrow, _⟩ := Sheet.mem_targets.mp ha
  obtain ⟨hzero, hj⟩ := Sheet.mem_headerTargets.mp hb
  have hsame : b.row = a.row := (Prod.mk.inj heq).1
  apply placed.headerRow (hasHeader_of_token h hj)
  rw [← hzero, hsame]
  exact List.mem_of_getElem? hrow

/-- No two tokens go to one cell, header tokens included. -/
theorem nodup_allTargets (placed : r.Placed s p) (h : r.headerTokens = .ok header) :
    ((allTargets p header).map Sheet.Target.place).Nodup := by
  rw [allTargets, List.map_append, List.nodup_append]
  refine ⟨Sheet.nodup_targets .., Sheet.nodup_headerTargets _, fun x hx y hy => ?_⟩
  obtain ⟨a, ha, rfl⟩ := List.mem_map.mp hx
  obtain ⟨b, hb, rfl⟩ := List.mem_map.mp hy
  exact (place_ne_of_placed placed h ha hb).symm

/-- Overwriting leaves the sheet as it is at first, and inserting opens the rows. -/
theorem openTargets_eq_done {o : Sheet} (h : r.openTargets p s = .done o) :
    o = s ∨ s.openRows p.rows = .done o := by
  unfold openTargets at h
  split at h
  · cases h
    exact .inl rfl
  · exact .inr h

/-- A sheet that was changed had its targets opened, and then the tokens of the data and those
of the header were written. -/
theorem edit_eq_ok (h : r.edit p s = .ok e) :
    ∃ o m header, r.openTargets p s = .done o ∧
      Progress.run (Sheet.writeToken r.overwrite) o (Sheet.targets p.data p.rows p.columns) =
        .done m ∧
      r.headerTokens = .ok header ∧
      Progress.run (Sheet.writeToken true) m (Sheet.headerTargets header) = .done e := by
  obtain ⟨o, hopen, hwrite⟩ := bind_eq_ok.mp h
  rw [mapError_eq_ok, Progress.toExcept_eq_ok] at hopen
  simp only [mapError_eq_ok, write, bind_eq_ok, Progress.toExcept_eq_ok] at hwrite
  obtain ⟨m, hrows, header, hheader, hlast⟩ := hwrite
  refine ⟨o, m, header, hopen, ?_, hheader, hlast⟩
  unfold Sheet.writeRows at hrows
  split at hrows
  · cases hrows
  · exact hrows

/-- When all texts fit, the tokens are in their cells. -/
theorem wrote_of_edit (placed : r.Placed s p) (fits : r.TextsFit) (h : r.edit p s = .ok e) :
    ∃ o header, r.openTargets p s = .done o ∧ r.headerTokens = .ok header ∧
      Sheet.Wrote (allTargets p header) o e := by
  obtain ⟨o, m, header, hopen, hrows, hheader, hlast⟩ := edit_eq_ok h
  refine ⟨o, header, hopen, hheader, ?_⟩
  have hdata : Sheet.Wrote (Sheet.targets p.data p.rows p.columns) o m := by
    refine Sheet.wrote_of_run (fun a ha => ?_) (Sheet.nodup_targets ..) hrows
    obtain ⟨i, j, row, hrow, htoken, _, _⟩ := Sheet.mem_targets.mp ha
    exact fits.data p.data placed.data row (List.mem_of_getElem? hrow) a.token
      (List.mem_of_getElem? htoken)
  have hheaderRow : Sheet.Wrote (Sheet.headerTargets header) m e := by
    refine Sheet.wrote_of_run (fun a ha => ?_) (Sheet.nodup_headerTargets header) hlast
    exact fits.header header hheader a.token
      (List.mem_of_getElem? (Sheet.mem_headerTargets.mp ha).2)
  exact hdata.append hheaderRow fun a ha b hb => place_ne_of_placed placed hheader ha hb

/-! ### All stages -/

theorem draft_eq_ok_iff {t : Draft} : r.draft d = .ok t ↔
    r.subject d = .ok t.subject ∧ r.plan t.subject.sheet = .ok t.plan ∧
      r.edit t.plan t.subject.sheet = .ok t.sheet := by
  simp only [draft, change, bind_eq_ok, mapError_eq_ok, Prod.exists]
  constructor
  · rintro ⟨u, hu, p, e, ⟨p', hp, e', he, hpair⟩, ht⟩
    cases hpair
    cases ht
    exact ⟨hu, hp, he⟩
  · rintro ⟨hu, hp, he⟩
    exact ⟨t.subject, hu, t.plan, t.sheet, ⟨t.plan, hp, t.sheet, he, rfl⟩, rfl⟩

theorem draft_eq_ok {t : Draft} (h : r.draft d = .ok t) :
    r.Found d t.subject ∧ r.Placed t.subject.sheet t.plan ∧
      r.edit t.plan t.subject.sheet = .ok t.sheet := by
  obtain ⟨hu, hp, he⟩ := draft_eq_ok_iff.mp h
  exact ⟨found_of_subject hu, placed_of_plan hp, he⟩

theorem draft_eq_error_iff {x : Stage × Fault} : r.draft d = .error x ↔
    (∃ fault, r.subject d = .error fault ∧ x = (.validating, fault)) ∨
      ∃ u, r.subject d = .ok u ∧ r.change u.sheet = .error x := by
  cases hsubject : r.subject d with
  | error fault =>
    simp only [draft, hsubject, Except.error.injEq, exists_eq_left', reduceCtorEq, false_and,
      exists_false, or_false]
    exact ⟨fun h => (Except.error.inj h).symm, fun h => congrArg Except.error h.symm⟩
  | ok u =>
    simp only [draft, hsubject, mapError_ok, reduceCtorEq, false_and, exists_false, false_or,
      Except.ok.injEq, exists_eq_left']
    show (r.change u.sheet >>= fun x => pure (⟨u, x.1, x.2⟩ : Draft)) = _ ↔ _
    rw [bind_eq_error]
    refine or_iff_left ?_
    rintro ⟨_, _, h⟩
    cases h

theorem run_of_draft_error {x : Stage × Fault} (hx : r.draft d = .error x) :
    r.run d = (.ofFault x.1.during x.2, d) := by
  simp only [run, hx]

/-- How a run can end. -/
inductive Ended (r : AddRequest) (d : Directory) : Outcome × Directory → Prop where
  /-- A stage before saving failed. -/
  | stopped {stage : Stage} {f : Fault} : r.draft d = .error (stage, f) →
      Ended r d (.ofFault stage.during f, d)
  /-- Nothing can be saved to the file. -/
  | refused {t : Draft} {f : Fault} : r.draft d = .ok t → d.Obstructs t.subject.file f →
      Ended r d (.ofFault Stage.writing.during f, d)
  /-- The workbook cannot be saved. -/
  | spoiled {t : Draft} {old : Content} {flaw : SaveFlaw} {d' : Directory} : r.draft d = .ok t →
      d.CanSave t.subject.file → t.workbook.Unsavable → old ≠ .archive →
      d.Rewritten t.subject.file old .archive d' →
      Ended r d (.ofFault Stage.writing.during
        (Directory.writeFault t.subject.file "save" flaw.message), d')
  | saved {t : Draft} {old : Content} {d' : Directory} : r.draft d = .ok t →
      d.CanSave t.subject.file → ¬ t.workbook.Unsavable →
      d.Rewritten t.subject.file old (.workbook t.workbook.stored) d' → Ended r d (t.outcome, d')

section Run
variable {t : Draft} {d' : Directory} (ht : r.draft d = .ok t)
include ht

theorem run_of_done (h : d.save t.subject.file t.workbook = .done d') :
    r.run d = (t.outcome, d') := by
  simp only [run, ht, h]
  rfl

theorem run_of_stopped {f : Fault} (h : d.save t.subject.file t.workbook = .stopped d' f) :
    r.run d = (.ofFault Stage.writing.during f, d') := by
  simp only [run, ht, h]
  rfl

/-- Where nothing can be saved to the file, a run leaves everything as it was. -/
theorem run_of_obstructs {f : Fault} (h : d.Obstructs t.subject.file f) :
    r.run d = (.ofFault Stage.writing.during f, d) := by
  obtain ⟨place, old, hplace, hold, _⟩ :=
    Directory.content_of_openForChange (draft_eq_ok ht).1.opened
  exact run_of_stopped ht (h.save hplace hold _)

end Run

/-- Saving is the last stage, and the first to touch the directory. -/
theorem ended_run (r : AddRequest) (d : Directory) : r.Ended d (r.run d) := by
  cases ht : r.draft d with
  | error cause =>
    have hrun : r.run d = (.ofFault cause.1.during cause.2, d) := by simp only [run, ht]
    rw [hrun]
    exact .stopped ht
  | ok t =>
    obtain ⟨place, old, hplace, hold, hopened⟩ :=
      Directory.content_of_openForChange (draft_eq_ok ht).1.opened
    have hne : old ≠ .archive := by
      rintro rfl
      exact Directory.changeable_archive _ _ hopened
    by_cases can : d.CanSave t.subject.file
    · by_cases hw : t.workbook.Unsavable
      · obtain ⟨d', flaw, hstop, hrewritten⟩ := Directory.save_of_unsavable hplace hold can hw
        rw [run_of_stopped ht hstop]
        exact .spoiled ht can hw hne hrewritten
      · obtain ⟨d', hdone, hrewritten⟩ := Directory.save_of_savable hplace hold can hw
        rw [run_of_done ht hdone]
        exact .saved ht can hw hrewritten
    · obtain ⟨f, hobstructs⟩ := Directory.exists_obstructs can
      rw [run_of_obstructs ht hobstructs]
      exact .refused ht hobstructs

/-- A run succeeds when it comes as far as saving, to a file that can be saved to, with a
workbook that can be saved. -/
theorem isSuccess_iff : (r.run d).1.isSuccess = true ↔
    ∃ t, r.draft d = .ok t ∧ d.CanSave t.subject.file ∧ ¬ t.workbook.Unsavable := by
  have ended := ended_run r d
  generalize r.run d = result at ended ⊢
  cases ended with
  | stopped ht =>
    simp only [Outcome.isSuccess_ofFault, ht, reduceCtorEq, false_and, exists_false]
  | refused ht hobstructs =>
    simp only [Outcome.isSuccess_ofFault, ht, Except.ok.injEq, exists_eq_left',
      hobstructs.not_canSave, reduceCtorEq, false_and]
  | spoiled ht can hw =>
    simp only [Outcome.isSuccess_ofFault, ht, Except.ok.injEq, exists_eq_left', hw,
      not_true, and_false, reduceCtorEq]
  | saved ht can hw => exact ⟨fun _ => ⟨_, ht, can, hw⟩, fun _ => rfl⟩

end AddRequest

end SheetActions
