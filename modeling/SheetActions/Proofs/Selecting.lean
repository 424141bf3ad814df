import SheetActions.Proofs.Searching

/-! The rows that a search found, read.

The result of a search spells its rows out, and that is a specification of rows. Where there is
one, the rows are read as they were found (`Follows.gives`): none is left out, since all are rows
of the worksheet. A result without rows is blank, and a blank specification asks for all rows of
data (`Follows.gives_all`). -/
namespace SheetActions

namespace ReadRequest
variable {q : ReadRequest} {d : Directory} {v : Reading} {rows columns : IndexSet}

/-- The request succeeds with a line for each of some rows. -/
def Gives (q : ReadRequest) (d : Directory) (v : Reading) (rows : List Nat) : Prop :=
  ∃ columns, q.selectedColumns v = .ok columns ∧
    q.run d = .succeeded
      (q.rowDelimiter.intercalate (rows.map (v.line columns q.columnDelimiter)))
      [("header", q.headerLine v columns), ("rowsCount", toString rows.length),
        ("columnsCount", toString columns.length)]

/-- The selected rows are given if the specification of columns is accepted. -/
theorem gives_of_selectedRows {rows : List Nat} (hread : q.reading d = .ok v)
    (hrows : q.selectedRows v = .ok rows)
    (hcolumns : IndexSpec.parse q.columns maxColumnIndex = .ok columns) : q.Gives d v rows := by
  obtain ⟨chosen, hchosen⟩ : ∃ chosen, q.selectedColumns v = .ok chosen := by
    simp only [selectedColumns, hcolumns, bind, Except.bind]
    split
    · exact ⟨_, rfl⟩
    · exact ⟨_, rfl⟩
  exact ⟨chosen, hchosen, run_of_answer hread (answer_eq hrows hchosen)⟩

/-- Where no rows are named, all rows of data are selected. -/
theorem selectedRows_of_blank (h : Text.isBlankText q.rows = true) :
    q.selectedRows v = .ok (v.dataRows q.firstRow q.hasHeader) :=
  bind_eq_ok.mpr ⟨∅, IndexSpec.parse_of_blank h, rfl⟩

theorem reading_eq (hfile : Text.isBlankText q.file = false)
    (hsheet : Text.isBlankText q.sheet = false) :
    q.reading d = d.read (Text.trim q.file) (Text.trim q.sheet) := by
  have hfile' : Input.fileName q.file = .ok (Text.trim q.file) :=
    Input.required_eq_ok_iff.mpr ⟨hfile, rfl⟩
  have hsheet' : Input.sheetName q.sheet = .ok (Text.trim q.sheet) :=
    Input.required_eq_ok_iff.mpr ⟨hsheet, rfl⟩
  simp only [reading, hfile', hsheet', bind, Except.bind]

end ReadRequest

namespace SearchRequest
variable {r : SearchRequest} {d : Directory} {column : Nat} {k : Criterion} {v : Reading}
  {q : ReadRequest} {rows : List Nat}

/-- A request to read, on the worksheet of a search, the rows that are its result. -/
structure Follows (q : ReadRequest) (r : SearchRequest) (d : Directory) : Prop where
  file : q.file = r.file
  sheet : q.sheet = r.sheet
  rows : q.rows = (r.run d).returnResult
  columns : ∃ columns, IndexSpec.parse q.columns maxColumnIndex = .ok columns

theorem Follows.reading (follows : Follows q r d) (ready : r.Ready d column k v) :
    q.reading d = .ok v := by
  rw [ReadRequest.reading_eq (follows.file ▸ ready.file) (follows.sheet ▸ ready.sheet),
    follows.file, follows.sheet]
  exact ready.read

theorem Follows.rows_eq (follows : Follows q r d) (hrun : r.run d = outcome rows) :
    q.rows = IndexSpec.spelled rows := by
  rw [follows.rows, hrun]
  rfl

/-- Rows of the worksheet that were found are read. -/
theorem Follows.gives (follows : Follows q r d) (ready : r.Ready d column k v)
    (hrun : r.run d = outcome rows) {named : IndexSet}
    (hnamed : IndexSpec.parse (IndexSpec.spelled rows) maxRowIndex = .ok named)
    (hrows : named.toList = rows) (hne : rows ≠ []) (hin : ∀ i ∈ rows, i < v.rowCount) :
    q.Gives d v rows := by
  obtain ⟨columns, hcolumns⟩ := follows.columns
  refine ReadRequest.gives_of_selectedRows (follows.reading ready) ?_ hcolumns
  rw [← follows.rows_eq hrun] at hnamed
  have hfilled : named.isEmpty = false := by
    rw [IndexSet.isEmpty, hrows]
    simpa using hne
  rw [ReadRequest.selectedRows_of_parse hnamed hfilled (fun i hi => hin i (hrows ▸ hi)), hrows]

/-- If no rows were found, all rows of data are read. -/
theorem Follows.gives_all (follows : Follows q r d) (ready : r.Ready d column k v)
    (hrun : r.run d = outcome []) : q.Gives d v (v.dataRows q.firstRow q.hasHeader) := by
  obtain ⟨columns, hcolumns⟩ := follows.columns
  refine ReadRequest.gives_of_selectedRows (follows.reading ready) ?_ hcolumns
  refine ReadRequest.selectedRows_of_blank ?_
  rw [follows.rows_eq hrun]
  decide

/-- **Selecting.** A search succeeds on a worksheet whose rows lie in the grid. Its result gives
the rows that satisfy the condition, in ascending order. If there are some, the result is a
specification of just these rows, and a request to read them gives a line for each of them. If
there is none, the same request gives a line for each row of data. -/
theorem rows_selected (r : SearchRequest) (d : Directory) (v : Reading)
    (hread : d.read (Text.trim r.file) (Text.trim r.sheet) = .ok v)
    (inGrid : v.rowCount ≤ maxRowIndex + 1) (success : (r.run d).isSuccess = true) :
    ∃ column k rows, r.column = some column ∧ Criterion.ofText r.value = .ok k ∧
      r.run d = outcome rows ∧ rows.Pairwise (· < ·) ∧
      (∀ i, i ∈ rows ↔ (r.firstRow + (if r.hasHeader then 1 else 0) ≤ i ∧ i < v.rowCount) ∧
        k.admits r.comparison (v.cell i column) = .ok true) ∧
      (rows ≠ [] →
        (∃ named, IndexSpec.parse (r.run d).returnResult maxRowIndex = .ok named ∧
          named.toList = rows) ∧
        ∀ q, Follows q r d → q.Gives d v rows) ∧
      (rows = [] → ∀ q, Follows q r d → q.hasHeader = r.hasHeader → q.firstRow = r.firstRow →
        q.Gives d v (v.dataRows r.firstRow r.hasHeader)) := by
  obtain ⟨found, hfound⟩ := isSuccess_iff_found.mp success
  obtain ⟨column, k, v', ready, hsearch⟩ := found_eq_ok_iff.mp hfound
  cases hread.symm.trans ready.read
  obtain ⟨_, rfl⟩ := (ready.search_eq_ok_iff _).mp hsearch
  have hrun : r.run d = outcome (v.admitted k r.comparison column
      (v.dataRows r.firstRow r.hasHeader)) := by
    rw [run, hfound]
  have hmem : ∀ i, i ∈ v.admitted k r.comparison column (v.dataRows r.firstRow r.hasHeader) ↔
      i ∈ v.dataRows r.firstRow r.hasHeader ∧
        k.admits r.comparison (v.cell i column) = .ok true := fun _ => Reading.mem_admitted
  have ascending : (v.admitted k r.comparison column
      (v.dataRows r.firstRow r.hasHeader)).Pairwise (· < ·) :=
    List.Pairwise.filter _ List.pairwise_lt_range'
  generalize v.admitted k r.comparison column (v.dataRows r.firstRow r.hasHeader) = rows at *
  have hin : ∀ i ∈ rows, i < v.rowCount := fun i hi =>
    (Reading.mem_dataRows.mp ((hmem i).mp hi).1).2
  refine ⟨column, k, rows, ready.column, ready.value, hrun, ascending, fun i => ?_,
    fun hne => ?_, ?_⟩
  · rw [hmem, Reading.mem_dataRows]
  · have hgrid : ∀ i ∈ rows, i ≤ maxRowIndex := fun i hi => by
      have := hin i hi
      omega
    have hnamed := (IndexSpec.parse_spelled_iff (t := ⟨rows, ascending⟩) hne ascending).mpr
      ⟨hgrid, rfl⟩
    refine ⟨⟨_, by rw [hrun]; exact hnamed, rfl⟩, fun q follows => ?_⟩
    exact follows.gives ready hrun hnamed rfl hne hin
  · rintro rfl q follows hheader hfirst
    rw [← hheader, ← hfirst]
    exact follows.gives_all ready hrun

/-- The row of one cell is found by its text and read, and it is read when nothing is found. -/
theorem rows_selected_digit :
    let d := oneText ['1']
    let v := (textCell ['1']).reading
    ((forText "1").run d).returnResult = "0" ∧ ((forText "x").run d).returnResult = "" ∧
      (∃ rows, rows ≠ [] ∧ (forText "1").run d = outcome rows ∧
        ∀ q, Follows q (forText "1") d → q.Gives d v rows) ∧
      ∀ q, Follows q (forText "x") d → q.hasHeader = false → q.firstRow = 0 →
        q.Gives d v (v.dataRows 0 false) := by
  intro d v
  have hread : d.read "b.xlsx" "S" = .ok v :=
    Directory.read_of_sheet? (openForReading_oneText _) (sheet?_oneText _)
      (flaw?_textCell (by decide) (List.forall_mem_singleton.mpr rfl))
  have hgrid : v.rowCount ≤ maxRowIndex + 1 := by decide
  have hfound : ((forText "1").run d).returnResult = "0" := by decide +kernel
  have hnone : (forText "x").run d = outcome [] := by decide +kernel
  have hsuccess : ((forText "1").run d).isSuccess = true := by decide +kernel
  have hsuccess' : ((forText "x").run d).isSuccess = true := by rw [hnone]; rfl
  obtain ⟨_, _, rows, _, _, hrun, _, _, hsome, _⟩ :=
    rows_selected (forText "1") d v hread hgrid hsuccess
  obtain ⟨_, _, rows', _, _, hrun', _, _, hsome', hblank⟩ :=
    rows_selected (forText "x") d v hread hgrid hsuccess'
  have hne : rows ≠ [] := by
    rintro rfl
    rw [hrun] at hfound
    exact absurd hfound (by decide)
  have hnil : rows' = [] := by
    by_contra hne
    obtain ⟨⟨named, hnamed, hrows⟩, _⟩ := hsome' hne
    rw [hnone] at hnamed
    cases hnamed
    exact hne hrows.symm
  exact ⟨hfound, by rw [hnone]; rfl, ⟨rows, hne, hrun, (hsome hne).2⟩, hblank hnil⟩

end SearchRequest

end SheetActions
