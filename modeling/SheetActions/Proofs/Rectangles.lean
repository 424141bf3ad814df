import SheetActions.Proofs.Decoding
import SheetActions.Proofs.UsedArea

/-! Reading rectangles.

A request to read gives a line for each row that it selects, with a cell for each column
(`run_of_selected`). Rows and columns that are named are those of the specification, less the rows
that are not there (`selectedRows_eq_ok_iff`). Otherwise they are all rows of data and all columns,
which are spans as well and may be named so (`run_span`). -/
namespace SheetActions

/-! ### Rows as they were read -/

namespace Reading
variable {v : Reading}

/-- The number of cells of the widest row. -/
def widest (v : Reading) : Nat :=
  v.rows.foldl (fun w row => max w row.length) 0

theorem length_rows (v : Reading) : v.rows.length = v.rowCount := by
  simp [rows]

theorem widest_eq (h : v.rowCount = 0 → v.width = 0) : v.widest = v.width := by
  have hle : ∀ n, v.widest ≤ n ↔ ∀ row ∈ v.rows, row.length ≤ n := fun n =>
    (Grid.foldl_max_le_iff List.length v.rows 0 n).trans (and_iff_right (Nat.zero_le n))
  have hrow : ∀ row ∈ v.rows, row.length = v.width := by simp [rows]
  refine Nat.le_antisymm ((hle _).mpr fun row hmem => Nat.le_of_eq (hrow row hmem)) ?_
  by_cases hnone : v.rowCount = 0
  · rw [h hnone]
    exact Nat.zero_le _
  · obtain ⟨row, hmem⟩ := List.exists_mem_of_length_pos
      (by rw [length_rows]; exact Nat.pos_of_ne_zero hnone)
    rw [← hrow row hmem]
    exact (hle _).mp (Nat.le_refl _) row hmem

/-- What is not among the cells that were read is rendered as nothing. -/
theorem renderCell_at? {r c : Nat} (h : v.rows[r]?.bind (·[c]?) = none) :
    renderCell (v.at? r c) = "" := by
  rw [at?, h]
  rfl

end Reading

theorem Sheet.widest_reading (s : Sheet) : s.reading.widest = s.reading.width :=
  Reading.widest_eq fun h => if_pos h

namespace ReadRequest
variable {q : ReadRequest} {d : Directory} {v : Reading} {rows columns : List Nat}

theorem exists_sheet_of_reading (h : q.reading d = .ok v) : ∃ s : Sheet, v = s.reading := by
  obtain ⟨_, _, h⟩ := bind_eq_ok.mp h
  obtain ⟨_, _, h⟩ := bind_eq_ok.mp h
  obtain ⟨_, s, _, _, _, hv⟩ := Directory.exists_sheet_of_read h
  exact ⟨s, hv⟩

theorem line_eq (h : q.reading d = .ok v) (columns : List Nat) (delimiter : String) (i : Nat) :
    v.line columns delimiter i =
      delimiter.intercalate (columns.map fun c => renderCell (v.at? i c)) := by
  obtain ⟨s, rfl⟩ := exists_sheet_of_reading h
  have hat : ∀ c, s.reading.at? i c = s.reading.cell i c :=
    Reading.at?_eq (fun _ _ => Sheet.lt_width) i
  simp only [Reading.line, Reading.renderedCells, hat]

/-- The outcome with a line for each of the rows and a cell in it for each of the columns. -/
def rectangle (q : ReadRequest) (v : Reading) (rows columns : List Nat) : Outcome :=
  .succeeded
    (q.rowDelimiter.intercalate (rows.map fun i =>
      q.columnDelimiter.intercalate (columns.map fun c => renderCell (v.at? i c))))
    [("header", q.headerLine v columns), ("rowsCount", toString rows.length),
      ("columnsCount", toString columns.length)]

/-- A request gives the cells that it selects. -/
theorem run_of_selected (h : q.reading d = .ok v) (hrows : q.selectedRows v = .ok rows)
    (hcolumns : q.selectedColumns v = .ok columns) : q.run d = q.rectangle v rows columns := by
  have hline : v.line columns q.columnDelimiter = fun i =>
      q.columnDelimiter.intercalate (columns.map fun c => renderCell (v.at? i c)) := by
    funext i
    exact line_eq h columns q.columnDelimiter i
  rw [run_of_answer h (answer_eq hrows hcolumns), rectangle, hline]

/-! ### What is selected -/

/-- Rows that are named are selected up to the last row, whatever the header is. -/
theorem selectedRows_eq_ok_iff (named : Text.isBlankText q.rows = false) :
    q.selectedRows v = .ok rows ↔ ∃ explicit, IndexSpec.parse q.rows maxRowIndex = .ok explicit ∧
      rows = explicit.toList.filter (· < v.rowCount) := by
  rw [selectedRows, bind_eq_ok]
  refine exists_congr fun explicit => and_congr_right fun hspec => ?_
  rw [IndexSpec.isEmpty_of_parse named hspec]
  show Except.ok _ = .ok _ ↔ _
  rw [Except.ok.injEq, eq_comm]

/-- Columns that are named are all selected. -/
theorem selectedColumns_eq_ok_iff (named : Text.isBlankText q.columns = false) :
    q.selectedColumns v = .ok columns ↔
      ∃ explicit, IndexSpec.parse q.columns maxColumnIndex = .ok explicit ∧
        columns = explicit.toList := by
  rw [selectedColumns, bind_eq_ok]
  refine exists_congr fun explicit => and_congr_right fun hspec => ?_
  rw [IndexSpec.isEmpty_of_parse named hspec]
  show Except.ok _ = .ok _ ↔ _
  rw [Except.ok.injEq, eq_comm]

/-- Where rows are named, neither the header nor the first row makes a difference to the lines. -/
theorem returnResult_of_named (h : q.reading d = .ok v)
    (named : Text.isBlankText q.rows = false) (hrows : q.selectedRows v = .ok rows)
    (hcolumns : q.selectedColumns v = .ok columns) (hasHeader : Bool) (firstRow : Nat) :
    ({ q with hasHeader, firstRow }.run d).returnResult = (q.run d).returnResult := by
  have hrows' : { q with hasHeader, firstRow }.selectedRows v = .ok rows :=
    (selectedRows_eq_ok_iff (q := { q with hasHeader, firstRow }) named).mpr
      ((selectedRows_eq_ok_iff named).mp hrows)
  have hread : { q with hasHeader, firstRow }.reading d = .ok v := h
  have hcolumns' : { q with hasHeader, firstRow }.selectedColumns v = .ok columns := hcolumns
  rw [run_of_selected hread hrows' hcolumns', run_of_selected h hrows hcolumns]
  rfl

theorem selectedColumns_of_blank (blank : Text.isBlankText q.columns = true) :
    q.selectedColumns v = .ok (List.range v.width) :=
  bind_eq_ok.mpr ⟨∅, IndexSpec.parse_of_blank blank, rfl⟩

/-- The rows are selected in ascending order, and all are rows of the worksheet. -/
theorem pairwise_selectedRows (h : q.selectedRows v = .ok rows) :
    rows.Pairwise (· < ·) ∧ ∀ i ∈ rows, i < v.rowCount := by
  cases hblank : Text.isBlankText q.rows with
  | true =>
    cases (selectedRows_of_blank hblank).symm.trans h
    exact ⟨List.pairwise_lt_range', fun i hi => (Reading.mem_dataRows.mp hi).2⟩
  | false =>
    obtain ⟨explicit, _, rfl⟩ := (selectedRows_eq_ok_iff hblank).mp h
    exact ⟨explicit.ascending.filter _, fun i hi => of_decide_eq_true (List.mem_filter.mp hi).2⟩

/-! ### Naming what is selected anyway -/

/-- The rows from one on to the last may be named by a span. -/
theorem selectedRows_span {first : Nat} (h : q.rows = IndexSpec.span first (v.rowCount - 1))
    (hfirst : first < v.rowCount) (grid : v.rowCount ≤ maxRowIndex + 1) :
    q.selectedRows v = .ok (List.range' first (v.rowCount - first)) := by
  have hspec := h ▸ IndexSpec.parse_span_rest hfirst grid (Nat.le_refl _)
  have named : Text.isBlankText q.rows = false := h ▸ IndexSpec.isBlankText_span ..
  refine selectedRows_of_parse hspec (IndexSpec.isEmpty_of_parse named hspec) fun i hi => ?_
  have hstop := (IndexSet.mem_interval.mp hi).2
  omega

/-- All columns may be named by a span. -/
theorem selectedColumns_span (h : q.columns = IndexSpec.span 0 (v.width - 1))
    (hwidth : 1 ≤ v.width) (grid : v.width ≤ maxColumnIndex + 1) :
    q.selectedColumns v = .ok (List.range v.width) := by
  have hspec := h ▸ IndexSpec.parse_span_rest hwidth grid (by decide)
  have named : Text.isBlankText q.columns = false := h ▸ IndexSpec.isBlankText_span ..
  exact (selectedColumns_eq_ok_iff named).mpr ⟨_, hspec, List.range_eq_range'⟩

/-- A request for all rows of data and all columns may as well name them. -/
theorem run_span (h : q.reading d = .ok v) (blankRows : Text.isBlankText q.rows = true)
    (blankColumns : Text.isBlankText q.columns = true)
    (rowsInGrid : v.rowCount ≤ maxRowIndex + 1) (columnsInGrid : v.width ≤ maxColumnIndex + 1)
    {first : Nat} (hstart : first = q.firstRow + if q.hasHeader then 1 else 0)
    (hfirst : first < v.rowCount) (hwidth : 1 ≤ v.width) :
    { q with
      rows := IndexSpec.span first (v.rowCount - 1)
      columns := IndexSpec.span 0 (v.width - 1) }.run d = q.run d := by
  have hblank := run_of_selected h (selectedRows_of_blank blankRows)
    (selectedColumns_of_blank blankColumns)
  rw [hblank, Reading.dataRows, ← hstart]
  exact run_of_selected h (selectedRows_span rfl hfirst rowsInGrid)
    (selectedColumns_span rfl hwidth columnsInGrid)

/-- **Rectangles.** A request that succeeds gives a line for each of the selected rows, in ascending
order, with a cell for each of the selected columns, which is blank if there is no such cell. If
rows are named, those that are rows of the worksheet are selected, and neither the header nor the
first row makes a difference to the lines. If the worksheet is in the grid and has rows of data,
then naming them, and all columns, has the outcome of naming nothing. -/
theorem run_rectangle (q : ReadRequest) (d : Directory) (v : Reading) (h : q.reading d = .ok v) :
    ((q.run d).isSuccess = true → ∃ rows columns : List Nat,
      rows.Pairwise (· < ·) ∧ (∀ i ∈ rows, i < v.rows.length) ∧
      q.run d = .succeeded
        (q.rowDelimiter.intercalate (rows.map fun i =>
          q.columnDelimiter.intercalate (columns.map fun c => renderCell (v.at? i c))))
        [("header", q.headerLine v columns), ("rowsCount", toString rows.length),
          ("columnsCount", toString columns.length)] ∧
      (∀ i c, v.rows[i]?.bind (·[c]?) = none → renderCell (v.at? i c) = "") ∧
      (Text.isBlankText q.rows = true →
        ∀ i, i ∈ rows ↔ q.firstRow + (if q.hasHeader then 1 else 0) ≤ i ∧ i < v.rows.length) ∧
      (Text.isBlankText q.rows = false → ∃ named,
        IndexSpec.parse q.rows maxRowIndex = .ok named ∧
        (∀ i, i ∈ rows ↔ i ∈ named ∧ i < v.rows.length) ∧
        ∀ (hasHeader : Bool) (firstRow : Nat),
          ({ q with hasHeader, firstRow }.run d).returnResult = (q.run d).returnResult) ∧
      (Text.isBlankText q.columns = true → columns = List.range v.widest) ∧
      (Text.isBlankText q.columns = false → ∃ named,
        IndexSpec.parse q.columns maxColumnIndex = .ok named ∧ columns = named.toList)) ∧
    (v.rows.length ≤ maxRowIndex + 1 → v.widest ≤ maxColumnIndex + 1 →
      ∀ first, first = q.firstRow + (if q.hasHeader then 1 else 0) →
        first < v.rows.length → 1 ≤ v.widest → ∀ rows columns : String,
        Text.isBlankText rows = true → Text.isBlankText columns = true →
        { q with rows, columns }.run d =
          { q with
            rows := IndexSpec.span first (v.rows.length - 1)
            columns := IndexSpec.span 0 (v.widest - 1) }.run d) := by
  obtain ⟨s, rfl⟩ := exists_sheet_of_reading h
  rw [Reading.length_rows, Sheet.widest_reading]
  constructor
  · intro success
    obtain ⟨_, rows, columns, hv, hrows, hcolumns⟩ := isSuccess_iff.mp success
    cases h.symm.trans hv
    have hrun := run_of_selected h hrows hcolumns
    obtain ⟨ascending, hin⟩ := pairwise_selectedRows hrows
    refine ⟨rows, columns, ascending, hin, hrun, fun _ _ => Reading.renderCell_at?,
      fun blank i => ?_, fun named => ?_, fun blank => ?_, fun named => ?_⟩
    · cases (selectedRows_of_blank blank).symm.trans hrows
      exact Reading.mem_dataRows
    · obtain ⟨explicit, hspec, hkept⟩ := (selectedRows_eq_ok_iff named).mp hrows
      refine ⟨explicit, hspec, fun i => ?_, returnResult_of_named h named hrows hcolumns⟩
      rw [hkept, List.mem_filter, decide_eq_true_eq]
      rfl
    · exact (Except.ok.inj ((selectedColumns_of_blank blank).symm.trans hcolumns)).symm
    · exact (selectedColumns_eq_ok_iff named).mp hcolumns
  · intro rowsInGrid columnsInGrid first hstart hfirst hwidth rows columns blankRows blankColumns
    have hread : { q with rows, columns }.reading d = .ok s.reading := h
    exact (run_span hread blankRows blankColumns rowsInGrid columnsInGrid hstart hfirst hwidth).symm

/-- The rows of `spacedRows` behind the first one are named, with a row that is not there. The lines
are the same without a header. All rows behind a header, and all columns, are named by spans. -/
theorem run_rectangle_spacedRows :
    let q : ReadRequest := ⟨"b.xlsx", "S", true, 0, "9,1:2", "", "|", ";"⟩
    ∃ v, q.reading spacedRows = .ok v ∧ v.rows.length = 3 ∧ v.widest = 2 ∧
      (q.run spacedRows).isSuccess = true ∧ Text.isBlankText q.rows = false ∧
      ({ q with hasHeader := false, firstRow := 7 }.run spacedRows).returnResult =
        (q.run spacedRows).returnResult ∧
      { q with rows := "", columns := "" }.run spacedRows =
        { q with rows := IndexSpec.span 1 2, columns := IndexSpec.span 0 1 }.run spacedRows := by
  intro q
  have success : (q.run spacedRows).isSuccess = true := by decide +kernel
  have named : Text.isBlankText q.rows = false := by decide
  have harea : (q.reading spacedRows).toOption.map (fun v => (v.rows.length, v.widest)) =
      some (3, 2) := by decide +kernel
  obtain ⟨v, hv, harea⟩ := Option.map_eq_some_iff.mp harea
  obtain ⟨hlength, hwidest⟩ := Prod.mk.inj harea
  have hread := toOption_eq_some.mp hv
  obtain ⟨hselected, hspan⟩ := run_rectangle q spacedRows v hread
  obtain ⟨rows, columns, _, _, _, _, _, hnamed, _⟩ := hselected success
  obtain ⟨_, _, _, hsame⟩ := hnamed named
  rw [hlength, hwidest] at hspan
  exact ⟨v, hread, hlength, hwidest, success, named, hsame false 7,
    hspan (by decide) (by decide) 1 rfl (by decide) (by decide) "" "" (by decide) (by decide)⟩

end ReadRequest

end SheetActions
