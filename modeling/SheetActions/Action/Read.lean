import SheetActions.Action.Input
import SheetActions.Action.Selection
import SheetActions.Files.Loading
import SheetActions.Index.Spec
import SheetActions.Outcome
import SheetActions.Request

/-! Reading cells of a worksheet as delimited text.

An explicit selection names rows and columns; rows behind the last one are left out.
A blank one selects all rows of data, or all columns. -/
namespace SheetActions.ReadRequest

/-- The selected rows. -/
def selectedRows (r : ReadRequest) (v : Reading) : Except Fault (List Nat) := do
  let explicit ← IndexSpec.parse r.rows maxRowIndex
  if explicit.isEmpty then return v.dataRows r.firstRow r.hasHeader
  else return explicit.toList.filter (· < v.rowCount)

/-- The selected columns. -/
def selectedColumns (r : ReadRequest) (v : Reading) : Except Fault (List Nat) := do
  let explicit ← IndexSpec.parse r.columns maxColumnIndex
  if explicit.isEmpty then return List.range v.width
  else return explicit.toList

/-- The line of the header, if there is one. -/
def headerLine (r : ReadRequest) (v : Reading) (columns : List Nat) : String :=
  if r.hasHeader ∧ r.firstRow < v.rowCount then v.line columns r.columnDelimiter r.firstRow else ""

/-- Opens the worksheet. -/
def reading (r : ReadRequest) (d : Directory) : Except Fault Reading := do
  let file ← Input.fileName r.file
  let sheet ← Input.sheetName r.sheet
  d.read file sheet

/-- The outcome for a sheet that was read. -/
def answer (r : ReadRequest) (v : Reading) : Except Fault Outcome := do
  let rows ← r.selectedRows v
  let columns ← r.selectedColumns v
  return .succeeded (r.rowDelimiter.intercalate (rows.map (v.line columns r.columnDelimiter)))
    [("header", r.headerLine v columns), ("rowsCount", toString rows.length),
      ("columnsCount", toString columns.length)]

/-- Reads the selected cells. -/
def run (r : ReadRequest) (d : Directory) : Outcome :=
  match (do r.answer (← r.reading d)) with
  | .ok o => o
  | .error f => .ofFault "" f

end SheetActions.ReadRequest
