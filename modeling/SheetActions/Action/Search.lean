import SheetActions.Action.Input
import SheetActions.Action.Selection
import SheetActions.Files.Loading
import SheetActions.Outcome
import SheetActions.Request

/-! Finding the rows of a worksheet whose cell in one column satisfies a condition. -/
namespace SheetActions.SearchRequest

/-- The fault of an ordering by a value that is no number. -/
def notNumeric (r : SearchRequest) : Fault :=
  let value := r.value
  let symbol := r.comparison.symbol
  .refusal (.input s!"The value '{value}' must be numeric for operator {symbol}." "value")

/-- The value to compare with, which an ordering needs to be a number. -/
def criterion (r : SearchRequest) : Except Fault Criterion := do
  let k ← Criterion.ofText r.value
  if r.comparison.isOrdering && k.number?.isNone then throw r.notNumeric
  return k

/-- The column to look at. -/
def requiredColumn (r : SearchRequest) : Except Fault Nat :=
  match r.column with
  | some c => .ok c
  | none =>
    .error (.refusal (.input "The column index to query is required." "column_index_to_query"))

/-- The rows that satisfy the condition. -/
def found (r : SearchRequest) (d : Directory) : Except Fault (List Nat) := do
  let file ← Input.fileName r.file
  let sheet ← Input.sheetName r.sheet
  let column ← r.requiredColumn
  let k ← r.criterion
  let v ← d.read file sheet
  v.search k r.comparison column (v.dataRows r.firstRow r.hasHeader)

/-- The outcome when rows were found. -/
def outcome (rows : List Nat) : Outcome :=
  .succeeded (",".intercalate (rows.map toString)) [("rowsCount", toString rows.length)]

/-- Finds the rows. -/
def run (r : SearchRequest) (d : Directory) : Outcome :=
  match r.found d with
  | .ok rows => outcome rows
  | .error f => .ofFault "" f

end SheetActions.SearchRequest
