import SheetActions.Condition
import SheetActions.Workbook.Reading

/-! Choosing rows and cells of a sheet that was read.

The data of a table starts at a row, or at the row behind it if that is the header.
Selected rows become lines of rendered cells; a search keeps the rows whose cell in
one column satisfies a condition. -/
namespace SheetActions.Reading

/-- The rows of data of a table. -/
def dataRows (v : Reading) (firstRow : Nat) (hasHeader : Bool) : List Nat :=
  let start := firstRow + if hasHeader then 1 else 0
  List.range' start (v.rowCount - start)

/-- The rendered cells of a row. -/
def renderedCells (v : Reading) (columns : List Nat) (r : Nat) : List String :=
  columns.map fun c => renderCell (v.cell r c)

/-- A row as a line of text. -/
def line (v : Reading) (columns : List Nat) (delimiter : String) (r : Nat) : String :=
  delimiter.intercalate (v.renderedCells columns r)

/-- The rows whose cell in a column satisfies a condition. The first cell that cannot be
compared ends the search. -/
def search (v : Reading) (k : Criterion) (c : Comparison) (column : Nat) (rows : List Nat) :
    Except Fault (List Nat) :=
  let verdict (r : Nat) : Except Fault Bool := k.admits c (v.cell r column)
  let fault? (r : Nat) : Option Fault :=
    match verdict r with
    | .error f => some f
    | .ok _ => none
  match rows.findSome? fault? with
  | some f => .error f
  | none => .ok (rows.filter fun r => (verdict r).toOption = some true)

end SheetActions.Reading
