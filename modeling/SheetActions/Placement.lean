import SheetActions.Index.Spec
import SheetActions.Payload

/-! Where data goes.

An explicit specification always decides. A blank one, or none, appends: the rows follow
the used rows of the sheet, behind the header row if there is one, and the columns
start at the first. Both then span exactly the shape of the data. -/
namespace SheetActions.Placement

/-- The row of the header. -/
def headerRow : Nat := 0

/-- Refuses rows that end past the sheet; `stop` is the first index behind them. -/
def checkStop (spec : Option String) (stop : Nat) : Except Fault Unit :=
  if stop > maxRowIndex + 1 then
    .error (.refusal
      (.invalidIndex (spec.getD "") (IndexSpec.Flaw.rowPastSheet (stop - 1)).reason none))
  else .ok ()

/-- The rows for `rowCount` rows of data on a sheet with `usedRows` used rows. Where the
header takes a row that did not hold one (`reserve`), explicit rows move down by one. -/
def resolveRows (spec : Option String) (usedRows rowCount : Nat) (hasHeader reserve : Bool) :
    Except Fault IndexSet := do
  let explicit ← IndexSpec.parseOptional spec maxRowIndex
  match explicit.max? with
  | some greatest =>
    if hasHeader && reserve then
      checkStop spec (greatest + 2)
      return explicit.shift 1
    else return explicit
  | none =>
    let start := if hasHeader then max usedRows (headerRow + 1) else usedRows
    if rowCount > 0 then checkStop spec (start + rowCount)
    return IndexSet.interval start rowCount

/-- The columns for rows of at most `columnCount` tokens. -/
def resolveColumns (spec : Option String) (columnCount : Nat) : Except Fault IndexSet := do
  let explicit ← IndexSpec.parseOptional spec maxColumnIndex
  if !explicit.isEmpty then return explicit
  else if columnCount > maxColumnIndex + 1 then
    throw (.refusal
      (.invalidIndex (spec.getD "") (IndexSpec.Flaw.tooManyColumns columnCount).reason none))
  else return IndexSet.interval 0 columnCount

/-- Refuses data with more rows, or more tokens in a row, than there are indices. -/
def checkFits (data : Payload) (rows columns : IndexSet) : Except Fault Unit :=
  if data.rowCount > rows.size then
    .error (.refusal (.doesNotFit "row" data.rowCount rows.size))
  else if data.columnCount > columns.size then
    .error (.refusal (.doesNotFit "column" data.columnCount columns.size))
  else .ok ()

end SheetActions.Placement
