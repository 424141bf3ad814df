import SheetActions.Action.Input
import SheetActions.Files.Saving
import SheetActions.Outcome
import SheetActions.Request
import SheetActions.Sheet.Entry

/-! Adding rows of data to a worksheet.

The action goes through stages. It finds the worksheet (`subject`), works out where
the data goes (`plan`), changes the sheet (`edit`) and saves the workbook. Without
overwriting, the target rows are opened first, so that what was there moves down;
with it, the values replace what is at their cells. The directory changes only when
the workbook is saved. -/
namespace SheetActions.AddRequest

/-- The stages of the action, in order. -/
inductive Stage where
  | validating
  | resolving
  | shifting
  | writing
deriving DecidableEq, Repr

/-- How a diagnostic text says that a stage was under way. -/
def Stage.during : Stage → String
  | .validating => " while validating"
  | .resolving => " while resolving"
  | .shifting => " while shifting"
  | .writing => " while writing"

/-- The worksheet that a request is about. -/
structure Subject where
  file : String
  sheetName : String
  workbook : Workbook
  sheet : Sheet

/-- What a request without data is told. -/
def noData : String :=
  "Data that should be added or modified in the document is not given."

/-- Finds the worksheet. -/
def subject (r : AddRequest) (d : Directory) : Except Fault Subject := do
  let file ← Input.fileName r.file
  if Text.isBlankText r.data then throw (.refusal (.input noData "row_data"))
  let name ← Input.sheetName r.sheet
  let workbook ← d.openForChange file
  let sheet ← workbook.sheet name
  return ⟨file, name, workbook, sheet⟩

/-! ### Where the data goes -/

/-- The data and the rows and columns that it goes to. -/
structure Plan where
  data : Payload
  rows : IndexSet
  columns : IndexSet
deriving DecidableEq

def hasHeader (r : AddRequest) : Bool :=
  !Text.isBlankText r.header

/-- Whether the header takes a row that did not hold one, so that explicit rows have to
make room for it. -/
def reservesHeader (r : AddRequest) (s : Sheet) : Bool :=
  r.hasHeader && (!r.overwrite || s.usedRows = 0)

/-- The fault of data for the row of the header. -/
def headerRowTaken : Fault :=
  .refusal (.input
    s!"Row {Placement.headerRow} is taken by the header row and cannot also hold data."
    "row_index")

/-- Works out where the data goes on a sheet. -/
def plan (r : AddRequest) (s : Sheet) : Except Fault Plan := do
  let data ← Payload.parse r.rowDelimiter r.columnDelimiter r.data
  let rows ← Placement.resolveRows r.rows s.usedRows data.rowCount r.hasHeader (r.reservesHeader s)
  if r.hasHeader ∧ Placement.headerRow ∈ rows then throw headerRowTaken
  let columns ← Placement.resolveColumns r.columns data.columnCount
  Placement.checkFits data rows columns
  return ⟨data, rows, columns⟩

/-! ### Changing the sheet -/

/-- Opens the target rows, unless they are overwritten. -/
def openTargets (r : AddRequest) (p : Plan) (s : Sheet) : Progress Sheet :=
  if r.overwrite then ⟨s, none⟩ else s.openRows p.rows

/-- The tokens of the header; a blank header has none. -/
def headerTokens (r : AddRequest) : Except Fault (List String) :=
  if r.hasHeader then Payload.tokens r.columnDelimiter r.header else .ok []

/-- Writes the data and then the header. -/
def write (r : AddRequest) (p : Plan) (s : Sheet) : Except Fault Sheet := do
  let s ← (s.writeRows p.data p.rows p.columns r.overwrite).toExcept
  let tokens ← r.headerTokens
  (s.writeHeader tokens).toExcept

/-- Changes the sheet as planned. -/
def edit (r : AddRequest) (p : Plan) (s : Sheet) : Except (Stage × Fault) Sheet := do
  let s ← (r.openTargets p s).toExcept.mapError (Stage.shifting, ·)
  (r.write p s).mapError (Stage.writing, ·)

/-- Plans the change of a sheet and makes it. -/
def change (r : AddRequest) (s : Sheet) : Except (Stage × Fault) (Plan × Sheet) := do
  let plan ← (r.plan s).mapError (Stage.resolving, ·)
  let changed ← r.edit plan s
  return (plan, changed)

/-! ### The action -/

/-- What is to be saved. -/
structure Draft where
  subject : Subject
  plan : Plan
  /-- The changed sheet. -/
  sheet : Sheet

/-- All of the action but saving. -/
def draft (r : AddRequest) (d : Directory) : Except (Stage × Fault) Draft := do
  let subject ← (r.subject d).mapError (Stage.validating, ·)
  let (plan, sheet) ← r.change subject.sheet
  return ⟨subject, plan, sheet⟩

/-- The workbook with the changed sheet. -/
def Draft.workbook (t : Draft) : Workbook :=
  t.subject.workbook.put t.subject.sheetName t.sheet

/-- The outcome when the data was added. -/
def Draft.outcome (t : Draft) : Outcome :=
  let rowCount := t.plan.data.rowCount
  let sheetName := t.subject.sheetName
  .succeeded s!"{rowCount} rows were added to worksheet {sheetName}."
    [("rowsCount", toString rowCount), ("columnsCount", toString t.plan.data.columnCount)]

/-- Adds the data. -/
def run (r : AddRequest) (d : Directory) : Outcome × Directory :=
  match r.draft d with
  | .error (stage, f) => (.ofFault stage.during f, d)
  | .ok t =>
    let saved := d.save t.subject.file t.workbook
    match saved.fault with
    | some f => (.ofFault Stage.writing.during f, saved.state)
    | none => (t.outcome, saved.state)

end SheetActions.AddRequest
