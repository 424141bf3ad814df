import SheetActions.Cell.Coercion
import SheetActions.Placement
import SheetActions.Sheet.Opening

/-! Writing values and delimited data into a sheet.

`enter` is what a sheet does with a value: nothing for no value, a blank for the empty text, and for
a longer text at most the characters that a cell can hold, none of them a control character. Rows
end at the last one of the grid. `writeRows` gives each token of the data its target cell, row by
row; unless it overwrites, it refuses a cell that holds a value. -/
namespace SheetActions.Sheet

/-- The number of characters that a cell can hold. -/
def textLimit : Nat := 32767

/-- Whether a character cannot stand in a cell: the control characters but for tab, line
feed and carriage return. -/
def isIllegal (c : Char) : Bool :=
  c.toNat ≤ 0x08 || c.toNat = 0x0B || c.toNat = 0x0C || (0x0E ≤ c.toNat && c.toNat ≤ 0x1F)

/-- The content of a cell that is given a value. -/
def content : Value → Except Fault (Option Value)
  | .other text => .error (.breakdown (.strangeValue text))
  | .text s =>
    let l := s.toList.take textLimit
    if l.any isIllegal then .error (.breakdown (.illegalText (String.ofList l)))
    else .ok (if l.isEmpty then none else some (.text (String.ofList l)))
  | v => .ok (some v)

/-- Writes a value to a cell; without a value the cell keeps its content. A cell of the grid
is touched in any case. -/
def enter (s : Sheet) (r c : Nat) (v : Option Value) : Progress Sheet :=
  if r > maxRowIndex then .stopped s (.breakdown (.rowBeyondGrid (r + 1)))
  else match v.map content with
    | none => .done (s.touch r c)
    | some (.ok content) => .done (s.put r c content)
    | some (.error f) => .stopped (s.touch r c) f

/-- Writes a value at coordinates that may be negative. -/
def enterAt (s : Sheet) (row column : Int) (v : Option Value) : Progress Sheet :=
  if row < 0 ∨ column < 0 then .stopped s (.breakdown .negativeCoordinate)
  else s.enter row.toNat column.toNat v

/-- The content of a cell at coordinates that may lie outside the grid. -/
def cellAt (s : Sheet) (row column : Int) : Except Fault (Option Value) :=
  if row ≥ max s.extent.rows 1 ∨ column ≥ max s.extent.columns 1 then .ok none
  else if row < 0 ∨ column < 0 then .error (.breakdown .negativeCoordinate)
  else .ok (s.cell row.toNat column.toNat)

/-! ### Delimited data -/

/-- A token and the cell that it goes to. -/
structure Target where
  row : Nat
  column : Nat
  token : String

/-- The tokens of the data with their cells, row by row. -/
def targets (data : Payload) (rows columns : IndexSet) : List Target :=
  (data.rows.zip rows.toList).flatMap fun (tokens, r) =>
    (tokens.zip columns.toList).map fun (token, c) => ⟨r, c, token⟩

/-- The reason for refusing to write over a value. -/
def notOpenedReason (r : Nat) : String :=
  s!"row {r} was not opened for insertion"

/-- Writes a token to its cell. -/
def writeToken (overwrite : Bool) (s : Sheet) (t : Target) : Progress Sheet :=
  if !overwrite && (s.cell t.row t.column).isSome then
    .stopped s (.refusal (.shiftFailure t.row t.row 1 (some (notOpenedReason t.row))))
  else
    match coerce t.token with
    | .ok v => s.enter t.row t.column (some v)
    | .error f => .stopped s f

/-- Writes the data to the target rows and columns, if it fits. -/
def writeRows (s : Sheet) (data : Payload) (rows columns : IndexSet) (overwrite : Bool) :
    Progress Sheet :=
  match Placement.checkFits data rows columns with
  | .error f => .stopped s f
  | .ok () => Progress.run (writeToken overwrite) s (targets data rows columns)

/-- The tokens of a header with their cells. -/
def headerTargets (tokens : List String) : List Target :=
  tokens.zipIdx.map fun (token, c) => ⟨Placement.headerRow, c, token⟩

/-- Writes header tokens to the header row, from the first column on. -/
def writeHeader (s : Sheet) (tokens : List String) : Progress Sheet :=
  Progress.run (writeToken true) s (headerTargets tokens)

end SheetActions.Sheet
