import SheetActions.Sheet.Basic
import SheetActions.Text.Blank
import SheetActions.Text.Coded
import SheetActions.Workbook.Stored

/-! What the reading actions see of a worksheet of a file.

A reader sees no formulas and no error values: both are blanks for it. It takes a text
of nothing but blanks for one without the spaces and line ends around it, and puts back
characters that are written by their codes. The rows that it sees go down to the last
one that is not blank, and each has the width of the sheet, which counts the columns up
to the last cell; a formula is not a cell here, but an error value is. -/
namespace SheetActions

/-- The texts that stand for error values. -/
def errorTexts : List String :=
  ["#NULL!", "#DIV/0!", "#VALUE!", "#REF!", "#NAME?", "#NUM!", "#N/A"]

/-- Whether a text is a formula. -/
def isFormula (s : String) : Bool :=
  match s.toList with
  | '=' :: _ :: _ => true
  | _ => false

/-- Whether a character is a space or ends a line. -/
def isSpacing (c : Char) : Bool :=
  c = ' ' || c = '\t' || c = '\r' || c = '\n'

/-- What a reader sees of a text that is neither a formula nor an error value. -/
def seenText (s : String) : String :=
  let l := if Text.isBlankText s then Text.trimBy isSpacing s.toList else s.toList
  String.ofList (Text.decodeCoded l)

namespace Value

/-- What is taken for a cell in the width of a sheet. -/
def counted : Value → Option Value
  | .text s => if isFormula s then none else some (.text s)
  | v => some v

/-- What a reader sees of a value in a cell of a style. -/
def seen (style : Option TimeStyle) (v : Value) : Option Value :=
  match style, v.toBinary64?, v with
  | some style, some x, _ => (style.seen x).normalized
  | _, _, .text s =>
    if isFormula s || errorTexts.contains s then none else (Value.text (seenText s)).normalized
  | _, _, v => v.normalized

end Value

/-- A worksheet as a reader sees it. -/
structure Reading where
  values : Grid Value
  /-- The number of cells of each row. -/
  width : Nat

namespace Reading

def rowCount (v : Reading) : Nat := v.values.usedRows

/-- A cell; beyond the rows and the width all cells are blank. -/
def cell (v : Reading) (r c : Nat) : Option Value := v.values.get? r c

/-- The rows, each with its cells up to the width. -/
def rows (v : Reading) : List (List (Option Value)) :=
  (List.range v.rowCount).map fun r => (List.range v.width).map (v.cell r)

end Reading

namespace Sheet

/-- What a reader sees of a sheet. -/
def reading (s : Sheet) : Reading :=
  let values := s.values.filterMapAt fun r c v => v.seen (s.style r c)
  { values
    width :=
      if values.usedRows = 0 then 0
      else (s.values.filterMapAt fun _ _ v => v.counted).usedColumns }

theorem cell_reading (s : Sheet) (r c : Nat) :
    s.reading.cell r c = (s.cell r c).bind (Value.seen (s.style r c)) :=
  s.values.get?_filterMapAt (fun r c v => v.seen (s.style r c)) r c

end Sheet

/-! ### Sheets that cannot be read -/

/-- Why readers cannot take a value over. -/
inductive SeenFlaw where
  | yearOutOfRange (year : Nat)
  | spanOutOfRange (days : Int)
deriving DecidableEq, Repr

def SeenFlaw.message : SeenFlaw → String
  | .yearOutOfRange year => s!"year {year} is out of range"
  | .spanOutOfRange days =>
    s!"days={days}; must have magnitude <= {Serial.spanLimit}"

namespace Value

/-- What is wrong with a value that a reader sees. -/
def seenFlaw? : Value → Option SeenFlaw
  | .date d | .dateTime d _ => if d.year > lastYear then some (.yearOutOfRange d.year) else none
  | .span microseconds =>
    let days := Int.fdiv microseconds dayLength
    if days < -Serial.spanLimit ∨ Serial.spanLimit < days then some (.spanOutOfRange days) else none
  | _ => none

end Value

/-- The first flaw of the values that a reader sees. -/
def Reading.flaw? (v : Reading) : Option SeenFlaw :=
  v.values.toList.findSome? fun e => e.2.2.seenFlaw?

end SheetActions
