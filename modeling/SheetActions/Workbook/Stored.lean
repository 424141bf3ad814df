import SheetActions.Cell.Coercion
import SheetActions.Sheet.Shift
import SheetActions.Text.Markup
import SheetActions.Workbook.Basic

/-! What a workbook file keeps of a workbook.

A file holds a number as a text of sixteen significant digits, so a number comes
back as that text says: as an integer when the text has neither point nor exponent. A
number that is not finite comes back as a blank. A date or a time is held as a number in
a cell of a style that says so; `loaded` makes it a date or a time again, to the
millisecond, and what is out of range an error value. A line ends with a line feed. All
else is kept, but for the cells that were touched and stayed blank. A text with a
character that markup cannot hold is kept for the readers, and spoils the file for the
program that changes files. Two things cannot be saved: an integer that is too large for
a floating-point number, and a cell in a column that has no name. -/
namespace SheetActions

namespace Text

/-- The text with a line feed for every other end of a line. -/
def unifyLines : List Char → List Char
  | '\r' :: '\n' :: r => '\n' :: unifyLines r
  | '\r' :: r => '\n' :: unifyLines r
  | c :: r => c :: unifyLines r
  | [] => []

end Text

namespace Value

/-- What a file keeps of a number. -/
def storedNumber (x : Binary64) : Option Value :=
  (Numeral.read? x.storedText.toList).map fun n => n.value.toValue

/-- What a file keeps of a value. -/
def stored (v : Value) : Option Value :=
  match v, Serial.ofValue? v with
  | _, some x => storedNumber x
  | .integer n, none => storedNumber (Binary64.ofInt n)
  | .float x, none => storedNumber x
  | .text s, none =>
    if s.isEmpty then none else some (.text (String.ofList (Text.unifyLines s.toList)))
  | v, none => some v

/-- A file keeps a text, unless it is empty. -/
theorem stored_text_eq_some_iff {s : String} {w : Value} : (text s).stored = some w ↔
    s ≠ "" ∧ w = text (String.ofList (Text.unifyLines s.toList)) := by
  simp only [stored, Serial.ofValue?, String.isEmpty_iff]
  split
  · rename_i hempty
    exact iff_of_false nofun fun h => h.1 hempty
  · rename_i hne
    rw [Option.some.injEq, and_iff_right hne, eq_comm]

/-- The value of a number as a floating-point number. -/
def toBinary64? : Value → Option Binary64
  | .integer n => some (Binary64.ofInt n)
  | .float x => some x
  | _ => none

/-- The error value of a number that is out of the range of dates. -/
def outOfRange : Value := .text "#VALUE!"

/-- The value of a cell of a file for the program that changes files. -/
def loaded (style : Option TimeStyle) (v : Value) : Value :=
  match style, v.toBinary64? with
  | some style, some x => (style.value? x).getD outOfRange
  | _, _ => v

/-- Whether markup can hold a value. -/
def isMarkup : Value → Bool
  | .text s => s.toList.all Text.isMarkupChar
  | _ => true

/-- Whether a value can be saved. -/
def isStorable : Value → Bool
  | .integer n => (Binary64.ofInt n).isFinite
  | _ => true

end Value

namespace Sheet

/-- What a file keeps of a sheet. -/
def stored (s : Sheet) : Sheet :=
  let values := s.values.filterMapAt fun _ _ v => v.stored
  { s with values, extent := (Extent.ofGrid values).join (.ofGrid s.styles) }

theorem cell_stored (s : Sheet) (r c : Nat) :
    s.stored.cell r c = (s.cell r c).bind Value.stored :=
  s.values.get?_filterMapAt (fun _ _ v => v.stored) r c

/-- The sheet of a file for the program that changes files. -/
def loaded (s : Sheet) : Sheet :=
  { s with values := s.values.filterMapAt fun r c v => some (v.loaded (s.style r c)) }

theorem cell_loaded (s : Sheet) (r c : Nat) :
    s.loaded.cell r c = (s.cell r c).map (Value.loaded (s.style r c)) := by
  refine Eq.trans
    (s.values.get?_filterMapAt (fun r c v => some (v.loaded (s.style r c))) r c) ?_
  rw [cell]
  cases s.values.get? r c <;> rfl

end Sheet

/-- Why a workbook cannot be saved. -/
inductive SaveFlaw where
  | columnWithoutName (column : Nat)
  | integerTooLarge
deriving DecidableEq, Repr

def SaveFlaw.message : SaveFlaw → String
  | .columnWithoutName column => (Breakdown.columnWithoutName column).message
  | .integerTooLarge => "int too large to convert to float"

/-- Why a sheet cannot be saved. -/
def Sheet.saveFlaw? (s : Sheet) : Option SaveFlaw :=
  if s.extent.columns > Sheet.namedColumns then some (.columnWithoutName s.extent.columns)
  else if s.values.toList.all fun v => v.2.2.isStorable then none
  else some .integerTooLarge

namespace Workbook

/-- Whether markup can hold all names and values of a workbook. -/
def isMarkup (w : Workbook) : Bool :=
  w.sheets.all fun e =>
    e.1.toList.all Text.isMarkupChar && e.2.values.toList.all fun v => v.2.2.isMarkup

/-- What a file keeps of a workbook. -/
def stored (w : Workbook) : Workbook :=
  ⟨w.sheets.map fun e => (e.1, e.2.stored)⟩

/-- The workbook of a file for the program that changes files. -/
def loaded (w : Workbook) : Workbook :=
  ⟨w.sheets.map fun e => (e.1, e.2.loaded)⟩

/-- Why a workbook cannot be saved: the flaw of the first sheet that has one. -/
def saveFlaw? (w : Workbook) : Option SaveFlaw :=
  w.sheets.findSome? fun e => e.2.saveFlaw?

end Workbook

end SheetActions
