import SheetActions.Cell.Calendar

/-! The values that cells hold.

A blank cell holds no value, so blankness is the absence of a `Value`: where a cell
may be blank, its content is an `Option Value`. -/
namespace SheetActions

inductive Value where
  | boolean (b : Bool)
  | integer (n : Int)
  | float (x : Binary64)
  | text (s : String)
  | dateTime (date : Date) (clock : Clock)
  | date (d : Date)
  | clock (t : Clock)
  /-- A span of time in microseconds. -/
  | span (microseconds : Int)
  /-- A value of another kind, known by its text only. -/
  | other (text : String)
deriving DecidableEq, Repr

namespace Value

/-- A number among the values; truth values are not numbers. -/
def number? : Value → Option Number
  | .integer n => some (.integer n)
  | .float x => some (.float x)
  | _ => none

/-- What is read from a cell: the empty text is a blank, a floating-point number that is
an integer becomes one, and a value of another kind becomes its text. -/
def normalized : Value → Option Value
  | .text s => if s.isEmpty then none else some (.text s)
  | .float x => some ((x.toInt?.map Value.integer).getD (.float x))
  | .other s => some (.text s)
  | v => some v

/-- The text of a value that was read. -/
def rendered : Value → String
  | .boolean b => if b then "true" else "false"
  | .integer n => toString n
  | .float x => x.text
  | .text s => s
  | .dateTime d t => d.text ++ "T" ++ t.text
  | .date d => d.text
  | .clock t => t.text
  | .span microseconds => spanText microseconds
  | .other s => s

end Value

/-- The text of a cell; a blank has none. -/
def renderCell : Option Value → String
  | none => ""
  | some v => v.rendered

end SheetActions
