import SheetActions.Fault.Report
import SheetActions.Files.Flaw

/-! What can go wrong in an action.

A `Refusal` is a failure that an action foresees: it has a code, a message and
details for the caller, which its report gives. A `Breakdown` is any other failure; it
has a message only. -/
namespace SheetActions

/-- A foreseen failure. -/
inductive Refusal where
  /-- A required input is missing or unusable. -/
  | input (message field : String)
  | fileNotFound (path : String)
  /-- The file is not of one of the expected formats. -/
  | invalidFormat (path : String) (expected : List String) (reason : Option String)
  | sheetNotFound (name : String) (available : List String)
  /-- An index specification cannot be parsed, or it names an index that does not exist. -/
  | invalidIndex (spec reason : String) (token : Option String)
  /-- The data has more rows or columns than indices were given. -/
  | doesNotFit (axis : String) (dataCount indexCount : Nat)
  /-- A block of rows cannot be moved down. -/
  | shiftFailure (first last count : Int) (reason : Option String)
  | readFailure (path operation reason : String)
  | writeFailure (path operation reason : String)
  /-- Nothing may be written where an operation would have to. -/
  | permissionDenied (path operation : String)

/-- A failure that no action foresees. -/
inductive Breakdown where
  /-- A text is to be split at the empty delimiter. -/
  | emptyDelimiter
  /-- An integer numeral has more digits than are accepted. -/
  | numeralTooLong (digits : Nat)
  /-- A position lies outside an index set. -/
  | positionOutOfRange
  /-- A text holds a control character that no cell can hold. -/
  | illegalText (text : String)
  /-- A value of a kind that no cell can hold. -/
  | strangeValue (text : String)
  /-- A cell with a negative coordinate. -/
  | negativeCoordinate
  /-- A cell below the last row; rows count from one here. -/
  | rowBeyondGrid (rowNumber : Int)
  /-- A block of cells that reaches a column without a name; columns count from one here. -/
  | columnWithoutName (columnNumber : Nat)
  /-- A path that the file system does not accept. -/
  | badPath (path : String) (flaw : PathFlaw)
deriving DecidableEq, Repr

inductive Fault where
  | refusal (r : Refusal)
  | breakdown (b : Breakdown)

namespace Refusal

def kind : Refusal → FailureKind
  | .input .. => .invalidInput
  | .fileNotFound .. => .fileNotFound
  | .invalidFormat .. => .invalidFormat
  | .sheetNotFound .. => .sheetNotFound
  | .invalidIndex .. => .invalidIndex
  | .doesNotFit .. => .doesNotFit
  | .shiftFailure .. => .shiftFailure
  | .readFailure .. => .readFailure
  | .writeFailure .. => .writeFailure
  | .permissionDenied .. => .permissionDenied

/-- What the caller is told. -/
def report : Refusal → Report
  | .input message field =>
    .invalidInput (.text message) (.text field) (.text FailureKind.invalidInput.code) []
  | .fileNotFound path => .fileNotFound (.text path)
  | .invalidFormat path expected reason =>
    .invalidFormat (expected.map Report.formatName) (.text path) (.array (expected.map .text))
      (.ofText? reason)
  | .sheetNotFound name available => .sheetNotFound (.text name) (.array (available.map .text))
  | .invalidIndex spec reason token => .invalidIndex (.text spec) (.text reason) (.ofText? token)
  | .doesNotFit axis dataCount indexCount =>
    .doesNotFit (.text axis) (.integer dataCount) (.integer indexCount)
  | .shiftFailure first last count reason =>
    .shiftFailure (.integer first) (.integer last) (.integer count) (.ofText? reason)
  | .readFailure path operation reason =>
    .transferFailure .readFailure (.text path) (.text operation) (.text reason)
  | .writeFailure path operation reason =>
    .transferFailure .writeFailure (.text path) (.text operation) (.text reason)
  | .permissionDenied path operation => .permissionDenied (.text path) (.text operation)

def label (r : Refusal) : String := r.kind.label

def code (r : Refusal) : String := r.kind.code

def message (r : Refusal) : String := r.report.message

/-- A report has the kind and the code of its refusal. -/
theorem report_kind (r : Refusal) : r.report.kind = r.kind ∧ r.report.code = .text r.code := by
  cases r <;> exact ⟨rfl, rfl⟩

end Refusal

namespace Breakdown

/-- The kind of a breakdown, as diagnostic texts name it. -/
def label : Breakdown → String
  | .emptyDelimiter | .numeralTooLong .. | .strangeValue .. | .negativeCoordinate
  | .rowBeyondGrid .. | .columnWithoutName .. => "ValueError"
  | .positionOutOfRange => "IndexError"
  | .illegalText .. => "IllegalCharacterError"
  | .badPath _ flaw => flaw.label

def message : Breakdown → String
  | .emptyDelimiter => "empty separator"
  | .numeralTooLong digits =>
    "Exceeds the limit (4300 digits) for integer string conversion: value has " ++ toString digits
      ++ " digits; use sys.set_int_max_str_digits() to increase the limit"
  | .positionOutOfRange => "tuple index out of range"
  | .illegalText text => text ++ " cannot be used in worksheets."
  | .strangeValue text => "Cannot convert " ++ text ++ " to Excel"
  | .negativeCoordinate => "Row or column values must be at least 1"
  | .rowBeyondGrid rowNumber =>
    "Row numbers must be between 1 and 1048576. Row number supplied was " ++ toString rowNumber
  | .columnWithoutName columnNumber => "Invalid column index " ++ toString columnNumber
  | .badPath path flaw => flaw.message path

end Breakdown

namespace Fault

def label : Fault → String
  | .refusal r => r.label
  | .breakdown b => b.label

def message : Fault → String
  | .refusal r => r.message
  | .breakdown b => b.message

end Fault

instance : Coe Refusal Fault := ⟨.refusal⟩
instance : Coe Breakdown Fault := ⟨.breakdown⟩

end SheetActions
