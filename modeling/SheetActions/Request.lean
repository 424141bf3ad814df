import SheetActions.Condition
import SheetActions.Settings

/-! Requests for the four actions.

A request is read from an object of fields. A field that is missing has a default,
and for most fields a blank or null value stands for the default too. The
delimiters of data have their defaults in the settings, which are looked at only
where such a default is needed: bad settings then make the request fail. -/
namespace SheetActions

/-- Rows of data for a worksheet. -/
structure AddRequest where
  file : String
  sheet : String
  header : String
  data : String
  rows : String
  columns : String
  rowDelimiter : String
  columnDelimiter : String
  overwrite : Bool
deriving DecidableEq

/-- Cells to be read from a worksheet. -/
structure ReadRequest where
  file : String
  sheet : String
  hasHeader : Bool
  firstRow : Nat
  rows : String
  columns : String
  rowDelimiter : String
  columnDelimiter : String
deriving DecidableEq

/-- A condition that rows of a worksheet are to be found by. -/
structure SearchRequest where
  file : String
  sheet : String
  column : Option Nat
  comparison : Comparison
  value : String
  hasHeader : Bool
  firstRow : Nat
deriving DecidableEq

/-- A workbook to be made. -/
structure CreateRequest where
  file : String
  sheetNames : String
  delimiter : String
deriving DecidableEq

namespace Request

/-! ### Fields -/

def textField (j : Json) (name : String) : Checked String :=
  Form.optional j name "" Form.text

/-- A delimiter whose default comes from the settings. A null or empty value asks for
the default, and so does a missing one. -/
def delimiterField (settings : Checked Settings) (default : Settings → String) (j : Json)
    (name : String) : Checked String :=
  match j.field? name, settings with
  | some (.text s), .valid settings => .valid (if s.isEmpty then default settings else s)
  | some .null, .valid settings => .valid (default settings)
  | none, .valid settings => .valid (default settings)
  | some (.text s), .invalid issues | some (.text s), .aborted issues =>
    if s.isEmpty then .invalid (issues.map fun i => { i with place := name ++ "." ++ i.place })
    else .valid s
  | some .null, .invalid issues | some .null, .aborted issues =>
    .invalid (issues.map fun i => { i with place := name ++ "." ++ i.place })
  | none, .invalid issues | none, .aborted issues => .aborted issues
  | some _, _ => .invalid [⟨name, .notText⟩]

def rowDelimiterField (settings : Checked Settings) (j : Json) : Checked String :=
  delimiterField settings Settings.rowDelimiter j "row_delimiter"

def columnDelimiterField (settings : Checked Settings) (j : Json) : Checked String :=
  delimiterField settings Settings.columnDelimiter j "column_delimiter"

def flagField (j : Json) (name : String) (default : Bool) : Checked Bool :=
  Form.optional j name default (Form.flag default)

/-- Whether a value is null or a blank text. -/
def isBlankField : Json → Bool
  | .null => true
  | .text s => Text.isBlankText s
  | _ => false

/-- A value of which the blanks around a text do not count. -/
def trimmed : Json → Json
  | .text s => .text (Text.trim s)
  | j => j

def firstRowField (j : Json) : Checked Nat :=
  Form.optional j "first_row_index" 0 fun v =>
    if isBlankField v then .ok 0 else Form.natFrom 0 (trimmed v)

def columnField (j : Json) : Checked (Option Nat) :=
  Form.optional j "column_index_to_query" none fun v =>
    if isBlankField v then .ok none else (Form.natFrom 0 (trimmed v)).map some

def comparisonField (j : Json) : Checked Comparison :=
  Form.optional j "operator" .equal fun v =>
    if isBlankField v then .ok .equal
    else match trimmed v with
      | .text s => ((Comparison.ofSymbol? s).map Except.ok).getD (.error .notAChoice)
      | _ => .error .notAChoice

/-- A text of which null and some other values stand for the default. -/
def defaultedField (j : Json) (name default : String) (isDefault : String → Bool) :
    Checked String :=
  Form.optional j name default fun
    | .null => .ok default
    | .text s => .ok (if isDefault s then default else s)
    | _ => .error .notText

end Request

/-! ### Forms -/

open Request

def AddRequest.ofJson (settings : Checked Settings) (j : Json) : Checked AddRequest :=
  Checked.valid AddRequest.mk
    |>.ap (textField j "excel_file_name")
    |>.ap (textField j "worksheet_name")
    |>.ap (textField j "header_data")
    |>.ap (textField j "row_data")
    |>.ap (textField j "row_index")
    |>.ap (textField j "column_index")
    |>.ap (rowDelimiterField settings j)
    |>.ap (columnDelimiterField settings j)
    |>.ap (flagField j "overwrite" false)

def ReadRequest.ofJson (settings : Checked Settings) (j : Json) : Checked ReadRequest :=
  Checked.valid ReadRequest.mk
    |>.ap (textField j "excel_file_name")
    |>.ap (textField j "worksheet_name")
    |>.ap (flagField j "has_header" true)
    |>.ap (firstRowField j)
    |>.ap (textField j "row_index")
    |>.ap (textField j "column_index")
    |>.ap (rowDelimiterField settings j)
    |>.ap (columnDelimiterField settings j)

def SearchRequest.ofJson (j : Json) : Checked SearchRequest :=
  Checked.valid SearchRequest.mk
    |>.ap (textField j "excel_file_name")
    |>.ap (textField j "worksheet_name")
    |>.ap (columnField j)
    |>.ap (comparisonField j)
    |>.ap (textField j "value")
    |>.ap (flagField j "has_header" true)
    |>.ap (firstRowField j)

/-- The names of the worksheets of a new workbook where none are given. -/
def CreateRequest.defaultNames : String := "Sheet1,Sheet2,Sheet3"

def CreateRequest.ofJson (j : Json) : Checked CreateRequest :=
  Checked.valid CreateRequest.mk
    |>.ap (textField j "excel_file_name")
    |>.ap (defaultedField j "worksheet_names" defaultNames Text.isBlankText)
    |>.ap (defaultedField j "delimiter" "," String.isEmpty)

/-! ### Requests as forms -/

/-- The fields of a request, filled in. -/
def AddRequest.toJson (r : AddRequest) : Json :=
  .object [("excel_file_name", .text r.file), ("worksheet_name", .text r.sheet),
    ("header_data", .text r.header), ("row_data", .text r.data), ("row_index", .text r.rows),
    ("column_index", .text r.columns), ("row_delimiter", .text r.rowDelimiter),
    ("column_delimiter", .text r.columnDelimiter), ("overwrite", .boolean r.overwrite)]

/-- The fields of a request, filled in. -/
def ReadRequest.toJson (r : ReadRequest) : Json :=
  .object [("excel_file_name", .text r.file), ("worksheet_name", .text r.sheet),
    ("has_header", .boolean r.hasHeader), ("first_row_index", .integer r.firstRow),
    ("row_index", .text r.rows), ("column_index", .text r.columns),
    ("row_delimiter", .text r.rowDelimiter), ("column_delimiter", .text r.columnDelimiter)]

/-- The fields of a request, filled in. -/
def SearchRequest.toJson (r : SearchRequest) : Json :=
  .object [("excel_file_name", .text r.file), ("worksheet_name", .text r.sheet),
    ("column_index_to_query", (r.column.map fun (c : Nat) => Json.integer c).getD .null),
    ("operator", .text r.comparison.symbol), ("value", .text r.value),
    ("has_header", .boolean r.hasHeader), ("first_row_index", .integer r.firstRow)]

/-- The fields of a request, filled in. -/
def CreateRequest.toJson (r : CreateRequest) : Json :=
  .object [("excel_file_name", .text r.file), ("worksheet_names", .text r.sheetNames),
    ("delimiter", .text r.delimiter)]

end SheetActions
