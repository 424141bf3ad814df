import SheetActions.Action.Run
import SheetActions.Tool.Schema

/-! The actions as tools for agents.

Each action is offered as a tool of its name, with a description and a schema for
its arguments. -/
namespace SheetActions

/-- What is offered. -/
structure Tool where
  name : String
  description : String
  schema : Schema

namespace Tool

/-! ### Properties -/

def text (name description : String) : Property :=
  { name, kind := .text, description := some description }

def fileProperties : List Property :=
  [text "excel_file_name" "Path to the Excel file (.xlsx or .xlsm)",
    text "worksheet_name" "Name of the worksheet"]

def delimiterProperties : List Property :=
  [text "row_delimiter" "Delimiter between rows (default: '|')",
    text "column_delimiter" "Delimiter between cells of a row (default: ',')"]

def headerProperties : List Property :=
  [{ name := "has_header", kind := .truth,
     description := some "Whether the first row is a header row", default := some (.boolean true) },
   { name := "first_row_index", kind := .whole,
     description := some "0-based index of the first row of the table",
     default := some (.integer 0) }]

/-! ### Tools -/

def addSchema : Schema where
  properties := fileProperties ++
    [text "header_data" "Delimited header row written to row 0",
      text "row_data" "Delimited rows, e.g. '1,2,3|4,5,6'",
      text "row_index" "Target rows, e.g. '1:3,7' (0-based)",
      text "column_index" "Target columns, e.g. '0:2,5' (0-based)"] ++
    delimiterProperties ++
    [{ name := "overwrite", kind := .truth,
       description := some "Overwrite cells instead of inserting rows",
       default := some (.boolean false) }]
  required := ["excel_file_name", "worksheet_name", "row_data"]

def readSchema : Schema where
  properties := fileProperties ++ headerProperties ++
    [text "row_index" "Rows to read, e.g. '1:3,7' (0-based)",
      text "column_index" "Columns to read, e.g. '0:2' (0-based)"] ++
    delimiterProperties
  required := ["excel_file_name", "worksheet_name"]

def searchSchema : Schema where
  properties := fileProperties ++
    [{ name := "column_index_to_query", kind := .whole,
       description := some "0-based column to compare" },
     { name := "operator", kind := .text, choices := Comparison.all.map Comparison.symbol,
       default := some (.text "==") },
     text "value" "Value to compare against"] ++
    headerProperties
  required := ["excel_file_name", "worksheet_name", "column_index_to_query"]

def createSchema : Schema where
  properties :=
    [text "excel_file_name" "Path of the new .xlsx file",
      { text "worksheet_names" "Delimited worksheet names" with
        default := some (.text CreateRequest.defaultNames) },
      { text "delimiter" "Delimiter between worksheet names" with default := some (.text ",") }]
  required := ["excel_file_name"]

def schemaOf : Action → Schema
  | .add => addSchema
  | .read => readSchema
  | .search => searchSchema
  | .create => createSchema

def descriptionOf : Action → String
  | .add =>
    "Add rows of delimited data to an existing worksheet. "
      ++ "Rows are inserted at the given row indexes (rows below move down) "
      ++ "or, with overwrite, written over the existing cells. "
      ++ "Without row indexes the data is appended after the last row."
  | .read =>
    "Read cell values from a worksheet as delimited text. "
      ++ "Without row or column indexes every data row and column is returned."
  | .search =>
    "Return the 0-based indexes of the data rows whose cell in the "
      ++ "given column satisfies a comparison with a value."
  | .create => "Create a new, empty .xlsx workbook with the given worksheets."

/-- The tool for an action. -/
def ofAction (a : Action) : Tool :=
  ⟨a.name, descriptionOf a, schemaOf a⟩

/-- All tools, in the order in which they are offered. -/
def all : List Tool :=
  Action.all.map ofAction

def toJson (t : Tool) : Json :=
  .object [("name", .text t.name), ("description", .text t.description),
    ("inputSchema", t.schema.toJson)]

end Tool

end SheetActions
