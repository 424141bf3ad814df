import SheetActions.Action.Input
import SheetActions.Files.Saving
import SheetActions.Outcome
import SheetActions.Request
import SheetActions.SheetNames

/-! Creating a workbook with blank worksheets. -/
namespace SheetActions.CreateRequest

/-- How the name of a new file ends. -/
def format : String := ".xlsx"

/-- The fault of a file name with another ending. -/
def otherFormat (file : String) : Fault :=
  .refusal (.invalidFormat file [format] (some "New documents are created as .xlsx"))

/-- The name of the new file and those of its worksheets. -/
def names (r : CreateRequest) : Except Fault (String × List String) := do
  let file ← Input.fileName r.file
  if !format.toList.isSuffixOf (Text.lower file).toList then throw (otherFormat file)
  let sheets ← SheetNames.parse r.delimiter r.sheetNames
  return (file, sheets)

/-- The outcome when the file was created. -/
def outcome (file : String) : Outcome :=
  .succeeded s!"Excel document {file} was created successfully." []

/-- Creates the workbook. -/
def run (r : CreateRequest) (d : Directory) : Outcome × Directory :=
  match r.names with
  | .error f => (.ofFault "" f, d)
  | .ok (file, sheets) =>
    let made := d.create file sheets
    match made.fault with
    | some f => (.ofFault "" f, made.state)
    | none => (outcome file, made.state)

end SheetActions.CreateRequest
