import SheetActions.Fault
import SheetActions.Text.Blank

/-! Inputs that the actions require. -/
namespace SheetActions.Input

/-- A text that must not be blank, without the blanks around it. -/
def required (value message field : String) : Except Fault String :=
  let trimmed := Text.trim value
  if trimmed.isEmpty then .error (.refusal (.input message field)) else .ok trimmed

def fileName (value : String) : Except Fault String :=
  required value "The excel file name is required." "excel_file_name"

def sheetName (value : String) : Except Fault String :=
  required value "The worksheet name is required." "worksheet_name"

end SheetActions.Input
