import SheetActions.Fault.Kind
import SheetActions.Json.Shown
import SheetActions.Text.Case

/-! What a caller is told of a foreseen failure.

A report has a message, a code and details. There is one function for each kind; it
takes what the failure is about as JSON, since a report can also be asked for with
any values (`SheetActions.Fault.Named`). A reason is put behind the message if it says
anything. -/
namespace SheetActions

structure Report where
  kind : FailureKind
  message : String
  code : Json
  details : Json

namespace Report

/-- A report with the code of its kind. -/
def ofKind (kind : FailureKind) (message : String) (details : List (String × Json)) : Report :=
  ⟨kind, message, .text kind.code, .object details⟩

/-- A reason behind a mark, if it says anything. -/
def withReason (mark : String) (reason : Json) : String :=
  if reason.isTruthy then mark ++ reason.inMessage else ""

/-- The name of a format without the dots in front of it, in upper case. -/
def formatName (extension : String) : String :=
  Text.upper (String.ofList (extension.toList.dropWhile (· = '.')))

def general (message code details : Json) : Report :=
  ⟨.general, message.inMessage, code, if details.isTruthy then details else .object []⟩

/-- An input is missing or unusable; more details may replace the name of the field. -/
def invalidInput (message field code : Json) (more : List (String × Json)) : Report :=
  ⟨.invalidInput, message.inMessage, code,
    .object (more.foldl (fun fields f => Json.setField fields f.1 f.2) [("field", field)])⟩

def fileNotFound (path : Json) : Report :=
  ofKind .fileNotFound ("Excel file not found: " ++ path.inMessage) [("file_path", path)]

/-- The file is not of one of the expected formats, which have names. -/
def invalidFormat (names : List String) (path expected reason : Json) : Report :=
  ofKind .invalidFormat
    ("Invalid file for Excel documents. Expecting file name with extension "
      ++ " or ".intercalate names ++ "." ++ withReason " " reason)
    [("file_path", path), ("expected_formats", expected), ("reason", reason)]

def sheetNotFound (name available : Json) : Report :=
  ofKind .sheetNotFound ("Worksheet " ++ name.inMessage ++ " does not exist.")
    [("field", .text "worksheet_name"), ("sheet_name", name),
      ("available_sheets", if available.isTruthy then available else .array [])]

def invalidIndex (spec reason token : Json) : Report :=
  ofKind .invalidIndex ("Invalid index specification: " ++ spec.shown ++ withReason " - " reason)
    [("range_spec", spec), ("token", token), ("reason", reason)]

def doesNotFit (axis dataCount indexCount : Json) : Report :=
  let axisName := axis.inMessage
  ofKind .doesNotFit
    ("The data has " ++ dataCount.inMessage ++ " " ++ axisName ++ "s but only "
      ++ indexCount.inMessage ++ " " ++ axisName ++ " indexes were given.")
    [("axis", axis), ("data_count", dataCount), ("index_count", indexCount)]

def shiftFailure (first last count reason : Json) : Report :=
  ofKind .shiftFailure
    ("Cannot shift rows " ++ first.inMessage ++ ":" ++ last.inMessage ++ " down by "
      ++ count.inMessage ++ withReason " - " reason)
    [("first_row", first), ("last_row", last), ("count", count), ("reason", reason)]

/-- A failure to read or to write a file. -/
def transferFailure (kind : FailureKind) (path operation reason : Json) : Report :=
  ofKind kind
    ("Failed to " ++ operation.inMessage ++ " Excel file: " ++ path.inMessage
      ++ withReason " - " reason)
    [("file_path", path), ("operation", operation), ("reason", reason)]

def permissionDenied (path operation : Json) : Report :=
  ofKind .permissionDenied
    ("Permission denied for " ++ operation.inMessage ++ " on: " ++ path.inMessage)
    [("file_path", path), ("operation", operation)]

end Report

end SheetActions
