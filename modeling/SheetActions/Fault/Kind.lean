/-! Kinds of foreseen failures.

A kind has a label for diagnostic texts and a code for callers. -/
namespace SheetActions

inductive FailureKind where
  | general
  | invalidInput
  | fileNotFound
  | invalidFormat
  | sheetNotFound
  | invalidIndex
  | doesNotFit
  | shiftFailure
  | readFailure
  | writeFailure
  | permissionDenied
deriving DecidableEq, Repr

namespace FailureKind

def label : FailureKind → String
  | .general => "ExcelServiceError"
  | .invalidInput => "ValidationError"
  | .fileNotFound => "FileNotFoundError"
  | .invalidFormat => "InvalidFileFormatError"
  | .sheetNotFound => "SheetNotFoundError"
  | .invalidIndex => "InvalidRangeError"
  | .doesNotFit => "IndexOutOfRangeError"
  | .shiftFailure => "ShiftFailureError"
  | .readFailure => "ReadError"
  | .writeFailure => "WriteError"
  | .permissionDenied => "PermissionError"

def code : FailureKind → String
  | .general => "EXCEL_ERROR"
  | .invalidInput => "VALIDATION_ERROR"
  | .fileNotFound => "FILE_NOT_FOUND"
  | .invalidFormat => "INVALID_FILE_FORMAT"
  | .sheetNotFound => "SHEET_NOT_FOUND"
  | .invalidIndex => "INVALID_RANGE"
  | .doesNotFit => "INDEX_OUT_OF_RANGE"
  | .shiftFailure => "SHIFT_FAILURE"
  | .readFailure => "READ_ERROR"
  | .writeFailure => "WRITE_ERROR"
  | .permissionDenied => "PERMISSION_DENIED"

def all : List FailureKind :=
  [.general, .invalidInput, .fileNotFound, .invalidFormat, .sheetNotFound, .invalidIndex,
    .doesNotFit, .shiftFailure, .readFailure, .writeFailure, .permissionDenied]

def ofLabel? (s : String) : Option FailureKind :=
  all.find? (·.label = s)

theorem ofLabel?_label (k : FailureKind) : ofLabel? k.label = some k := by
  cases k <;> rfl

end FailureKind

end SheetActions
