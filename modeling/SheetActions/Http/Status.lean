import SheetActions.Outcome

/-! HTTP status codes of outcomes. -/
namespace SheetActions

/-- The status for each code of a failure. -/
def statusTable : List (String × Nat) :=
  [("VALIDATION_ERROR", 400), ("INVALID_RANGE", 400), ("INDEX_OUT_OF_RANGE", 400),
   ("INVALID_FILE_FORMAT", 400), ("FILE_NOT_FOUND", 404), ("SHEET_NOT_FOUND", 404),
   ("PERMISSION_DENIED", 403), ("SHIFT_FAILURE", 409), ("READ_ERROR", 500), ("WRITE_ERROR", 500),
   ("INTERNAL_ERROR", 500)]

/-- The status of an outcome; a code that is not known is a failure of the service. -/
def Outcome.status (o : Outcome) : Nat :=
  if o.isSuccess then 200
  else (statusTable.lookup (o.errorCode.getD "")).getD 500

end SheetActions
