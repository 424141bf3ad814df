import SheetActions.Fault.Misuse
import SheetActions.Fault.Report

/-! Reports asked for by label.

Each kind of failure has parameters, some of them with a default. A report can be
asked for with an object of arguments, whose values are taken as they are; arguments
that are missing or unknown are refused. -/
namespace SheetActions.FailureKind

/-- The parameters of a kind, with the defaults of those that need not be given. -/
def parameters : FailureKind → List (String × Option Json)
  | .general =>
    [("message", none), ("error_code", some (.text general.code)), ("details", some .null)]
  | .invalidInput =>
    [("message", none), ("field", some .null), ("error_code", some (.text invalidInput.code)),
      ("details", some .null)]
  | .fileNotFound => [("file_path", none)]
  | .invalidFormat =>
    [("file_path", none), ("expected_formats", some .null), ("reason", some .null)]
  | .sheetNotFound => [("sheet_name", none), ("available_sheets", some .null)]
  | .invalidIndex => [("range_spec", none), ("reason", some .null), ("token", some .null)]
  | .doesNotFit => [("axis", none), ("data_count", none), ("index_count", none)]
  | .shiftFailure =>
    [("first_row", none), ("last_row", none), ("count", none), ("reason", some .null)]
  | .readFailure =>
    [("file_path", none), ("operation", some (.text "read")), ("reason", some .null)]
  | .writeFailure =>
    [("file_path", none), ("operation", some (.text "write")), ("reason", some .null)]
  | .permissionDenied => [("file_path", none), ("operation", some (.text "access"))]

end SheetActions.FailureKind

namespace SheetActions.Report

/-- The formats that are expected where none are given. -/
def defaultFormats : List String := [".xlsx", ".xlsm"]

/-- The names of formats that are given as a value. -/
def formatNames : Json → Except Misuse (List String)
  | .array items => items.mapM fun
    | .text s => .ok (formatName s)
    | item => .error (.formatOfKind item.kindName)
  | .text s => .ok (s.toList.map fun c => formatName (String.singleton c))
  | .object fields => .ok (fields.map fun f => formatName f.1)
  | j => .error (.formatsOfKind j.kindName)

/-- More details that are given as a value. -/
def moreDetails : Json → Except Misuse (List (String × Json))
  | .object fields => .ok fields
  | j => if j.isTruthy then .error (.detailsOfKind j.kindName) else .ok []

/-- The report of a kind on the arguments for its parameters. -/
def ofArguments (kind : FailureKind) (argument : String → Json) : Except Misuse Report :=
  match kind with
  | .general => .ok (general (argument "message") (argument "error_code") (argument "details"))
  | .invalidInput => do
    let more ← moreDetails (argument "details")
    return invalidInput (argument "message") (argument "field") (argument "error_code") more
  | .fileNotFound => .ok (fileNotFound (argument "file_path"))
  | .invalidFormat => do
    let given := argument "expected_formats"
    let expected := if given.isTruthy then given else .array (defaultFormats.map .text)
    let names ← formatNames expected
    return invalidFormat names (argument "file_path") expected (argument "reason")
  | .sheetNotFound => .ok (sheetNotFound (argument "sheet_name") (argument "available_sheets"))
  | .invalidIndex =>
    .ok (invalidIndex (argument "range_spec") (argument "reason") (argument "token"))
  | .doesNotFit =>
    .ok (doesNotFit (argument "axis") (argument "data_count") (argument "index_count"))
  | .shiftFailure =>
    .ok (shiftFailure (argument "first_row") (argument "last_row") (argument "count")
      (argument "reason"))
  | .readFailure | .writeFailure =>
    .ok (transferFailure kind (argument "file_path") (argument "operation") (argument "reason"))
  | .permissionDenied => .ok (permissionDenied (argument "file_path") (argument "operation"))

/-- The report of a kind on named arguments. -/
def named (kind : FailureKind) (arguments : List (String × Json)) : Except Misuse Report :=
  let parameters := kind.parameters
  let isGiven (name : String) : Bool := (arguments.lookup name).isSome
  match arguments.find? fun a => (parameters.lookup a.1).isNone with
  | some a => .error (.unknownArgument kind.label a.1)
  | none =>
    match parameters.filter fun p => p.2.isNone && !isGiven p.1 with
    | [] =>
      ofArguments kind fun name =>
        (arguments.lookup name).getD (((parameters.lookup name).bind id).getD .null)
    | missing => .error (.missingArguments kind.label (missing.map (·.1)))

end SheetActions.Report
