import SheetActions.Form

/-! Settings of the service.

Each setting may be given by an environment variable whose name is that of the
setting behind a common start; the case of names does not count. A setting that is
not given has a default. All settings are checked together. -/
namespace SheetActions

inductive LogLevel where
  | debug
  | info
  | warning
  | error
deriving DecidableEq, Repr

namespace LogLevel

def word : LogLevel → String
  | .debug => "debug"
  | .info => "info"
  | .warning => "warning"
  | .error => "error"

def all : List LogLevel := [.debug, .info, .warning, .error]

def ofWord? (s : String) : Option LogLevel :=
  all.find? (·.word = s)

end LogLevel

structure Settings where
  host : String
  port : Nat
  reload : Bool
  logLevel : LogLevel
  logFile : Option String
  rowDelimiter : String
  columnDelimiter : String
deriving DecidableEq

namespace Settings

/-- What the name of every variable starts with, in lower case. -/
def variableStart : String := "exceldata_"

/-- The settings that an environment gives, by their names. -/
def given (environment : List (String × String)) : Json :=
  Json.ofFields (environment.filterMap fun (name, value) =>
    (List.isPrefixOf? variableStart.toList (Text.lower name).toList).map fun setting =>
      (String.ofList setting, .text value))

def level (j : Json) : Except Form.Problem LogLevel :=
  match j with
  | .text s => ((LogLevel.ofWord? s).map Except.ok).getD (.error .notAChoice)
  | _ => .error .notAChoice

/-- The settings of an environment. -/
def ofEnvironment (environment : List (String × String)) : Checked Settings :=
  let j := given environment
  Checked.valid Settings.mk
    |>.ap (Form.optional j "host" "0.0.0.0" Form.text)
    |>.ap (Form.optional j "port" 8000 fun v => (Form.wholeBetween 1 65535 v).map Int.toNat)
    |>.ap (Form.optional j "reload" false Form.truth)
    |>.ap (Form.optional j "log_level" .info level)
    |>.ap (Form.optional j "log_file" none Form.textOrNull)
    |>.ap (Form.optional j "default_row_delimiter" "|" Form.filledText)
    |>.ap (Form.optional j "default_column_delimiter" "," Form.filledText)

end Settings

end SheetActions
