import SheetActions.Fault
import SheetActions.Form

/-! The outcome of an action.

An action either succeeds, with a result and named outputs, or fails, with a
message, a diagnostic text and a code. Both have the same fields, so that a caller
can handle them alike. -/
namespace SheetActions

structure Outcome where
  returnCode : String
  returnResult : String
  exception : String
  errorCode : Option String
  outputs : List (String × String)
deriving DecidableEq

namespace Outcome

def successCode : String := "0"

def failureCode : String := "-1"

/-- The code of a failure that no action foresees. -/
def internalCode : String := "INTERNAL_ERROR"

def isSuccess (o : Outcome) : Bool :=
  o.returnCode = successCode

def succeeded (result : String) (outputs : List (String × String)) : Outcome :=
  ⟨successCode, result, "", none, outputs⟩

def failed (message exception code : String) : Outcome :=
  ⟨failureCode, message, exception, some code, []⟩

theorem isSuccess_succeeded (result : String) (outputs : List (String × String)) :
    (succeeded result outputs).isSuccess = true := rfl

theorem isSuccess_failed (message exception code : String) :
    (failed message exception code).isSuccess = false := rfl

/-- The outcome of an action that a fault ended; `during` says in which stage. A fault
that was not foreseen is reported as such. -/
def ofFault (during : String) (f : Fault) : Outcome :=
  let exception := f.label ++ during ++ ": " ++ f.message
  match f with
  | .refusal r => failed r.message exception r.code
  | .breakdown b => failed ("Unexpected error: " ++ b.message) exception internalCode

/-! ### As data -/

/-- Gives a name a new text: in its place if the name is there, else at the end. -/
def setOutput (outputs : List (String × String)) (name value : String) : List (String × String) :=
  if outputs.any (·.1 == name) then
    outputs.map fun o => if o.1 == name then (name, value) else o
  else outputs ++ [(name, value)]

/-- The result and the named outputs as one list; an output replaces a field of its name. -/
def flattened (o : Outcome) : List (String × String) :=
  o.outputs.foldl (fun fs f => setOutput fs f.1 f.2)
    [("returnCode", o.returnCode), ("returnResult", o.returnResult), ("exception", o.exception)]

/-- An object of texts. -/
def textsToJson (l : List (String × String)) : Json :=
  .object (l.map fun f => (f.1, .text f.2))

def toJson (o : Outcome) : Json :=
  .object [("returnCode", .text o.returnCode), ("returnResult", .text o.returnResult),
    ("exception", .text o.exception), ("errorCode", .ofText? o.errorCode),
    ("outputs", textsToJson o.outputs)]

/-- A field that may be given by either of two names; the first one counts more. -/
def eitherField {α : Type} (j : Json) (name other : String) (default : Checked α)
    (check : String → Json → Checked α) : Checked α :=
  match j.field? name, j.field? other with
  | some v, _ => check name v
  | none, some v => check other v
  | none, none => default

/-- Reads the fields of an outcome. -/
def ofJson (j : Json) : Checked Outcome :=
  let text (place : String) (v : Json) : Checked String := .ofField place (Form.text v)
  Checked.valid Outcome.mk
    |>.ap (eitherField j "returnCode" "return_code" (.invalid [⟨"returnCode", .missing⟩]) text)
    |>.ap (eitherField j "returnResult" "return_result" (.valid "") text)
    |>.ap (eitherField j "exception" "exception" (.valid "") text)
    |>.ap (eitherField j "errorCode" "error_code" (.valid none) fun place v =>
        .ofField place (Form.textOrNull v))
    |>.ap (eitherField j "outputs" "outputs" (.valid []) Form.texts)

end Outcome

end SheetActions
