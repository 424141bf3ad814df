import SheetActions.Tool.Basic

/-! Calling tools.

A call names a tool and gives it arguments. Executing it reads the request from the
arguments and runs it. A checked call looks at the schema of the tool first and does
nothing when the arguments do not fit. -/
namespace SheetActions.Tool

/-- What executing a tool comes to. -/
inductive Reply where
  | unknown (name : String)
  /-- The arguments are no request. -/
  | rejected (issues : List Form.Issue)
  | done (outcome : Outcome)

namespace Reply

/-- The code for the name of no tool. -/
def unknownCode : String := "UNKNOWN_TOOL"

def failure (code : String) (message : Json) (details : List (String × Json)) : Json :=
  .object [("success", .boolean false),
    ("error", .object ([("error_code", .text code), ("message", message)] ++ details))]

def toJson : Reply → Json
  | .unknown name => failure unknownCode (.text ("Unknown tool: " ++ name)) []
  | .rejected issues =>
    failure FailureKind.invalidInput.code (.array (issues.map Form.Issue.toJson)) []
  | .done o =>
    let fields := Outcome.textsToJson o.flattened
    if o.isSuccess then .object [("success", .boolean true), ("data", fields)]
    else failure (o.errorCode.getD "") (.text o.returnResult) [("details", fields)]

end Reply

/-- Executes a tool. -/
def execute (settings : Checked Settings) (d : Directory) (name : String) (arguments : Json) :
    Reply × Directory :=
  match Action.ofName? name with
  | none => (.unknown name, d)
  | some a =>
    match (Request.ofJson settings a arguments).toExcept with
    | .error issues => (.rejected issues, d)
    | .ok r =>
      let (outcome, d) := r.run d
      (.done outcome, d)

/-- What is wrong with the arguments of a call by the schema of its tool. -/
def mismatch? (name : String) (arguments : Json) : Option Mismatch :=
  (Action.ofName? name).bind fun a => (schemaOf a).mismatch? arguments

/-- What a checked call comes to. -/
inductive CheckedReply where
  | refused (mismatch : Mismatch)
  | answered (reply : Reply)

namespace CheckedReply

def isError : CheckedReply → Bool
  | .refused _ => true
  | .answered _ => false

def content : CheckedReply → Json
  | .refused mismatch => .text ("Input validation error: " ++ mismatch.message)
  | .answered reply => reply.toJson

end CheckedReply

/-- Calls a tool, if the arguments fit its schema. -/
def call (settings : Checked Settings) (d : Directory) (name : String) (arguments : Json) :
    CheckedReply × Directory :=
  match mismatch? name arguments with
  | some mismatch => (.refused mismatch, d)
  | none =>
    let (reply, d) := execute settings d name arguments
    (.answered reply, d)

end SheetActions.Tool
