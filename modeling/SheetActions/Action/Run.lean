import SheetActions.Action.Add
import SheetActions.Action.Create
import SheetActions.Action.Read
import SheetActions.Action.Search

/-! The four actions together.

An action is known by its name. Its request is read from an object of fields, and
running a request on a directory gives an outcome and the directory afterwards. -/
namespace SheetActions

/-- The kinds of actions. -/
inductive Action where
  | add
  | read
  | search
  | create
deriving DecidableEq, Repr

namespace Action

def name : Action → String
  | .add => "add_excel_data"
  | .read => "get_cell"
  | .search => "get_row_index_by_condition"
  | .create => "new_excel_document"

def all : List Action := [.add, .read, .search, .create]

def ofName? (s : String) : Option Action :=
  all.find? (·.name = s)

theorem ofName?_name (a : Action) : ofName? a.name = some a := by
  cases a <;> rfl

/-- Whether the action can change a directory. -/
def isChange : Action → Bool
  | .add | .create => true
  | .read | .search => false

end Action

/-- A request of any kind. -/
inductive Request where
  | add (r : AddRequest)
  | read (r : ReadRequest)
  | search (r : SearchRequest)
  | create (r : CreateRequest)

namespace Request

/-- Reads the request for an action. -/
def ofJson (settings : Checked Settings) (a : Action) (j : Json) : Checked Request :=
  match a with
  | .add => (AddRequest.ofJson settings j).map .add
  | .read => (ReadRequest.ofJson settings j).map .read
  | .search => (SearchRequest.ofJson j).map .search
  | .create => (CreateRequest.ofJson j).map .create

/-- The fields of a request, filled in. -/
def toJson : Request → Json
  | .add r => r.toJson
  | .read r => r.toJson
  | .search r => r.toJson
  | .create r => r.toJson

/-- Runs a request. -/
def run (d : Directory) : Request → Outcome × Directory
  | .add r => r.run d
  | .read r => (r.run d, d)
  | .search r => (r.run d, d)
  | .create r => r.run d

end Request

end SheetActions
