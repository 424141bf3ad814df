import SheetActions.Files.Directory
import SheetActions.Settings

/-! Where log records go.

Records always go to the console, and also to a file if the settings name one. The
name of the file is normalized first, so that `..` takes the component before it away
whatever that leads to; no folder is made for the file. -/
namespace SheetActions

structure LogPlan where
  level : LogLevel
  /-- The file that receives a copy of the records. -/
  file : Option String
deriving DecidableEq

namespace LogPlan

/-- The plan that the settings ask for. -/
def ofSettings (s : Settings) : LogPlan :=
  ⟨s.logLevel, s.logFile.bind fun path => if path.isEmpty then none else some path⟩

/-- The directory with the file of the plan. -/
def prepare (plan : LogPlan) (d : Directory) : Except PathFlaw Directory :=
  match plan.file with
  | none => .ok d
  | some path => d.writeFile (Path.ofText path).normalized (.text "")

end LogPlan

end SheetActions
