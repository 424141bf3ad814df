import SheetActions.Files.Loading
import SheetActions.Sheet.Progress
import SheetActions.Text.Units
import SheetActions.Workbook.Stored

/-! Saving workbooks and creating new ones.

Saving replaces the content of the file. When the workbook cannot be saved, the old
content is lost all the same: what remains is an archive without a workbook. But a file
that must not be written to keeps its content. A new workbook needs a place where
nothing is and a folder that may be written to; folders that are missing on the way are
made first, and they stay when a later step fails. -/
namespace SheetActions.Directory

/-- The failure of a step of writing a file. -/
def writeFault (file operation reason : String) : Fault :=
  .refusal (.writeFailure file operation reason)

/-- Why a name that leads to a file cannot be written to as it stands: behind a slash at
the end there would have to be a folder. -/
def endFlaw? (file : String) : Option PathFlaw :=
  let idle := Path.idleEnd file
  if file.utf8ByteSize ≥ pathLimit then some .nameTooLong
  else if idle.contains "." then some .notFolder
  else if idle ≠ [] then some .isFolder
  else none

/-- The failure of writing a file; `named` is what the reason calls the path. -/
def storeFault (file named : String) (flaw : PathFlaw) : Fault :=
  if flaw = .denied then .refusal (.permissionDenied file "write")
  else writeFault file "save" (flaw.message named)

/-- Gives a file a content. -/
def store (d : Directory) (file named : String) (content : Content) : Progress Directory :=
  match d.writeFile (Path.ofText file) content with
  | .ok d => ⟨d, none⟩
  | .error flaw => .stopped d (storeFault file named flaw)

/-- Saves a changed workbook. -/
def save (d : Directory) (file : String) (w : Workbook) : Progress Directory :=
  match endFlaw? file with
  | some flaw => .stopped d (writeFault file "save" (flaw.message file))
  | none =>
    match w.saveFlaw? with
    | some flaw =>
      (d.store file file .archive).andThen fun d =>
        .stopped d (writeFault file "save" flaw.message)
    | none => d.store file file (.workbook w.stored)

/-! ### New workbooks -/

/-- The failure of making a folder on the way to the one of a file. -/
def folderFault (file : String) (p : Path) (flaw : PathFlaw) : Fault :=
  if flaw.isOfText then .breakdown (.badPath p.text flaw)
  else if flaw = .denied then
    .refusal (.permissionDenied (Path.ofText file).parent.text "create directory")
  else writeFault file "create directory" (flaw.message p.text)

/-- A folder that could not be made is no failure if it is there. -/
def settle (file : String) (p : Path) (d : Directory) (flaw : PathFlaw) : Progress Directory :=
  if d.holdsFolder p then ⟨d, none⟩ else .stopped d (folderFault file p flaw)

/-- Makes a folder and those that are missing on the way to it. The components of its
path are given from the last one to the first. -/
def makeFolders (file : String) (d : Directory) : List String → Progress Directory
  | [] => ⟨d, none⟩
  | component :: before =>
    let p : Path := ⟨(component :: before).reverse⟩
    match d.makeFolder p with
    | .ok d => ⟨d, none⟩
    | .error .missing =>
      (makeFolders file d before).andThen fun d =>
        match d.makeFolder p with
        | .ok d => ⟨d, none⟩
        | .error flaw => settle file p d flaw
    | .error flaw => settle file p d flaw

/-- Whether a path leads to something; a name that is too long is a breakdown. -/
def isPresent (d : Directory) (p : Path) : Except Fault Bool :=
  match d.find p with
  | .ok _ => .ok true
  | .error .nameTooLong => .error (.breakdown (.badPath p.text .nameTooLong))
  | .error _ => .ok false

/-- The greatest length of the name of a new worksheet in code units of 16 bits. -/
def nameUnits : Nat := 31

/-- Why a worksheet of a new file cannot have a name. -/
def refusedName? (name : String) : Option String :=
  if Text.units16 name > nameUnits then
    some s!"Excel worksheet name '{name}' must be <= {nameUnits} chars."
  else if name.toList.head? = some '\'' ∨ name.toList.getLast? = some '\'' then
    some s!"Sheet name cannot start or end with an apostrophe \"{name}\"."
  else none

/-- Makes sure that the folder of a file is there. -/
def ensureFolder (d : Directory) (file : String) : Progress Directory :=
  let folder := (Path.ofText file).parent
  match d.isPresent folder with
  | .error f => .stopped d f
  | .ok true => ⟨d, none⟩
  | .ok false => makeFolders file d folder.components.reverse

/-- Stops unless the folder of a file may be written to. -/
def requireAccess (file : String) (d : Directory) : Progress Directory :=
  if d.isWritable (Path.ofText file).parent then ⟨d, none⟩
  else .stopped d (.refusal (.permissionDenied file "write"))

/-- Makes sure that a new file can be made. -/
def prepare (d : Directory) (file : String) : Progress Directory :=
  match d.isPresent (Path.ofText file) with
  | .error f => .stopped d f
  | .ok true => .stopped d (writeFault file "create" "File already exists")
  | .ok false => (d.ensureFolder file).andThen (requireAccess file)

/-- Creates a workbook with blank worksheets. -/
def create (d : Directory) (file : String) (names : List String) : Progress Directory :=
  (d.prepare file).andThen fun d =>
    match names.findSome? refusedName? with
    | some reason => .stopped d (writeFault file "add worksheet" reason)
    | none => d.store file (Path.ofText file).text (.fresh names)

end SheetActions.Directory
