import SheetActions.Files.Flaw
import SheetActions.Files.Path
import SheetActions.Workbook.Basic

/-! Directories of files.

A directory is seen through `node?`, which says what is at a place: a folder, a file
or nothing. A place is a list of names from the current directory down; the current
directory and those above it are always there. A path leads to a place by way of
folders (`resolve`), and it can fail to, for one of the causes in `PathFlaw`. What is
put at a place changes no other place (`node?_put`).

Some places may be read but not written to (`isReadOnly`): a file there cannot be
changed, and nothing can be added to a folder there. What is new can be written to. -/
namespace SheetActions

/-- The content of a file. -/
inductive Content where
  | workbook (w : Workbook)
  /-- A new workbook, known by the names of its worksheets. -/
  | fresh (names : List String)
  /-- An archive that holds no workbook. -/
  | archive
  | text (s : String)

/-- What can be at a place. -/
inductive Node where
  | folder
  | file (content : Content)

/-- The names on the way down from the current directory. -/
abbrev Place := List String

structure Directory where
  entries : List (Place × Node)
  /-- The places that must not be written to. -/
  readOnly : List Place

namespace Directory

def empty : Directory := ⟨[], []⟩

instance : EmptyCollection Directory := ⟨empty⟩

instance : Inhabited Directory := ⟨empty⟩

/-- The folders that are at the top of every file system. -/
def topFolders : List String :=
  ["bin", "boot", "dev", "etc", "home", "lib", "media", "mnt", "opt", "root", "run", "sbin", "srv",
    "tmp", "usr", "var"]

/-- Whether a place is one of the folders at the top. -/
def isTopFolder : Place → Bool
  | [top, name] => Path.isRoot top && topFolders.contains name
  | _ => false

/-- Whether a place is the current directory, one above it, the top, or a folder that is
always there. -/
def isGiven (p : Place) : Bool :=
  (p.all fun c => c = Path.up || Path.isRoot c) || isTopFolder p

/-- What is at a place. -/
def node? (d : Directory) (p : Place) : Option Node :=
  if isGiven p then some .folder else (d.entries.find? (·.1 = p)).map (·.2)

/-- The names of what was put directly into the current directory. -/
def names (d : Directory) : List String :=
  d.entries.filterMap fun e =>
    match e.1 with
    | [name] => some name
    | _ => none

/-- Whether a place must not be written to. -/
def isReadOnly (d : Directory) (p : Place) : Bool :=
  d.readOnly.contains p

/-- Puts a node at a place. -/
def put (d : Directory) (p : Place) (n : Node) : Directory :=
  ⟨(p, n) :: d.entries.filter (·.1 ≠ p), d.readOnly.filter (· ≠ p)⟩

theorem node?_put (d : Directory) (p : Place) (n : Node) (q : Place) :
    (d.put p n).node? q = if q = p ∧ ¬ isGiven q then some n else d.node? q := by
  simp only [node?, put]
  by_cases hg : isGiven q
  · simp [hg]
  · by_cases hq : q = p
    · subst hq
      simp [hg]
    · have hp : ¬ p = q := fun h => hq h.symm
      simp only [hg, hq, List.find?_cons, hp, decide_false, List.find?_filter, false_and, if_false]
      congr 3
      funext e
      by_cases he : e.1 = q
      · simp [he, hq]
      · simp [he]

theorem isReadOnly_put (d : Directory) (p : Place) (n : Node) (q : Place) :
    (d.put p n).isReadOnly q = (d.isReadOnly q && q ≠ p) := by
  rw [Bool.eq_iff_iff]
  simp [isReadOnly, put]

/-! ### Following a path -/

/-- The greatest number of bytes of a component, and the number of bytes that a whole
path must stay below. -/
def componentLimit : Nat := 255

def pathLimit : Nat := 4096

/-- The place one component further on. -/
def advance (here : Place) (component : String) : Except PathFlaw Place :=
  if Path.isRoot component then .ok [component]
  else if component = Path.up then
    match here.getLast? with
    | none => .ok [Path.up]
    | some last =>
      if last = Path.up then .ok (here ++ [Path.up])
      else if Path.isRoot last then .ok here
      else .ok here.dropLast
  else if component.utf8ByteSize > componentLimit then .error .nameTooLong
  else .ok (here ++ [component])

/-- The folder one component further on. -/
def enter (d : Directory) (here : Place) (component : String) : Except PathFlaw Place := do
  let place ← advance here component
  match d.node? place with
  | some .folder => return place
  | some (.file _) => throw .notFolder
  | none => throw .missing

/-- The place that a path leads to by way of folders; nothing needs to be there. -/
def resolve (d : Directory) (p : Path) : Except PathFlaw Place :=
  match PathFlaw.ofText? p.text with
  | some flaw => .error flaw
  | none =>
    if p.text.utf8ByteSize ≥ pathLimit then .error .nameTooLong
    else match p.components.getLast? with
      | none => .ok []
      | some last => do
        let folder ← p.components.dropLast.foldlM d.enter []
        advance folder last

/-- What a path leads to, with its place. -/
def find (d : Directory) (p : Path) : Except PathFlaw (Place × Node) := do
  let place ← d.resolve p
  match d.node? place with
  | some n => return (place, n)
  | none => throw .missing

/-- Whether a path leads to something. -/
def holds (d : Directory) (p : Path) : Bool :=
  (d.find p).toOption.isSome

/-- Whether a path leads to a folder. -/
def holdsFolder (d : Directory) (p : Path) : Bool :=
  match d.find p with
  | .ok (_, .folder) => true
  | _ => false

/-- Whether a name leads to something: behind a slash at its end there has to be a folder.
Only the path has to be short enough, not what stands for nothing in the name. -/
def holdsName (d : Directory) (name : String) : Bool :=
  let p := Path.ofText name
  if (Path.idleEnd name).isEmpty then d.holds p else d.holdsFolder p

/-- Whether a path leads to something that may be written to. -/
def isWritable (d : Directory) (p : Path) : Bool :=
  match d.find p with
  | .ok (place, _) => !d.isReadOnly place
  | .error _ => false

/-! ### Changing a directory -/

/-- Puts a node where nothing is, which adds a name to the folder. -/
def add (d : Directory) (place : Place) (n : Node) : Except PathFlaw Directory :=
  if d.isReadOnly place.dropLast then .error .denied else .ok (d.put place n)

/-- Makes a folder where nothing is. -/
def makeFolder (d : Directory) (p : Path) : Except PathFlaw Directory := do
  let place ← d.resolve p
  if (d.node? place).isSome then throw .occupied
  d.add place .folder

/-- Writes a file, in the place of the one that may be there. -/
def writeFile (d : Directory) (p : Path) (content : Content) : Except PathFlaw Directory := do
  let place ← d.resolve p
  match d.node? place with
  | some .folder => throw .isFolder
  | some (.file _) =>
    if d.isReadOnly place then throw .denied
    return d.put place (.file content)
  | none => d.add place (.file content)

end Directory

end SheetActions
