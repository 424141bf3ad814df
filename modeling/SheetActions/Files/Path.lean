import SheetActions.Text.Case
import SheetActions.Text.Split

/-! Paths of files.

A path is a list of components. In its text they have slashes between them; empty
components and `.` stand for nothing and are dropped, so a slash at the end does
not count. `..` is kept, since what it leads to depends on the directories. A text
that starts with a slash has the slash as its first component. -/
namespace SheetActions

structure Path where
  components : List String
deriving DecidableEq, Repr

namespace Path

/-- The component for the directory that is above a component. -/
def up : String := ".."

/-- The component that a path from the top starts with, if the text does: one slash,
or two if there are exactly two. -/
def root? (l : List Char) : Option String :=
  match (l.takeWhile (· = '/')).length with
  | 0 => none
  | 2 => some "//"
  | _ => some "/"

/-- Whether a component is where a path from the top starts. -/
def isRoot (component : String) : Bool :=
  component = "/" || component = "//"

/-- The texts between the slashes. -/
def parts (s : String) : List String :=
  (Text.pieces ['/'] s.toList).map String.ofList

/-- Whether a text between slashes stands for nothing. -/
def isIdle (part : String) : Bool :=
  part = "" || part = "."

def ofText (s : String) : Path :=
  ⟨(root? s.toList).toList ++ (parts s).filter fun part => !isIdle part⟩

/-- The components with slashes between them; the path without components is `.`. -/
def text (p : Path) : String :=
  match p.components with
  | [] => "."
  | c :: rest => if isRoot c then c ++ "/".intercalate rest else "/".intercalate (c :: rest)

/-- The path of the directory that holds what the path names. -/
def parent (p : Path) : Path :=
  match p.components with
  | [c] => if isRoot c then p else ⟨[]⟩
  | l => ⟨l.dropLast⟩

/-- The last component. -/
def name (p : Path) : String :=
  match p.components.getLast? with
  | some c => if isRoot c then "" else c
  | none => ""

/-- The part of a name from its last point on, unless the point is the first or the last
character. -/
def suffixOf (l : List Char) : List Char :=
  let behind := l.reverse.takeWhile (· ≠ '.')
  if behind = [] ∨ l.length ≤ behind.length + 1 then [] else '.' :: behind.reverse

/-- The suffix of the last component, with its point. -/
def suffix (p : Path) : String :=
  String.ofList (suffixOf p.name.toList)

/-- The suffix in lower case. -/
def suffixClass (p : Path) : String :=
  Text.lower p.suffix

/-- Whether the last component has nothing but points in front of its suffix. -/
def isBareSuffix (p : Path) : Bool :=
  (p.name.toList.take (p.name.length - p.suffix.length)).all (· = '.')

/-- The path without `..`, which takes the component before it away whatever that leads to;
only at the front of a path that does not start from the top does it stay. -/
def normalized (p : Path) : Path :=
  ⟨p.components.foldl (fun done c =>
    if c ≠ up then done ++ [c]
    else match done.getLast? with
      | none => [up]
      | some last =>
        if last = up then done ++ [up] else if isRoot last then done else done.dropLast) []⟩

/-- The parts of a text that stand for nothing and are behind all that do not. -/
def idleEnd (s : String) : List String :=
  (parts s).reverse.takeWhile isIdle

end Path

end SheetActions
