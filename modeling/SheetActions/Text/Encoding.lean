import SheetActions.Text.Quoted

/-! Texts that are to be written in UTF-8.

UTF-8 has no bytes for surrogates, so a text that holds some without their partners cannot be
written. The flaw that is reported is the first run of them. -/
namespace SheetActions.Text

/-- Surrogates in a row, with the position of the first one. -/
structure SurrogateRun where
  start : Nat
  units : List Nat
deriving DecidableEq, Repr

/-- The run of characters with their positions, if there are surrogates among them. -/
def runOf? (l : List (Char × Nat)) : Option SurrogateRun :=
  match l.filterMap fun a => (surrogate? a.1).map (a.2, ·) with
  | [] => none
  | first :: rest => some ⟨first.1, first.2 :: rest.map (·.2)⟩

/-- The runs of surrogates in a text, from the first one on. -/
def surrogateRuns (s : String) : List SurrogateRun :=
  (s.toList.zipIdx.splitBy fun a b =>
    (surrogate? a.1).isSome == (surrogate? b.1).isSome).filterMap runOf?

namespace SurrogateRun

/-- The class of the error that a run causes. -/
def label : String := "UnicodeEncodeError"

/-- What cannot be written, and where it is. -/
def place (r : SurrogateRun) : String :=
  match r.units with
  | [n] => "character '" ++ String.ofList (escapeUnit n) ++ "' in position " ++ toString r.start
  | units =>
    "characters in position " ++ toString r.start ++ "-" ++ toString (r.start + units.length - 1)

def message (r : SurrogateRun) : String :=
  "'utf-8' codec can't encode " ++ r.place ++ ": surrogates not allowed"

/-- Whether a path can hold the run: the units from U+DC80 to U+DCFF stand for bytes there. -/
def fitsPath (r : SurrogateRun) : Bool :=
  r.units.all fun n => 0xDC80 ≤ n && n ≤ 0xDCFF

end SurrogateRun

end SheetActions.Text
