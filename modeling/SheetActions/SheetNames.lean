import SheetActions.Payload
import SheetActions.Text.Case

/-! Names of new worksheets.

Names are given as one text with a delimiter between them; they are trimmed, and
blank ones do not count. The names are usable when there is at least one and each,
from the first on, is short enough, has no character that is reserved, and differs
from the names before it also when case is ignored. -/
namespace SheetActions.SheetNames

/-- The greatest number of characters of a name. -/
def maxLength : Nat := 31

/-- The characters that a name cannot have. -/
def reserved : List Char := ['[', ']', ':', '*', '?', '/', '\\']

/-- Why names are refused. -/
inductive Flaw where
  | noName
  | tooLong (name : String)
  | reservedCharacter (name : String)
  | repeated (name : String)
deriving DecidableEq, Repr

def Flaw.message : Flaw → String
  | .noName => "At least one worksheet name is required."
  | .tooLong name => s!"Worksheet name '{name}' is longer than {maxLength} characters."
  | .reservedCharacter name => s!"Worksheet name '{name}' contains an invalid character."
  | .repeated name => s!"Worksheet name '{name}' is given more than once."

/-- What is wrong with a name behind others, which are given in lower case. -/
def flaw? (before : List String) (name : String) : Option Flaw :=
  if name.length > maxLength then some (.tooLong name)
  else if name.toList.any reserved.contains then some (.reservedCharacter name)
  else if before.contains (Text.lower name) then some (.repeated name)
  else none

/-- The first flaw of names behind others. -/
def firstFlaw? (before : List String) : List String → Option Flaw
  | [] => none
  | name :: names =>
    (flaw? before name).or (firstFlaw? (Text.lower name :: before) names)

/-- Accepts names that are usable. -/
def check (names : List String) : Except Flaw (List String) :=
  if names.isEmpty then .error .noName
  else match firstFlaw? [] names with
    | some flaw => .error flaw
    | none => .ok names

/-- The trimmed names of a text that are not blank. -/
def split (delimiter text : String) : Except Fault (List String) :=
  (Payload.split delimiter text).map fun pieces =>
    (pieces.map Text.trim).filter fun name => !name.isEmpty

/-- The names of a text, if they are usable. -/
def parse (delimiter text : String) : Except Fault (List String) := do
  let names ← split delimiter text
  match check names with
  | .ok names => return names
  | .error flaw => throw (.refusal (.input flaw.message "worksheet_names"))

end SheetActions.SheetNames
