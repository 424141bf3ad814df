import SheetActions.Cell.Coercion

/-! Conditions on a cell.

A condition compares a cell with a given value. Where both are numbers, or texts
that are numerals, they are compared as numbers, exactly. Otherwise the trimmed
texts are equal or they are not, and no ordering holds between them. -/
namespace SheetActions

inductive Comparison where
  | equal
  | notEqual
  | less
  | lessOrEqual
  | greater
  | greaterOrEqual
deriving DecidableEq, Repr

namespace Comparison

def symbol : Comparison → String
  | .equal => "=="
  | .notEqual => "!="
  | .less => "<"
  | .lessOrEqual => "<="
  | .greater => ">"
  | .greaterOrEqual => ">="

def all : List Comparison :=
  [.equal, .notEqual, .less, .lessOrEqual, .greater, .greaterOrEqual]

def ofSymbol? (s : String) : Option Comparison :=
  all.find? (·.symbol = s)

theorem ofSymbol?_symbol (c : Comparison) : ofSymbol? c.symbol = some c := by
  cases c <;> rfl

/-- Whether the comparison is about order, and not only about equality. -/
def isOrdering : Comparison → Bool
  | .equal | .notEqual => false
  | _ => true

/-- Whether the comparison holds between numbers in the given order. Where there is no
order, because one of them is not a number, they are unequal and that is all. -/
def holds : Comparison → Option Ordering → Bool
  | .notEqual, none => true
  | _, none => false
  | .equal, some o => o = .eq
  | .notEqual, some o => o ≠ .eq
  | .less, some o => o = .lt
  | .lessOrEqual, some o => o ≠ .gt
  | .greater, some o => o = .gt
  | .greaterOrEqual, some o => o ≠ .lt

/-- Whether the comparison holds between two texts. -/
def holdsText (c : Comparison) (a b : String) : Bool :=
  match c with
  | .equal => a = b
  | .notEqual => a ≠ b
  | _ => false

end Comparison

/-- The value that cells are compared with. -/
structure Criterion where
  /-- The trimmed text. -/
  text : String
  /-- The number that the text denotes, if it is a numeral. -/
  number? : Option Number

namespace Criterion

def ofText (value : String) : Except Fault Criterion := do
  let text := Text.trim value
  let number ← numberOf text
  return ⟨text, number⟩

/-- The number that a cell holds or that its text denotes. -/
def cellNumber (cell : Option Value) : Except Fault (Option Number) :=
  match cell.bind Value.number? with
  | some n => .ok (some n)
  | none => numberOf (Text.trim (renderCell cell))

/-- Whether a cell satisfies the condition. -/
def admits (k : Criterion) (c : Comparison) (cell : Option Value) : Except Fault Bool := do
  let number ← cellNumber cell
  match number, k.number? with
  | some a, some b => return c.holds (a.compare? b)
  | _, _ => return c.holdsText (Text.trim (renderCell cell)) k.text

end Criterion

end SheetActions
