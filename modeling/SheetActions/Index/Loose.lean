import SheetActions.Fault
import SheetActions.Fault.Misuse
import SheetActions.Form
import SheetActions.Json.Shown
import SheetActions.Number.Arithmetic

/-! Index sets asked with values of any kind.

A truth value counts as its number. A position has to be a whole number that a
machine can hold. Indices can be moved by a floating-point number; the sums are then
checked like the items of any other list. -/
namespace SheetActions.IndexSet

/-- What a position that is given as a value comes to. -/
inductive Lookup where
  | found (index : Nat)
  | outside (b : Breakdown)
  | misused (m : Misuse)

/-- The index at a position that need not be one that a machine can hold. -/
def lookupInt (t : IndexSet) (position : Int) : Lookup :=
  if position < -Form.wordBound ∨ Form.wordBound ≤ position then .misused .positionTooLarge
  else match t.at? position with
    | some i => .found i
    | none => .outside .positionOutOfRange

/-- The index at a position that is given as a value. -/
def lookup (t : IndexSet) : Json → Lookup
  | .integer n => t.lookupInt n
  | .boolean b => t.lookupInt (if b then 1 else 0)
  | j => .misused (.positionOfKind j.kindName)

/-- The sum of an index and a value. -/
def sum (i : Nat) : Json → Except Misuse Json
  | .integer n => .ok (.integer (i + n))
  | .boolean b => .ok (.integer (i + if b then 1 else 0))
  | .float x =>
    let y := Binary64.ofInt i
    if y.isFinite then .ok (.float (y.add x)) else .error .integerTooLarge
  | j => .error (.addendOfKind j.kindName)

/-- Every index moved by a value. -/
def shiftByValue (t : IndexSet) (delta : Json) : Except Misuse (Checked IndexSet) := do
  let sums ← t.toList.mapM (sum · delta)
  return Form.indexSet sums

end SheetActions.IndexSet
