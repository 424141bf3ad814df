import SheetActions.Number.Binary64

/-! Exact comparison of integers and floating-point numbers.

An integer and a floating-point number are compared as the real numbers that they
are, without rounding either. A value that is not a number compares with nothing. -/
namespace SheetActions

/-- A number in a cell or in a condition. -/
inductive Number where
  | integer (n : Int)
  | float (x : Binary64)
deriving DecidableEq, Repr

namespace Number

/-- Compares `m * 2 ^ e` with `n * 2 ^ f`. -/
def compareScaled (m : Int) (e : Int) (n : Int) (f : Int) : Ordering :=
  let low := min e f
  compare (m * Nat.pow 2 (e - low).toNat) (n * Nat.pow 2 (f - low).toNat)

/-- A number on the extended real line: an infinity, or an integer times a power of two. -/
inductive Extended where
  | least
  | scaled (m : Int) (e : Int)
  | greatest

/-- Where a number stands on the extended real line. -/
def extended? : Number → Option Extended
  | .integer n => some (.scaled n 0)
  | .float (.finite negative m e) => some (.scaled (if negative then -m else m) e)
  | .float (.infinity true) => some .least
  | .float (.infinity false) => some .greatest
  | .float .nan => none

def Extended.compare : Extended → Extended → Ordering
  | .least, .least | .greatest, .greatest => .eq
  | .least, _ | _, .greatest => .lt
  | _, .least | .greatest, _ => .gt
  | .scaled m e, .scaled n f => compareScaled m e n f

/-- The order of two numbers, unless one of them is not a number. -/
def compare? (a b : Number) : Option Ordering :=
  match a.extended?, b.extended? with
  | some x, some y => some (x.compare y)
  | _, _ => none

end Number

end SheetActions
