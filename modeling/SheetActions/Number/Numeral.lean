import SheetActions.Number.Compare

/-! Decimal numerals.

An integer numeral is an optional sign and ASCII digits. A decimal numeral may
have a point, with digits on at least one side, and an exponent. A single line
feed may follow either. Any text is one of the two or no numeral. -/
namespace SheetActions

/-- A numeral, taken apart. -/
inductive Numeral where
  /-- A sign and digits. -/
  | integer (negative : Bool) (digits : List Char)
  /-- A sign, digits, and the power of ten that they are multiplied by. -/
  | decimal (negative : Bool) (digits : List Char) (exponent : Int)
deriving DecidableEq, Repr

/-- The natural number written by decimal digits. -/
def natOfDigits (l : List Char) : Nat :=
  Nat.ofDigitChars 10 l 0

namespace Numeral

/-- Takes a sign off the front; without one the text is not negative. -/
def splitSign : List Char → Bool × List Char
  | '+' :: r => (false, r)
  | '-' :: r => (true, r)
  | l => (false, l)

/-- The text without a line feed at its end. -/
def dropFinalNewline (l : List Char) : List Char :=
  if l.getLast? = some '\n' then l.dropLast else l

/-- The exponent part of a decimal numeral: nothing, or `e` and an integer. -/
def exponent? : List Char → Option Int
  | [] => some 0
  | c :: r =>
    let (negative, digits) := splitSign r
    if (c = 'e' ∨ c = 'E') ∧ digits ≠ [] ∧ digits.all Char.isDigit then
      some (if negative then -(natOfDigits digits : Int) else natOfDigits digits)
    else none

/-- What follows the digits before the point: the digits behind it, and the rest. -/
def fraction : List Char → List Char × List Char
  | '.' :: r => (r.takeWhile Char.isDigit, r.dropWhile Char.isDigit)
  | l => ([], l)

/-- Reads a numeral that is the whole text, but for a line feed at its end. -/
def read? (l : List Char) : Option Numeral :=
  let (negative, r) := splitSign (dropFinalNewline l)
  let whole := r.takeWhile Char.isDigit
  let rest := r.dropWhile Char.isDigit
  if rest.isEmpty then
    if whole.isEmpty then none else some (.integer negative whole)
  else
    let (part, rest) := fraction rest
    if whole.isEmpty && part.isEmpty then none
    else (exponent? rest).map fun e => .decimal negative (whole ++ part) (e - part.length)

/-- The longest integer numeral that is accepted, counted in digits. -/
def digitLimit : Nat := 4300

/-- The number that a numeral denotes. -/
def value : Numeral → Number
  | .integer negative digits =>
    .integer (if negative then -(natOfDigits digits : Int) else natOfDigits digits)
  | .decimal negative digits exponent =>
    .float (Binary64.ofDecimal negative (natOfDigits digits) exponent)

end Numeral

end SheetActions
