import SheetActions.Number.Binary64

/-! Decimals and how they are laid out.

A decimal is a natural number times a power of ten. It is written positionally
when the exponent of its leading digit is at least -4 and below 16, and otherwise
with one digit before the point and a signed exponent of at least two digits.
Trailing zeros are never written, except that a `Layout` may ask for `.0` behind
an integer. -/
namespace SheetActions

/-- The value `digits * 10 ^ exponent`. -/
structure Decimal where
  digits : Nat
  exponent : Int
deriving DecidableEq, Repr

namespace Decimal

/-- Moves the factors ten of the digits into the exponent. -/
def stripZeros (d : Decimal) : Decimal :=
  let l := Nat.toDigits 10 d.digits
  let zeros := (l.reverse.takeWhile (· = '0')).length
  if d.digits = 0 then ⟨0, 0⟩ else ⟨d.digits / Nat.pow 10 zeros, d.exponent + zeros⟩

/-- The exponent mark, the sign and at least two digits. -/
def exponentText (e : Int) : List Char :=
  let digits := Nat.toDigits 10 e.natAbs
  'e' :: (if e < 0 then '-' else '+') :: (List.replicate (2 - digits.length) '0' ++ digits)

/-- The text of a decimal; `pointZero` asks for `.0` behind an integer that is written
positionally. -/
def layout (pointZero : Bool) (d : Decimal) : List Char :=
  let d := d.stripZeros
  let l := Nat.toDigits 10 d.digits
  let leading : Int := d.exponent + l.length - 1
  if -4 ≤ leading ∧ leading < 16 then
    if 0 ≤ d.exponent then
      l ++ List.replicate d.exponent.toNat '0' ++ (if pointZero then ['.', '0'] else [])
    else if leading < 0 then
      '0' :: '.' :: (List.replicate (-leading - 1).toNat '0' ++ l)
    else l.take (leading.toNat + 1) ++ '.' :: l.drop (leading.toNat + 1)
  else
    l.take 1 ++ (if l.length = 1 then [] else '.' :: l.drop 1) ++ exponentText leading

end Decimal

namespace Binary64

/-- The exact value of a finite number as numerator and denominator. -/
def ratio (m : Nat) (e : Int) : Nat × Nat :=
  (m * Nat.pow 2 e.toNat, Nat.pow 2 (-e).toNat)

/-- The least `k` with `num / den < 10 ^ k`, for a positive quotient. -/
def decimalScale (num den : Nat) : Int :=
  let k : Int := (Nat.toDigits 10 num).length - (Nat.toDigits 10 den).length
  if num * Nat.pow 10 (-k).toNat < den * Nat.pow 10 k.toNat then k else k + 1

/-- `num / den / 10 ^ e` as numerator and denominator. -/
def onGrid (num den : Nat) (e : Int) : Nat × Nat :=
  (num * Nat.pow 10 (-e).toNat, den * Nat.pow 10 e.toNat)

/-! ### A fixed number of significant digits -/

/-- The positive value rounded to `n` significant digits, a tie to the even digit. -/
def significant (n : Nat) (m : Nat) (e : Int) : Decimal :=
  let (num, den) := ratio m e
  let grid := decimalScale num den - n
  let (a, b) := onGrid num den grid
  ⟨roundQuotient a b, grid⟩

/-! ### The fewest digits that read back -/

/-- Whether reading a decimal gives the number `m * 2 ^ e`. -/
def readsBack (m : Nat) (e : Int) (d : Decimal) : Bool :=
  ofDecimal false d.digits d.exponent = .finite false m e

/-- The decimal of `n` significant digits that reads back as `m * 2 ^ e`: of the two
neighbours of the value on that grid the one that does, the nearer one if both
do, and of two equally near ones the even one. -/
def shortest? (m : Nat) (e : Int) (n : Nat) : Option Decimal :=
  let (num, den) := ratio m e
  let grid := decimalScale num den - n
  let (a, b) := onGrid num den grid
  let nearest : Decimal := ⟨roundQuotient a b, grid⟩
  let below : Decimal := ⟨a / b, grid⟩
  let above : Decimal := ⟨a / b + 1, grid⟩
  if readsBack m e nearest then some nearest
  else if readsBack m e below then some below
  else if readsBack m e above then some above
  else none

/-- The decimal with the fewest digits that reads back; seventeen always suffice. -/
def shortest (m : Nat) (e : Int) : Decimal :=
  ((List.range' 1 16).findSome? (shortest? m e)).getD (significant 17 m e)

/-! ### Texts -/

/-- The text of a number, given how to choose the decimal of a positive one. -/
def textWith (pointZero : Bool) (choose : Nat → Int → Decimal) : Binary64 → String
  | .nan => "nan"
  | .infinity negative => if negative then "-inf" else "inf"
  | .finite negative m e =>
    let d := if m = 0 then ⟨0, 0⟩ else choose m e
    String.ofList ((if negative then ['-'] else []) ++ d.layout pointZero)

/-- The text that identifies the number: the fewest digits that read back. -/
def text : Binary64 → String :=
  textWith true shortest

/-- The text that a workbook file holds: sixteen significant digits. -/
def storedText : Binary64 → String :=
  textWith false (significant 16)

end Binary64

end SheetActions
