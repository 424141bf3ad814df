import SheetActions.Text.Units

/-! Characters written by their codes.

In the texts of a workbook a character can be written as `_x`, the four hexadecimal
digits of its code, and `_`. Readers put the characters back, from left to right; what
comes of one code is no part of another. -/
namespace SheetActions.Text

/-- The character of a code. -/
def ofCode? (a b c d : Char) : Option Char := do
  let a ← hexValue? a
  let b ← hexValue? b
  let c ← hexValue? c
  let d ← hexValue? d
  let code := ((a * 16 + b) * 16 + c) * 16 + d
  if isHighSurrogate code || isLowSurrogate code then none else some (Char.ofNat code)

/-- Puts back the characters that are written by their codes. -/
def decodeCoded : List Char → List Char
  | '_' :: 'x' :: a :: b :: c :: d :: '_' :: r =>
    match ofCode? a b c d with
    | some ch => ch :: decodeCoded r
    | none => '_' :: decodeCoded ('x' :: a :: b :: c :: d :: '_' :: r)
  | c :: r => c :: decodeCoded r
  | [] => []

end SheetActions.Text
