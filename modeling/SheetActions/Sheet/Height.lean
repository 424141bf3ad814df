import SheetActions.Fault.Misuse
import SheetActions.Json.Basic
import SheetActions.Number.Numeral
import SheetActions.Text.Blank

/-! Row heights that are given as values of any kind.

A height is a number, a truth value that counts as its number, or a text that is a
numeral, which may have underscores between its digits; null takes the height away. -/
namespace SheetActions.Sheet

/-- The words for numbers that are not finite, in lower case. -/
def unboundedWords : List (String × Binary64) :=
  [("inf", .infinity false), ("infinity", .infinity false), ("nan", .nan)]

/-- The number for a word that may have a sign. -/
def unbounded? (l : List Char) : Option Binary64 :=
  let (negative, word) := Numeral.splitSign l
  (unboundedWords.lookup (String.ofList (word.map Char.toLower))).map fun
    | .infinity _ => .infinity negative
    | x => x

/-- The text without the underscores between digits; there may be no others. -/
def joinDigits? : List Char → Option (List Char)
  | c :: '_' :: d :: r =>
    if c.isDigit && d.isDigit then (joinDigits? (d :: r)).map (c :: ·) else none
  | '_' :: _ => none
  | c :: r => (joinDigits? r).map (c :: ·)
  | [] => some []

/-- The number for a text, which may have blanks around it. -/
def heightOfText (s : String) : Except Misuse Binary64 :=
  let l := Text.trimBy Text.isBlank s.toList
  match ((joinDigits? l).bind Numeral.read?).map Numeral.value, unbounded? l with
  | some (.integer n), _ => .ok (Binary64.ofInt n)
  | some (.float x), _ => .ok x
  | none, some x => .ok x
  | none, none => .error .heightOfKind

/-- The height that a value stands for. -/
def heightOf : Json → Except Misuse (Option Binary64)
  | .null => .ok none
  | .boolean b => .ok (some (Binary64.ofInt (if b then 1 else 0)))
  | .integer n =>
    let x := Binary64.ofInt n
    if x.isFinite then .ok (some x) else .error .heightOfKind
  | .float x => .ok (some x)
  | .text s => (heightOfText s).map some
  | _ => .error .heightOfKind

end SheetActions.Sheet
