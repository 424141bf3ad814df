import SheetActions.Number.Numeral
import SheetActions.Text.Blank

/-! Whole numbers as people write them.

A plain whole number is an optional minus and digits, with no zero in front of other
digits. Beside plain ones a reader accepts white space around the number, a plus,
zeros in front, single underscores between digits and a fraction of zeros; all of
these are taken away first (`tidied?`), and what is left has to be plain. A text that
starts with too many digits is refused as too long, whatever follows them. -/
namespace SheetActions.WholeText

/-- Why a text is not read as a whole number. -/
inductive Flaw where
  | unreadable
  | tooLong
deriving DecidableEq, Repr

/-- Takes a minus off the front. -/
def splitMinus : List Char → Bool × List Char
  | '-' :: r => (true, r)
  | l => (false, l)

/-- A plain whole number. -/
def plain? (l : List Char) : Option Int :=
  let (negative, digits) := splitMinus l
  if digits.isEmpty || !digits.all Char.isDigit then none
  else if digits.head? = some '0' ∧ digits.length > 1 then none
  else some (if negative then -(natOfDigits digits : Int) else natOfDigits digits)

/-- Whether a text starts with more digits than are accepted; a minus counts as one. -/
def startsTooLong (l : List Char) : Bool :=
  let (negative, r) := splitMinus l
  let digits := r.takeWhile Char.isDigit
  digits.head? ≠ some '0'
    && (if negative then 1 else 0) + digits.length > Numeral.digitLimit

/-- Whether a character can stand between a zero in front and the number. -/
def isFiller (c : Char) : Bool :=
  c = '0' || c = '_'

/-- Drops the zeros at the front of a numeral and the underscores among them, but for the
last of them where it stands for the whole part. -/
def dropZeros : List Char → Option (List Char)
  | '0' :: r =>
    let last := (r.takeWhile isFiller).getLast?.getD '0'
    match r.dropWhile isFiller with
    | [] => some [last]
    | '.' :: r => some (last :: '.' :: r)
    | c :: r => if c.isDigit || c = '-' then some (c :: r) else none
  | c :: r => if c.isDigit then some (c :: r) else none
  | [] => none

/-- Drops the zeros at the front, behind a minus if there is one. -/
def dropSignedZeros : List Char → Option (List Char)
  | '-' :: r => (dropZeros r).map ('-' :: ·)
  | l => dropZeros l

/-- Drops a plus; a minus cannot follow it. -/
def dropPlus : List Char → Option (List Char)
  | '+' :: '-' :: _ => none
  | '+' :: r => some r
  | l => some l

/-- Drops a point and the zeros behind it, if nothing else follows. -/
def dropFraction (l : List Char) : List Char :=
  match l.dropWhile (· ≠ '.') with
  | '.' :: zeros =>
    if zeros ≠ [] ∧ zeros.all (· = '0') then l.takeWhile (· ≠ '.') else l
  | _ => l

/-- Drops the underscores; none may be at an end or beside another. -/
def dropUnderscores (l : List Char) : Option (List Char) :=
  if l.head? = some '_' ∨ l.getLast? = some '_'
      ∨ (l.zip (l.drop 1)).any (fun p => p.1 = '_' && p.2 = '_') then none
  else some (l.filter (· ≠ '_'))

/-- The text without what a plain whole number does not have. -/
def tidied? (l : List Char) : Option (List Char) := do
  let l ← dropPlus (Text.trimBy Text.isWhiteSpace l)
  let l ← dropSignedZeros l
  dropUnderscores (dropFraction l)

/-- The whole number that a text writes. -/
def read (s : String) : Except Flaw Int :=
  let l := s.toList
  if startsTooLong l then .error .tooLong
  else match plain? l with
    | some n => .ok n
    | none =>
      match tidied? l with
      | none => .error .unreadable
      | some l =>
        if l.length > Numeral.digitLimit then .error .unreadable
        else match plain? l with
          | some n => .ok n
          | none => .error .unreadable

end SheetActions.WholeText
