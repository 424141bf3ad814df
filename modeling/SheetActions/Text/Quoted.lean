import SheetActions.Text.Units
import SheetActions.Text.Unprintable

/-! Quoted texts, as error messages show them.

A text is quoted with apostrophes, unless it holds an apostrophe and no double
quote: then with double quotes. Inside, the quote in use and the backslash are
written behind a backslash; newline, carriage return and tab have a letter; any
other unprintable character is written by its code point in two, four or eight
lower-case hexadecimal digits, and so is a surrogate without its partner. -/
namespace SheetActions.Text

/-- The lower-case hexadecimal digits of a number, at least `width` of them. -/
def hexDigits (width n : Nat) : List Char :=
  let digits := Nat.toDigits 16 n
  List.replicate (width - digits.length) '0' ++ digits

/-- The quote for a text: an apostrophe where possible. -/
def quoteFor (l : List Char) : Char :=
  if l.contains '\'' && !l.contains '"' then '"' else '\''

/-- How a surrogate is written. -/
def escapeUnit (n : Nat) : List Char :=
  '\\' :: 'u' :: hexDigits 4 n

/-- How a character is written between the given quotes. -/
def escapeChar (quote c : Char) : List Char :=
  if let some n := surrogate? c then escapeUnit n
  else if c = quote ∨ c = '\\' then ['\\', c]
  else if c = '\n' then ['\\', 'n']
  else if c = '\r' then ['\\', 'r']
  else if c = '\t' then ['\\', 't']
  else if !isUnprintable c then [c]
  else if c.toNat < 0x100 then '\\' :: 'x' :: hexDigits 2 c.toNat
  else if c.toNat < 0x10000 then '\\' :: 'u' :: hexDigits 4 c.toNat
  else '\\' :: 'U' :: hexDigits 8 c.toNat

/-- The text between quotes, with escapes. -/
def quoted (s : String) : String :=
  let q := quoteFor s.toList
  String.ofList (q :: (s.toList.flatMap (escapeChar q) ++ [q]))

end SheetActions.Text
