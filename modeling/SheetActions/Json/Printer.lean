import SheetActions.Json.Basic
import SheetActions.Number.Layout
import SheetActions.Text.Quoted

/-! Printing JSON.

Values are printed on one line without spaces. In a string the quote, the
backslash and the control characters are escaped; every other character stands
for itself. Surrogates without their partners are escaped only where it is asked for. -/
namespace SheetActions.Json

/-- The letters of the control characters that have one. -/
def controlLetter? : Char → Option Char
  | '\x08' => some 'b'
  | '\x0c' => some 'f'
  | '\n' => some 'n'
  | '\r' => some 'r'
  | '\t' => some 't'
  | _ => none

def escapeChar (c : Char) : List Char :=
  if c = '"' ∨ c = '\\' then ['\\', c]
  else if let some letter := controlLetter? c then ['\\', letter]
  else if c.toNat < 0x20 then Text.escapeUnit c.toNat
  else [c]

/-- Escapes surrogates too. -/
def escapeAll (c : Char) : List Char :=
  match Text.surrogate? c with
  | some n => Text.escapeUnit n
  | none => escapeChar c

def stringText (escape : Char → List Char) (s : String) : String :=
  String.ofList ('"' :: (s.toList.flatMap escape ++ ['"']))

def floatText : Binary64 → String
  | .nan => "NaN"
  | .infinity negative => if negative then "-Infinity" else "Infinity"
  | x => x.text

section
variable (escape : Char → List Char)

mutual

def printWith : Json → String
  | .null => "null"
  | .boolean b => if b then "true" else "false"
  | .integer n => toString n
  | .float x => floatText x
  | .text s => stringText escape s
  | .array items => "[" ++ ",".intercalate (printItems items) ++ "]"
  | .object fields => "\x7b" ++ ",".intercalate (printFields fields) ++ "\x7d"

def printItems : List Json → List String
  | [] => []
  | item :: items => item.printWith :: printItems items

def printFields : List (String × Json) → List String
  | [] => []
  | (name, value) :: fields =>
    (stringText escape name ++ ":" ++ value.printWith) :: printFields fields

end

end

/-- A text of a value that can be written in UTF-8. -/
def print : Json → String := printWith escapeAll

/-- The text of a value in which surrogates stand for themselves. -/
def sent : Json → String := printWith escapeChar

end SheetActions.Json
