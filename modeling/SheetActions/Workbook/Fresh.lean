import SheetActions.Text.Case
import SheetActions.Text.Markup
import SheetActions.Workbook.Basic

/-! Workbooks as they are created.

A new workbook has blank worksheets only. Its file writes their names as given, on one
line of markup, so a reader sees them as they are. The program that changes files takes
a tab or a carriage return in a name for a space, and sees a number behind a name that
this makes equal to an earlier one; it refuses the whole file when a name holds a
character that markup cannot hold. -/
namespace SheetActions.Fresh

/-! ### Names that differ -/

/-- The digits behind each occurrence of a name in a text, from left to right and without
overlap; `skip` characters of one that was just found are still to be passed over. -/
def digitsBehind (name : List Char) : Nat → List Char → List (List Char)
  | _, [] => []
  | skip + 1, _ :: r => digitsBehind name skip r
  | 0, c :: r =>
    match name.isPrefixOf? (c :: r) with
    | some rest =>
      let digits := rest.takeWhile Char.isDigit
      digits :: digitsBehind name (name.length + digits.length - 1) r
    | none => digitsBehind name 0 r

/-- A name that differs from those before it also when case is ignored: one that does not
gets the next number behind it. -/
def differing (before : List String) (name : String) : String :=
  let lower := Text.lower name
  if (before.map Text.lower).contains lower then
    let digits := digitsBehind lower.toList 0 (Text.lower (",".intercalate before)).toList
    let greatest := (digits.map fun l => Nat.ofDigitChars 10 l 0).foldl max 0
    if digits.isEmpty then name else name ++ toString (greatest + 1)
  else name

/-- Makes the names differ, from the first one on. -/
def differingAll (names : List String) : List String :=
  names.foldl (fun before name => before ++ [differing before name]) []

/-- A name as the program that changes files sees it. -/
def spaced (name : String) : String :=
  String.ofList (name.toList.map fun c => if c = '\t' ∨ c = '\r' then ' ' else c)

/-- The names as the program that changes files sees them. -/
def loadedNames (names : List String) : List String :=
  differingAll (names.map spaced)

/-! ### Markup -/

/-- How a character of a name is written. -/
def escapeChar : Char → List Char
  | '&' => "&amp;".toList
  | '"' => "&quot;".toList
  | '<' => "&lt;".toList
  | '>' => "&gt;".toList
  | '\n' => "&#xA;".toList
  | c => [c]

/-- The line of markup from the first name on; sheets are numbered from the given number. -/
def nameMarkup (number : Nat) : List String → List Char
  | [] => []
  | name :: names =>
    name.toList.flatMap escapeChar
      ++ s!"\" sheetId=\"{number}\" r:id=\"rId{number}\"/><sheet name=\"".toList
      ++ nameMarkup (number + 1) names

/-- A place in a text: the lines before it, and the characters before it on its line. -/
structure Position where
  line : Nat
  column : Nat
deriving DecidableEq, Repr

/-- Where the first name starts. -/
def namesStart : Position := ⟨2, 397⟩

/-- The place of the first character that markup cannot hold. -/
def firstIllegal? (p : Position) : List Char → Option Position
  | [] => none
  | c :: r =>
    if !Text.isMarkupChar c then some p
    else firstIllegal? (if c = '\r' then ⟨p.line + 1, 0⟩ else ⟨p.line, p.column + 1⟩) r

/-- The place in the file of a new workbook where a name holds a character that markup
cannot hold. -/
def illegal? (names : List String) : Option Position :=
  firstIllegal? namesStart (nameMarkup 1 names)

end SheetActions.Fresh
