import SheetActions.Index.Set
import SheetActions.Json.Basic
import SheetActions.Number.WholeText
import SheetActions.Text.Case

/-! Checking fields that arrive as JSON.

Fields are checked leniently: a whole number may come as a numeral, a truth value
as a word. Every field of a form is checked and all issues are reported in the
order of the fields. One kind of failure comes before the others: when the default
of a missing field cannot be had, the form fails with the issues of that default
alone. -/
namespace SheetActions

namespace Form

/-- What is wrong with a field. -/
inductive Problem where
  | missing
  | notText
  | textTooShort
  | notTruth
  | unknownTruth
  | notWhole
  | unreadableWhole
  | wholeTooLong
  | fractional
  | notFinite
  | tooSmall
  | tooLarge
  | notAChoice
  | notAnObject
  | notAList
  | notARecord
  /-- A text is not JSON. -/
  | unreadable
  | rejected (message : String)
deriving DecidableEq, Repr

/-- The code of a problem in reports. -/
def Problem.code : Problem → String
  | .missing => "missing"
  | .notText => "string_type"
  | .textTooShort => "string_too_short"
  | .notTruth => "bool_type"
  | .unknownTruth => "bool_parsing"
  | .notWhole => "int_type"
  | .unreadableWhole => "int_parsing"
  | .wholeTooLong => "int_parsing_size"
  | .fractional => "int_from_float"
  | .notFinite => "finite_number"
  | .tooSmall => "greater_than_equal"
  | .tooLarge => "less_than_equal"
  | .notAChoice => "literal_error"
  | .notAnObject => "dict_type"
  | .notAList => "tuple_type"
  | .notARecord => "model_attributes_type"
  | .unreadable => "json_invalid"
  | .rejected _ => "value_error"

/-- A problem and where it is; the parts of the place are joined with points. -/
structure Issue where
  place : String
  problem : Problem
deriving DecidableEq, Repr

end Form

open Form (Problem Issue)

/-- A form that was filled in, or what is wrong with it. -/
inductive Checked (α : Type) where
  | valid (a : α)
  | invalid (issues : List Issue)
  /-- A default could not be had; nothing else is reported. -/
  | aborted (issues : List Issue)

namespace Checked

variable {α β : Type}

def map (f : α → β) : Checked α → Checked β
  | .valid a => .valid (f a)
  | .invalid issues => .invalid issues
  | .aborted issues => .aborted issues

/-- Fills in the next field: the issues of both sides are reported. -/
def ap : Checked (α → β) → Checked α → Checked β
  | .valid f, .valid a => .valid (f a)
  | .valid _, .invalid issues => .invalid issues
  | .invalid issues, .valid _ => .invalid issues
  | .invalid issues, .invalid issues' => .invalid (issues ++ issues')
  | .aborted issues, _ => .aborted issues
  | _, .aborted issues => .aborted issues

/-- The value or the issues, however they came about. -/
def toExcept : Checked α → Except (List Issue) α
  | .valid a => .ok a
  | .invalid issues | .aborted issues => .error issues

/-- The outcome of checking the field at a place. -/
def ofField (place : String) : Except Problem α → Checked α
  | .ok a => .valid a
  | .error problem => .invalid [⟨place, problem⟩]

end Checked

namespace Form

/-- An issue as data. -/
def Issue.toJson (i : Issue) : Json :=
  .object [("loc", .text i.place), ("type", .text i.problem.code)]

/-! ### Texts and choices -/

def text : Json → Except Problem String
  | .text s => .ok s
  | _ => .error .notText

/-- A text that must not be empty. -/
def filledText (j : Json) : Except Problem String := do
  let s ← text j
  if s.isEmpty then throw .textTooShort
  return s

/-- A text that may be null. -/
def textOrNull : Json → Except Problem (Option String)
  | .null => .ok none
  | j => (text j).map some

/-- One of the given texts. -/
def choice (choices : List String) : Json → Except Problem String
  | .text s => if choices.contains s then .ok s else .error .notAChoice
  | _ => .error .notAChoice

/-- An object whose values are texts. -/
def texts (place : String) : Json → Checked (List (String × String))
  | .object fields =>
    fields.foldl (fun done f =>
      (done.map fun l v => l ++ [(f.1, v)]).ap (.ofField (place ++ "." ++ f.1) (text f.2)))
      (.valid [])
  | _ => .invalid [⟨place, .notAnObject⟩]

/-! ### Truth values -/

def falseWords : List String := ["0", "off", "f", "false", "n", "no"]

def trueWords : List String := ["1", "on", "t", "true", "y", "yes"]

/-- A word for a truth value, in any case. -/
def truthWord (s : String) : Except Problem Bool :=
  let word := Text.lower s
  if falseWords.contains word then .ok false
  else if trueWords.contains word then .ok true
  else .error .unknownTruth

/-- The bound of the integers that have 64 bits. -/
def wordBound : Int := Int.pow 2 63

/-- A truth value by its number. -/
def truthNumber (n : Int) : Except Problem Bool :=
  if n = 0 then .ok false
  else if n = 1 then .ok true
  else .error .unknownTruth

def truth : Json → Except Problem Bool
  | .boolean b => .ok b
  | .text s => truthWord s
  | .integer n =>
    if -wordBound ≤ n ∧ n < wordBound then truthNumber n else .error .notTruth
  | .float x =>
    match x.toInt? with
    | some n => if -wordBound < n ∧ n < wordBound then truthNumber n else .error .notTruth
    | none => .error .notTruth
  | _ => .error .notTruth

/-- A flag: a word is trimmed, and nothing at all stands for the default. -/
def flag (default : Bool) : Json → Except Problem Bool
  | .null => .ok default
  | .text s =>
    let word := Text.trim s
    if word.isEmpty then .ok default else truthWord word
  | j => truth j

/-! ### Whole numbers -/

/-- The problem of a text that is no whole number. -/
def wholeProblem : WholeText.Flaw → Problem
  | .unreadable => .unreadableWhole
  | .tooLong => .wholeTooLong

def wholeText (s : String) : Except Problem Int :=
  (WholeText.read s).mapError wholeProblem

/-- A whole number from a floating-point number. -/
def wholeFloat (x : Binary64) : Except Problem Int :=
  if !x.isFinite then .error .notFinite
  else match x.toInt? with
    | none => .error .fractional
    | some n => if -wordBound < n ∧ n < wordBound then .ok n else .error .wholeTooLong

def whole : Json → Except Problem Int
  | .boolean b => .ok (if b then 1 else 0)
  | .integer n => .ok n
  | .float x => wholeFloat x
  | .text s => wholeText s
  | _ => .error .notWhole

/-- A whole number that is at least `least`. -/
def wholeFrom (least : Int) (j : Json) : Except Problem Int := do
  let n ← whole j
  if n < least then throw .tooSmall
  return n

/-- A whole number between two bounds. -/
def wholeBetween (least greatest : Int) (j : Json) : Except Problem Int := do
  let n ← wholeFrom least j
  if n > greatest then throw .tooLarge
  return n

def natFrom (least : Nat) (j : Json) : Except Problem Nat :=
  (wholeFrom least j).map Int.toNat

/-! ### Fields -/

/-- A field that has a default. -/
def optional {α : Type} (j : Json) (name : String) (default : α) (check : Json → Except Problem α) :
    Checked α :=
  match j.field? name with
  | some v => .ofField name (check v)
  | none => .valid default

/-- A field that must be there. -/
def required {α : Type} (j : Json) (name : String) (check : Json → Except Problem α) : Checked α :=
  match j.field? name with
  | some v => .ofField name (check v)
  | none => .invalid [⟨name, .missing⟩]

/-! ### Index sets -/

/-- The whole numbers of a list; the place of an item is its position in the list. -/
def wholes (place : String) (items : List Json) : Checked (List Int) :=
  items.zipIdx.foldr (fun (item, i) rest =>
    ((Checked.ofField (place ++ "." ++ toString i) (whole item)).map List.cons).ap rest)
    (.valid [])

def IndexFlaw.message : IndexSet.Flaw → String
  | .negative => "Value error, indices must be non-negative"
  | .notAscending => "Value error, indices must be strictly ascending"

/-- The field that holds the indices of a set. -/
def indicesField : String := "indices"

def ofIndexSet : Except IndexSet.Flaw IndexSet → Checked IndexSet
  | .ok t => .valid t
  | .error flaw => .invalid [⟨indicesField, .rejected (IndexFlaw.message flaw)⟩]

/-- An index set from a list of whole numbers. -/
def indexSet (items : List Json) : Checked IndexSet :=
  match wholes indicesField items with
  | .valid l => ofIndexSet (IndexSet.ofInts l)
  | .invalid issues => .invalid issues
  | .aborted issues => .aborted issues

/-- An index set from a value that should be a list. -/
def indexSetOf : Json → Checked IndexSet
  | .array items => indexSet items
  | _ => .invalid [⟨indicesField, .notAList⟩]

/-- The index that a value equals as a number; a truth value counts as its number. -/
def index? : Json → Option Int
  | .boolean b => some (if b then 1 else 0)
  | .integer n => some n
  | .float x => x.toInt?
  | _ => none

end Form

end SheetActions
