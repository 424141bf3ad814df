import SheetActions.Fault
import SheetActions.Index.Set
import SheetActions.Number.Numeral
import SheetActions.Text.Split

/-! Index specifications.

A specification names indices by a list of items with commas between them: a
single index (`7`) or a span with both ends (`5:8`), blanks around items and
bounds not counting. It denotes the union of what its items name; a blank
specification names nothing. The first item that is malformed, or that names an
index past the greatest one, refuses the whole specification. -/
namespace SheetActions.IndexSpec

/-- Why an item of a specification is refused, or the indices that it resolves to. -/
inductive Flaw where
  | empty
  | notAnInteger (bound : String)
  | pastGreatest (index : Nat) (greatest : Int)
  | notOneColon
  | reversed (first last : Nat)
  /-- A resolved row lies past the last row of a sheet. -/
  | rowPastSheet (row : Nat)
  /-- More columns are needed than a sheet has. -/
  | tooManyColumns (count : Nat)
deriving DecidableEq, Repr

def Flaw.reason : Flaw → String
  | .empty => "empty index"
  | .notAnInteger bound => "'" ++ bound ++ "' is not a non-negative integer"
  | .pastGreatest index greatest => s!"index {index} is past the last sheet index {greatest}"
  | .notOneColon => "a span must have exactly one ':'"
  | .reversed first last => s!"span start {first} is greater than span end {last}"
  | .rowPastSheet row => s!"row {row} is past the last sheet row {maxRowIndex}"
  | .tooManyColumns count => s!"{count} columns do not fit a worksheet"

/-- The failure of an item of a specification. -/
def refuse (spec item : String) (flaw : Flaw) : Fault :=
  .refusal (.invalidIndex spec flaw.reason (some item))

/-- One bound of an item: digits between blanks, and at most `greatest`. -/
def parseBound (spec item : String) (greatest : Int) (bound : List Char) : Except Fault Nat :=
  let digits := Text.trimBy Text.isBlank bound
  if digits.isEmpty || !digits.all Char.isDigit then
    .error (refuse spec item (.notAnInteger (String.ofList digits)))
  else if digits.length > Numeral.digitLimit then
    .error (.breakdown (.numeralTooLong digits.length))
  else if natOfDigits digits > greatest then
    .error (refuse spec item (.pastGreatest (natOfDigits digits) greatest))
  else .ok (natOfDigits digits)

/-- The indices that an item names, as the first one and their number. -/
def parseItem (spec : String) (greatest : Int) (item : List Char) : Except Fault (Nat × Nat) :=
  let name := String.ofList item
  if item.isEmpty then .error (refuse spec name .empty)
  else match Text.pieces [':'] item with
    | [bound] => do
      let i ← parseBound spec name greatest bound
      return (i, 1)
    | [first, last] => do
      let a ← parseBound spec name greatest first
      let b ← parseBound spec name greatest last
      if a > b then throw (refuse spec name (.reversed a b))
      return (a, b + 1 - a)
    | _ => .error (refuse spec name .notOneColon)

/-- Adds the indices of the items to a set, from left to right. -/
def parseItems (spec : String) (greatest : Int) (t : IndexSet) :
    List (List Char) → Except Fault IndexSet
  | [] => .ok t
  | item :: items => do
    let (first, length) ← parseItem spec greatest (Text.trimBy Text.isBlank item)
    parseItems spec greatest (t.insertInterval first length) items

/-- The set that a specification denotes, with indices up to `greatest`. -/
def parse (spec : String) (greatest : Int) : Except Fault IndexSet :=
  if Text.isBlankText spec then .ok ∅
  else parseItems spec greatest ∅ (Text.pieces [','] spec.toList)

/-- The set of a specification that may be missing; a missing one names nothing. -/
def parseOptional (spec : Option String) (greatest : Int) : Except Fault IndexSet :=
  match spec with
  | none => .ok ∅
  | some spec => parse spec greatest

@[simp] theorem parseOptional_some (spec : String) (greatest : Int) :
    parseOptional (some spec) greatest = parse spec greatest := rfl

end SheetActions.IndexSpec
