import SheetActions.Fault
import SheetActions.Index.Set
import SheetActions.Sheet.Basic

/-! Moving a block of rows down.

`moved` is the block move: the block leaves blanks behind and replaces what is where
it arrives. `shiftDown` puts its conditions in front: a block that lies behind the used
rows holds nothing to move, a longer one is cut to the used rows, and nothing moves past
the last row of a sheet. The block spans all columns that were touched, and these must
have names. A row keeps its height unless heights are asked to move with their rows or
to be forgotten. -/
namespace SheetActions.Sheet

/-- The heights after rows moved: copied along if asked for, and forgotten for the
vacated rows if asked for. -/
def moveHeights (heights : Table Binary64) (first last count : Nat) (copy reset : Bool) :
    Table Binary64 :=
  let heights := if copy then heights.copyDown first last count else heights
  if reset then heights.clear first (first + count) else heights

/-- The sheet with the rows from `first` to `last` moved down by `count`. -/
def moved (s : Sheet) (first last count : Nat) (copy reset : Bool) : Sheet where
  values := s.values.moveDown first last count
  styles := s.styles.moveDown first last count
  heights := moveHeights s.heights first last count copy reset
  extent := s.extent.join { rows := last + count + 1 }

theorem cell_moved (s : Sheet) {first last count : Nat} (hc : 0 < count) (copy reset : Bool)
    (r c : Nat) :
    (s.moved first last count copy reset).cell r c =
      if first + count ≤ r ∧ r ≤ last + count then s.cell (r - count) c
      else if first ≤ r ∧ r ≤ last then none
      else s.cell r c :=
  s.values.get?_moveDown hc r c

theorem height_moved (s : Sheet) (first last count : Nat) (copy reset : Bool) (r : Nat) :
    (s.moved first last count copy reset).height r =
      if reset ∧ first ≤ r ∧ r < first + count then none
      else if copy ∧ first + count ≤ r ∧ r ≤ last + count then s.height (r - count)
      else s.height r := by
  cases copy <;> cases reset <;>
    simp [height, moved, moveHeights, Table.get?_clear, Table.get?_copyDown]

/-- The reason for refusing rows that cannot be a block, or a count that is no distance. -/
def badBlockReason : String :=
  "bounds must be non-negative, ordered, and count positive"

/-- The reason for refusing a move past the last row. -/
def pastSheetReason : String :=
  s!"rows would move past the last sheet row {maxRowIndex}"

/-- The number of columns that have names, from A to ZZZ. -/
def namedColumns : Nat := 18278

/-- Moves the rows from `first` to `last` down by `count`, or refuses to and changes
nothing. -/
def shiftDown (s : Sheet) (first last count : Int) (copy reset : Bool) : Except Fault Sheet :=
  if first < 0 ∨ last < 0 ∨ count < 1 ∨ last < first then
    .error (.refusal (.shiftFailure first last count (some badBlockReason)))
  else if first > s.lastRow then .ok s
  else
    let last := min last s.lastRow
    if last + count > maxRowIndex then
      .error (.refusal (.shiftFailure first last count (some pastSheetReason)))
    else if s.extent.columns > namedColumns then
      .error (.breakdown (.columnWithoutName s.extent.columns))
    else .ok (s.moved first.toNat last.toNat count.toNat copy reset)

end SheetActions.Sheet
