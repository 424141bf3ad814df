import SheetActions.Cell.Serial
import SheetActions.Grid

/-! Worksheets.

A sheet is a sparse grid of values, a sparse grid of styles and a sparse list of
explicit row heights. It is seen through `cell`, which gives the content of a cell or
nothing for a blank one, through `style` and through `height`. A row is used when it or
a later one holds a value; `usedRows` counts the used rows. A sheet also knows its
extent, the area of the cells that were ever touched, be it to stay blank; nothing
beyond it holds a value as long as every change goes through `put`. -/
namespace SheetActions

/-- The number of rows and of columns of an area from the first cell on. -/
structure Extent where
  rows : Nat := 0
  columns : Nat := 0
deriving DecidableEq, Repr

namespace Extent

/-- The least area that also holds a given one. -/
def join (a b : Extent) : Extent :=
  ⟨max a.rows b.rows, max a.columns b.columns⟩

/-- The area up to a cell. -/
def upTo (r c : Nat) : Extent :=
  ⟨r + 1, c + 1⟩

/-- The area of the values of a grid. -/
def ofGrid {α : Type} (g : Grid α) : Extent :=
  ⟨g.usedRows, g.usedColumns⟩

end Extent

structure Sheet where
  values : Grid Value
  /-- How the numbers of some cells are meant; a style stays with its cell, whatever the cell
  holds. -/
  styles : Grid TimeStyle
  heights : Table Binary64
  /-- The area of the cells that were touched. -/
  extent : Extent

namespace Sheet

def empty : Sheet := ⟨∅, ∅, ∅, {}⟩

instance : EmptyCollection Sheet := ⟨empty⟩

instance : Inhabited Sheet := ⟨empty⟩

/-- The content of a cell. -/
def cell (s : Sheet) (r c : Nat) : Option Value :=
  s.values.get? r c

/-- The style of a cell. -/
def style (s : Sheet) (r c : Nat) : Option TimeStyle :=
  s.styles.get? r c

/-- The explicit height of a row. -/
def height (s : Sheet) (r : Nat) : Option Binary64 :=
  s.heights.get? r

/-- The number of rows up to the last one that holds a value. -/
def usedRows (s : Sheet) : Nat := s.values.usedRows

/-- The last row that holds a value, or -1. -/
def lastRow (s : Sheet) : Int :=
  (s.usedRows : Int) - 1

/-- The number of columns up to the last one that holds a value. -/
def usedColumns (s : Sheet) : Nat := s.values.usedColumns

/-- The used rows end at a place when nothing is behind it. -/
theorem usedRows_le_iff {s : Sheet} {n : Nat} :
    s.usedRows ≤ n ↔ ∀ r c, n ≤ r → s.cell r c = none :=
  Grid.usedRows_le_iff

/-- The used columns end at a place when nothing is behind it. -/
theorem usedColumns_le_iff {s : Sheet} {n : Nat} :
    s.usedColumns ≤ n ↔ ∀ r c, n ≤ c → s.cell r c = none :=
  Grid.usedColumns_le_iff

/-- Behind the used rows all cells are blank. -/
theorem cell_of_usedRows_le {s : Sheet} {r : Nat} (h : s.usedRows ≤ r) (c : Nat) :
    s.cell r c = none :=
  Grid.get?_of_usedRows_le h c

/-- A row that holds a value is used. -/
theorem lt_usedRows_of_cell {s : Sheet} {r c : Nat} {v : Value} (h : s.cell r c = some v) :
    r < s.usedRows :=
  Nat.lt_of_not_le fun hle => nomatch (cell_of_usedRows_le hle c).symm.trans h

/-- The last used row holds a value. -/
theorem exists_cell_of_usedRows {s : Sheet} {r : Nat} (h : s.usedRows = r + 1) :
    ∃ c v, s.cell r c = some v :=
  Grid.exists_get?_of_usedRows h

/-! ### Changes -/

/-- Touches a cell, which keeps its content. -/
def touch (s : Sheet) (r c : Nat) : Sheet :=
  { s with extent := s.extent.join (.upTo r c) }

@[simp] theorem cell_touch (s : Sheet) (r c i j : Nat) : (s.touch r c).cell i j = s.cell i j := rfl

@[simp] theorem height_touch (s : Sheet) (r c i : Nat) : (s.touch r c).height i = s.height i := rfl

/-- The styles once a cell is given a content: the first date or time in a cell gives it its
style. -/
def stylesWith (s : Sheet) (r c : Nat) (v : Option Value) : Grid TimeStyle :=
  match v.bind Value.timeStyle?, s.style r c with
  | some style, none => s.styles.put r c (some style)
  | _, _ => s.styles

/-- Gives a cell a content. -/
def put (s : Sheet) (r c : Nat) (v : Option Value) : Sheet :=
  { s.touch r c with values := s.values.put r c v, styles := s.stylesWith r c v }

theorem cell_put (s : Sheet) (r c : Nat) (v : Option Value) (i j : Nat) :
    (s.put r c v).cell i j = if i = r ∧ j = c then v else s.cell i j :=
  s.values.get?_put r c v i j

@[simp] theorem height_put (s : Sheet) (r c : Nat) (v : Option Value) (i : Nat) :
    (s.put r c v).height i = s.height i := rfl

/-- Gives a row an explicit height, or takes it away. -/
def setHeight (s : Sheet) (r : Nat) (h : Option Binary64) : Sheet :=
  { s with heights := s.heights.set r h }

@[simp] theorem cell_setHeight (s : Sheet) (r : Nat) (h : Option Binary64) (i j : Nat) :
    (s.setHeight r h).cell i j = s.cell i j := rfl

theorem height_setHeight (s : Sheet) (r : Nat) (h : Option Binary64) (i : Nat) :
    (s.setHeight r h).height i = if i = r then h else s.height i :=
  s.heights.get?_set r h i

/-- A sheet is determined by its cells, styles, heights and extent. -/
theorem ext_cell {s t : Sheet} (hc : ∀ r c, s.cell r c = t.cell r c)
    (hs : ∀ r c, s.style r c = t.style r c) (hh : ∀ r, s.height r = t.height r)
    (he : s.extent = t.extent) : s = t := by
  obtain ⟨values, styles, heights, extent⟩ := s
  obtain ⟨values', styles', heights', extent'⟩ := t
  obtain rfl : values = values' := Grid.ext_get? hc
  obtain rfl : styles = styles' := Grid.ext_get? hs
  obtain rfl : heights = heights' := Table.ext_get? hh
  obtain rfl : extent = extent' := he
  rfl

end Sheet

end SheetActions
