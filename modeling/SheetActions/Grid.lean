import SheetActions.Table

/-! Sparse grids.

A grid gives some cells of an unbounded sheet of rows and columns a value. `get?` is
how it is seen, and two grids that look the same are equal (`ext_get?`). A row is used
when it or a later one holds a value, and likewise a column; `usedRows` and
`usedColumns` count them. -/
namespace SheetActions

structure Grid (α : Type) where
  /-- The values by row and column; a row without values has no entry. -/
  rows : Table (Table α)
  not_empty : ∀ {r row}, rows.get? r = some row → row ≠ ∅

namespace Grid

variable {α β : Type}

def empty : Grid α := ⟨∅, by simp [EmptyCollection.emptyCollection]⟩

instance : EmptyCollection (Grid α) := ⟨empty⟩

instance : Inhabited (Grid α) := ⟨empty⟩

/-- The value at a row and a column. -/
def get? (g : Grid α) (r c : Nat) : Option α :=
  (g.rows.get? r).bind (·.get? c)

/-- The number of rows up to the last one that holds a value. -/
def usedRows (g : Grid α) : Nat :=
  (g.rows.lastKey?.map (· + 1)).getD 0

/-- The number of columns up to the last one of a row that holds a value. -/
def rowWidth (row : Table α) : Nat :=
  (row.lastKey?.map (· + 1)).getD 0

/-- The number of columns up to the last one that holds a value. -/
def usedColumns (g : Grid α) : Nat :=
  g.rows.entries.foldl (fun n e => max n (rowWidth e.2)) 0

/-! ### The used area -/

/-- A row that holds a value has an entry. -/
theorem exists_get?_of_row {g : Grid α} {r : Nat} {row : Table α}
    (h : g.rows.get? r = some row) : ∃ c v, g.get? r c = some v := by
  cases hl : row.lastKey? with
  | none => exact absurd (Table.eq_empty_iff_lastKey?.mpr hl) (g.not_empty h)
  | some c =>
    obtain ⟨v, hv⟩ := Table.exists_get?_lastKey? hl
    exact ⟨c, v, by simp [get?, h, hv]⟩

/-- Behind the used rows nothing has a value. -/
theorem get?_of_usedRows_le {g : Grid α} {r : Nat} (h : g.usedRows ≤ r) (c : Nat) :
    g.get? r c = none := by
  have hr : g.rows.get? r = none := by
    cases hl : g.rows.lastKey? with
    | none => exact Table.get?_of_lastKey?_eq_none hl r
    | some last =>
      refine Table.get?_of_lastKey?_lt hl ?_
      simp only [usedRows, hl, Option.map_some, Option.getD_some] at h
      omega
  simp [get?, hr]

/-- The last used row holds a value. -/
theorem exists_get?_of_usedRows {g : Grid α} {r : Nat} (h : g.usedRows = r + 1) :
    ∃ c v, g.get? r c = some v := by
  cases hl : g.rows.lastKey? with
  | none => simp [usedRows, hl] at h
  | some last =>
    simp only [usedRows, hl, Option.map_some, Option.getD_some] at h
    obtain rfl : last = r := by omega
    obtain ⟨row, hrow⟩ := Table.exists_get?_lastKey? hl
    exact exists_get?_of_row hrow

/-- The used rows end at a place when nothing is behind it. -/
theorem usedRows_le_iff {g : Grid α} {n : Nat} :
    g.usedRows ≤ n ↔ ∀ r c, n ≤ r → g.get? r c = none := by
  constructor
  · intro h r c hr
    exact get?_of_usedRows_le (Nat.le_trans h hr) c
  · intro h
    cases hu : g.usedRows with
    | zero => exact Nat.zero_le n
    | succ r =>
      obtain ⟨c, v, hv⟩ := exists_get?_of_usedRows hu
      by_cases hn : r + 1 ≤ n
      · exact hn
      · rw [h r c (by omega)] at hv
        cases hv

theorem rowWidth_le_iff {row : Table α} {n : Nat} :
    rowWidth row ≤ n ↔ ∀ c, n ≤ c → row.get? c = none := by
  cases hl : row.lastKey? with
  | none => simp [rowWidth, hl, Table.get?_of_lastKey?_eq_none hl]
  | some last =>
    simp only [rowWidth, hl, Option.map_some, Option.getD_some]
    constructor
    · intro h c hc
      exact Table.get?_of_lastKey?_lt hl (by omega)
    · intro h
      obtain ⟨v, hv⟩ := Table.exists_get?_lastKey? hl
      by_cases hn : last + 1 ≤ n
      · exact hn
      · rw [h last (by omega)] at hv
        cases hv

theorem foldl_max_le_iff (f : α → Nat) (l : List α) (start n : Nat) :
    l.foldl (fun n a => max n (f a)) start ≤ n ↔ start ≤ n ∧ ∀ a ∈ l, f a ≤ n := by
  induction l generalizing start with
  | nil => simp
  | cons a l ih =>
    rw [List.foldl_cons, ih, Nat.max_le, List.forall_mem_cons, and_assoc]

/-- The used columns end at a place when nothing is behind it. -/
theorem usedColumns_le_iff {g : Grid α} {n : Nat} :
    g.usedColumns ≤ n ↔ ∀ r c, n ≤ c → g.get? r c = none := by
  have hmax := foldl_max_le_iff (fun e : Nat × Table α => rowWidth e.2) g.rows.entries 0 n
  simp only [Nat.zero_le, true_and, rowWidth_le_iff] at hmax
  refine Iff.trans hmax ?_
  constructor
  · intro h r c hc
    cases hr : g.rows.get? r with
    | none => simp [get?, hr]
    | some row => simpa [get?, hr] using h (r, row) (Table.mem_entries_iff.mpr hr) c hc
  · rintro h ⟨r, row⟩ he c hc
    simpa [get?, Table.mem_entries_iff.mp he] using h r c hc

/-! ### Operations -/

/-- A row as an entry of a grid: none when it holds nothing. -/
def rowEntry (row : Table α) : Option (Table α) :=
  if row.entries.isEmpty then none else some row

theorem rowEntry_bind (row : Table α) (c : Nat) :
    (rowEntry row).bind (·.get? c) = row.get? c := by
  obtain ⟨l, hl⟩ := row
  cases l <;> rfl

theorem ne_empty_of_rowEntry {row kept : Table α} (h : rowEntry row = some kept) : kept ≠ ∅ := by
  rw [rowEntry] at h
  split at h
  · contradiction
  · rename_i hne
    cases h
    rintro rfl
    exact hne rfl

/-- Gives a cell a value, or takes its value away. -/
def put (g : Grid α) (r c : Nat) (v : Option α) : Grid α where
  rows := g.rows.set r (rowEntry (((g.rows.get? r).getD ∅).set c v))
  not_empty := by
    intro i row h
    rw [Table.get?_set] at h
    split at h
    · exact ne_empty_of_rowEntry h
    · exact g.not_empty h

theorem get?_put (g : Grid α) (r c : Nat) (v : Option α) (i j : Nat) :
    (g.put r c v).get? i j = if i = r ∧ j = c then v else g.get? i j := by
  simp only [get?, put, Table.get?_set]
  by_cases hi : i = r
  · subst hi
    rw [if_pos rfl, rowEntry_bind, Table.get?_set]
    by_cases hj : j = c
    · simp [hj]
    · rw [if_neg hj, if_neg (by simp [hj])]
      cases g.rows.get? i <;> rfl
  · rw [if_neg hi, if_neg (by simp [hi])]

/-- The values that a function of row, column and value keeps, changed by it. -/
def filterMapAt (g : Grid α) (f : Nat → Nat → α → Option β) : Grid β where
  rows := g.rows.filterMapKey fun r row => rowEntry (row.filterMapKey (f r))
  not_empty := by
    intro r row h
    rw [Table.get?_filterMapKey] at h
    obtain ⟨old, _, h⟩ := Option.bind_eq_some_iff.mp h
    exact ne_empty_of_rowEntry h

theorem get?_filterMapAt (g : Grid α) (f : Nat → Nat → α → Option β) (r c : Nat) :
    (g.filterMapAt f).get? r c = (g.get? r c).bind (f r c) := by
  simp only [get?, filterMapAt, Table.get?_filterMapKey]
  cases g.rows.get? r with
  | none => rfl
  | some row =>
    simp only [Option.bind_some]
    rw [rowEntry_bind, Table.get?_filterMapKey]

/-- The grid after the rows from `first` to `last` moved down. -/
def moveDown (g : Grid α) (first last count : Nat) : Grid α where
  rows := (g.rows.copyDown first last count).clear first (min (last + 1) (first + count))
  not_empty := by
    intro r row h
    rw [Table.get?_clear, Table.get?_copyDown] at h
    split at h
    · contradiction
    · split at h <;> exact g.not_empty h

/-- The block leaves nothing behind and replaces what is where it arrives. -/
theorem get?_moveDown (g : Grid α) {first last count : Nat} (hc : 0 < count) (r c : Nat) :
    (g.moveDown first last count).get? r c =
      if first + count ≤ r ∧ r ≤ last + count then g.get? (r - count) c
      else if first ≤ r ∧ r ≤ last then none
      else g.get? r c := by
  simp only [get?, moveDown, Table.get?_clear, Table.get?_copyDown]
  by_cases h₁ : first + count ≤ r ∧ r ≤ last + count
  · rw [if_pos h₁, if_neg (by omega), if_pos h₁]
  · rw [if_neg h₁, if_neg h₁]
    by_cases h₂ : first ≤ r ∧ r ≤ last
    · rw [if_pos h₂, if_pos (by omega)]
      rfl
    · rw [if_neg h₂, if_neg (by omega)]

/-- The values with their positions, by row and then by column. -/
def toList (g : Grid α) : List (Nat × Nat × α) :=
  g.rows.toList.flatMap fun row => row.2.toList.map fun e => (row.1, e.1, e.2)

theorem mem_toList_iff {g : Grid α} {r c : Nat} {v : α} :
    (r, c, v) ∈ g.toList ↔ g.get? r c = some v := by
  simp only [toList, Table.toList, get?, List.mem_flatMap, List.mem_map, List.mem_reverse,
    Option.bind_eq_some_iff]
  constructor
  · rintro ⟨⟨i, row⟩, hrow, ⟨j, w⟩, hcell, h⟩
    cases h
    exact ⟨row, Table.mem_entries_iff.mp hrow, Table.mem_entries_iff.mp hcell⟩
  · rintro ⟨row, hrow, hcell⟩
    exact ⟨(r, row), Table.mem_entries_iff.mpr hrow, (c, v), Table.mem_entries_iff.mpr hcell, rfl⟩

/-- A grid is determined by what `get?` sees. -/
theorem ext_get? {s t : Grid α} (h : ∀ r c, s.get? r c = t.get? r c) : s = t := by
  obtain ⟨rows, hne⟩ := s
  obtain ⟨rows', hne'⟩ := t
  have hrows : rows = rows' := by
    apply Table.ext_get?
    intro r
    have hr : ∀ c, (rows.get? r).bind (·.get? c) = (rows'.get? r).bind (·.get? c) := h r
    cases h₁ : rows.get? r with
    | none =>
      cases h₂ : rows'.get? r with
      | none => rfl
      | some row =>
        refine absurd (Table.ext_get? fun c => ?_) (hne' h₂)
        have := hr c
        rw [h₁, h₂] at this
        exact this.symm
    | some row =>
      cases h₂ : rows'.get? r with
      | none =>
        refine absurd (Table.ext_get? fun c => ?_) (hne h₁)
        have := hr c
        rw [h₁, h₂] at this
        exact this
      | some row' =>
        congr 1
        apply Table.ext_get?
        intro c
        have := hr c
        rwa [h₁, h₂] at this
  subst hrows
  rfl

end Grid

end SheetActions
