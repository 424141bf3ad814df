import SheetActions.Proofs.OpenRows

/-! Moving a block of rows: what becomes of each row, and when the move is refused.

`shiftDown` looks at its arguments, at the used rows, at the end of the sheet and at the names
of the columns, in this order, and moves the block only when nothing is in the way. `Shifted`
lists what can come of that, and `shiftDown_spec` says row by row what the sheet is afterwards.

The heights are moved row by row and in place. The last row of the block goes first, so no
height is replaced before it was copied, though a block can overlap the place it moves to
(`copyDown_eq_copyEach`). -/
namespace SheetActions

/-! ### Heights, row by row -/

namespace Table
variable {α : Type}

/-- Copies what is at some keys to the keys `count` further on, one key after the other, so
that a copy sees the ones before it. -/
def copyEach (t : Table α) (count : Nat) (keys : List Nat) : Table α :=
  keys.foldl (fun t k => t.set (k + count) (t.get? k)) t

/-- Takes the values at some keys away, one key after the other. -/
def clearEach (t : Table α) (keys : List Nat) : Table α :=
  keys.foldl (fun t k => t.set k none) t

theorem get?_copyEach (t : Table α) (first n count k : Nat) :
    (t.copyEach count (List.range' first n).reverse).get? k =
      if first + count ≤ k ∧ k < first + n + count then t.get? (k - count) else t.get? k := by
  induction n generalizing t with
  | zero =>
    rw [if_neg (by omega)]
    rfl
  | succ n ih =>
    have hstep : t.copyEach count (List.range' first (n + 1)).reverse =
        (t.set (first + n + count) (t.get? (first + n))).copyEach count
          (List.range' first n).reverse := by
      rw [List.range'_1_concat, List.reverse_append]
      rfl
    rw [hstep, ih, get?_set, get?_set]
    by_cases hk : first + count ≤ k ∧ k < first + n + count
    · -- the key that was replaced first is none of those that are still to be copied
      rw [if_pos hk, if_neg (by omega), if_pos (by omega)]
    · rw [if_neg hk]
      by_cases hlast : k = first + n + count
      · rw [if_pos hlast, if_pos (by omega), hlast, Nat.add_sub_cancel]
      · rw [if_neg hlast, if_neg (by omega)]

theorem get?_clearEach (t : Table α) (keys : List Nat) (k : Nat) :
    (t.clearEach keys).get? k = if k ∈ keys then none else t.get? k := by
  induction keys generalizing t with
  | nil => rfl
  | cons i keys ih =>
    show ((t.set i none).clearEach keys).get? k = _
    rw [ih, get?_set]
    by_cases hk : k ∈ keys
    · rw [if_pos hk, if_pos (List.mem_cons_of_mem i hk)]
    · simp only [hk, List.mem_cons, or_false, if_false]

/-- A block is repeated further down by copying its keys one by one, the last one first. -/
theorem copyDown_eq_copyEach (t : Table α) (first last count : Nat) :
    t.copyDown first last count =
      t.copyEach count (List.range' first (last + 1 - first)).reverse := by
  refine ext_get? fun k => ?_
  rw [get?_copyDown, get?_copyEach]
  exact if_congr (by omega) rfl rfl

/-- The first key first, a value is copied on and on. -/
example :
    (((∅ : Table Nat).set 0 (some 5)).copyEach 1 [0, 1]).get? 2 = some 5 ∧
      (((∅ : Table Nat).set 0 (some 5)).copyDown 0 1 1).get? 2 = none := by decide

theorem clear_eq_clearEach (t : Table α) (first count : Nat) :
    t.clear first (first + count) = t.clearEach (List.range' first count) := by
  refine ext_get? fun k => ?_
  rw [get?_clear, get?_clearEach]
  exact if_congr List.mem_range'_1.symm rfl rfl

end Table

namespace Sheet

/-- The heights of a block in two passes over rows: from its last row up each height is copied
along, and from its first row down the heights of the vacated rows are forgotten. -/
theorem moveHeights_eq (heights : Table Binary64) (first last count : Nat) (copy reset : Bool) :
    moveHeights heights first last count copy reset =
      let copied := if copy then
        heights.copyEach count (List.range' first (last + 1 - first)).reverse else heights
      if reset then copied.clearEach (List.range' first count) else copied := by
  simp only [moveHeights, Table.copyDown_eq_copyEach, Table.clear_eq_clearEach]

/-! ### The move -/

section
variable (s : Sheet) (first last count : Int) (copy reset : Bool)

/-- What can come of moving a block of rows. -/
inductive Shifted : Except Fault Sheet → Prop
  | malformed (h : first < 0 ∨ last < 0 ∨ count < 1 ∨ last < first) :
    Shifted (.error (.refusal (.shiftFailure first last count (some badBlockReason))))
  | behind (hblock : 0 ≤ first ∧ first ≤ last ∧ 1 ≤ count) (hused : s.lastRow < first) :
    Shifted (.ok s)
  | past (hblock : 0 ≤ first ∧ first ≤ last ∧ 1 ≤ count) (hused : first ≤ s.lastRow)
    (hpast : maxRowIndex < min last s.lastRow + count) :
    Shifted (.error (.refusal
      (.shiftFailure first (min last s.lastRow) count (some pastSheetReason))))
  | unnamed (hblock : 0 ≤ first ∧ first ≤ last ∧ 1 ≤ count) (hused : first ≤ s.lastRow)
    (hgrid : min last s.lastRow + count ≤ maxRowIndex)
    (hnames : namedColumns < s.extent.columns) :
    Shifted (.error (.breakdown (.columnWithoutName s.extent.columns)))
  | moved (hblock : 0 ≤ first ∧ first ≤ last ∧ 1 ≤ count) (hused : first ≤ s.lastRow)
    (hgrid : min last s.lastRow + count ≤ maxRowIndex)
    (hnames : s.extent.columns ≤ namedColumns) :
    Shifted (.ok (s.moved first.toNat (min last s.lastRow).toNat count.toNat copy reset))

theorem shifted_shiftDown :
    Shifted s first last count copy reset (s.shiftDown first last count copy reset) := by
  rw [shiftDown]
  by_cases hbad : first < 0 ∨ last < 0 ∨ count < 1 ∨ last < first
  · rw [if_pos hbad]
    exact .malformed hbad
  · have hblock : 0 ≤ first ∧ first ≤ last ∧ 1 ≤ count := by omega
    rw [if_neg hbad]
    by_cases hused : s.lastRow < first
    · rw [if_pos hused]
      exact .behind hblock hused
    · rw [if_neg hused]
      by_cases hpast : maxRowIndex < min last s.lastRow + count
      · rw [if_pos hpast]
        exact .past hblock (by omega) hpast
      · rw [if_neg hpast]
        by_cases hnames : namedColumns < s.extent.columns
        · rw [if_pos hnames]
          exact .unnamed hblock (by omega) (by omega) hnames
        · rw [if_neg hnames]
          exact .moved hblock (by omega) (by omega) (by omega)

/-- The arguments are no block of rows and no distance to move it, or the block, cut to the used
rows, would go past the last row of a sheet. -/
def RefusesMove : Prop :=
  first < 0 ∨ last < 0 ∨ count < 1 ∨ last < first ∨
    (first ≤ s.lastRow ∧ maxRowIndex < min last s.lastRow + count)

/-- The block could be moved, but a cell was touched in a column without a name. -/
def LacksColumnName : Prop :=
  ¬ s.RefusesMove first last count ∧ first ≤ s.lastRow ∧ namedColumns < s.extent.columns

end

section
variable {s t : Sheet} {first last count : Int} {copy reset : Bool}

theorem Shifted.of_refusesMove {result : Except Fault Sheet}
    (h : Shifted s first last count copy reset result) (hrefuses : s.RefusesMove first last count) :
    ∃ f, result = .error f ∧ f.IsShiftFailure := by
  unfold RefusesMove at hrefuses
  cases h with
  | malformed => exact ⟨_, rfl, _, _, _, _, rfl⟩
  | past => exact ⟨_, rfl, _, _, _, _, rfl⟩
  | behind | unnamed | moved => omega

theorem Shifted.of_lacksColumnName {result : Except Fault Sheet}
    (h : Shifted s first last count copy reset result)
    (hlacks : s.LacksColumnName first last count) :
    result = .error (.breakdown (.columnWithoutName s.extent.columns)) := by
  obtain ⟨hallows, hused, hnames⟩ := hlacks
  unfold RefusesMove at hallows
  cases h with
  | unnamed => rfl
  | malformed | behind | past | moved => omega

theorem Shifted.exists_ok {result : Except Fault Sheet}
    (h : Shifted s first last count copy reset result)
    (hallows : ¬ s.RefusesMove first last count) (hnamed : ¬ s.LacksColumnName first last count) :
    ∃ t, result = .ok t := by
  cases h with
  | behind => exact ⟨_, rfl⟩
  | moved => exact ⟨_, rfl⟩
  | unnamed _ hused _ hnames => exact absurd ⟨hallows, hused, hnames⟩ hnamed
  | malformed | past => exact absurd (by unfold RefusesMove; omega) hallows

/-- A block behind the used rows stays where it is. -/
theorem eq_of_shiftDown_behind (h : s.shiftDown first last count copy reset = .ok t)
    (hbehind : s.lastRow < first) : t = s := by
  have hshifted := shifted_shiftDown s first last count copy reset
  rw [h] at hshifted
  cases hshifted with
  | behind => rfl
  | moved _ hused => exact absurd hused (by omega)

/-- A block that reaches the used rows and is not refused is moved. -/
theorem eq_moved_of_shiftDown (h : s.shiftDown first last count copy reset = .ok t)
    (hused : first ≤ s.lastRow) :
    (0 ≤ first ∧ first ≤ last ∧ 1 ≤ count) ∧
      t = s.moved first.toNat (min last s.lastRow).toNat count.toNat copy reset := by
  have hshifted := shifted_shiftDown s first last count copy reset
  rw [h] at hshifted
  cases hshifted with
  | behind hblock hbehind => exact absurd hused (by omega)
  | moved hblock => exact ⟨hblock, rfl⟩

theorem cell_of_shiftDown (h : s.shiftDown first last count copy reset = .ok t)
    (hused : first ≤ s.lastRow) (r c : Nat) :
    t.cell r c =
      if first + count ≤ r ∧ r ≤ min last s.lastRow + count then s.cell (r - count).toNat c
      else if first ≤ r ∧ r ≤ min last s.lastRow then none
      else s.cell r c := by
  obtain ⟨hblock, rfl⟩ := eq_moved_of_shiftDown h hused
  have hfrom : r - count.toNat = (r - count).toNat := by omega
  rw [cell_moved s (by omega), hfrom]
  exact if_congr (by omega) rfl (if_congr (by omega) rfl rfl)

theorem height_of_shiftDown (h : s.shiftDown first last count copy reset = .ok t)
    (hused : first ≤ s.lastRow) (r : Nat) :
    t.height r =
      if reset ∧ first ≤ r ∧ r < first + count then none
      else if copy ∧ first + count ≤ r ∧ r ≤ min last s.lastRow + count then
        s.height (r - count).toNat
      else s.height r := by
  obtain ⟨hblock, rfl⟩ := eq_moved_of_shiftDown h hused
  have hfrom : r - count.toNat = (r - count).toNat := by omega
  rw [height_moved, hfrom]
  exact if_congr (and_congr_right' (by omega)) rfl (if_congr (and_congr_right' (by omega)) rfl rfl)

end

/-- **Moving a block.** With the block cut to the used rows, the move is refused exactly when the
arguments are malformed or a row would leave the grid, and it breaks down exactly when it is not
refused and has to name a column without a name. Then, and when the block lies behind the used
rows, nothing changes. Otherwise the rows of the block are `count` further down, the rows they
left are blank, and every other row has the cells it had; the heights are those of the two passes
over rows. -/
theorem shiftDown_spec (s : Sheet) (first last count : Int) (copy reset : Bool) :
    let e := min last s.lastRow
    let p := Progress.ofExcept s (s.shiftDown first last count copy reset)
    ((∃ f, p.fault = some f ∧ f.IsShiftFailure) ↔
      first < 0 ∨ last < 0 ∨ count < 1 ∨ last < first ∨
        (first ≤ s.lastRow ∧ maxRowIndex < e + count)) ∧
    (p.fault = some (.breakdown (.columnWithoutName s.extent.columns)) ↔
      s.LacksColumnName first last count) ∧
    (p.fault = none ↔ ¬ s.RefusesMove first last count ∧ ¬ s.LacksColumnName first last count) ∧
    (p.fault ≠ none ∨ s.lastRow < first → p.state = s) ∧
    (p.fault = none → first ≤ s.lastRow →
      (∀ (r : Nat) (c : Nat), p.state.cell r c =
        if first + count ≤ r ∧ r ≤ e + count then s.cell (r - count).toNat c
        else if first ≤ r ∧ r ≤ e then none
        else s.cell r c) ∧
      (∀ r : Nat, p.state.height r =
        if reset ∧ first ≤ r ∧ r < first + count then none
        else if copy ∧ first + count ≤ r ∧ r ≤ e + count then s.height (r - count).toNat
        else s.height r) ∧
      p.state.heights =
        let copied := if copy then
          s.heights.copyEach count.toNat
            (List.range' first.toNat (e.toNat + 1 - first.toNat)).reverse else s.heights
        if reset then copied.clearEach (List.range' first.toNat count.toNat) else copied) := by
  intro e p
  have hshifted := shifted_shiftDown s first last count copy reset
  by_cases hrefuses : s.RefusesMove first last count
  · obtain ⟨f, hresult, hfailure⟩ := hshifted.of_refusesMove hrefuses
    have hp : p = .stopped s f := congrArg (Progress.ofExcept s) hresult
    rw [hp]
    refine ⟨iff_of_true ⟨f, rfl, hfailure⟩ hrefuses, iff_of_false ?_ fun h => h.1 hrefuses,
      iff_of_false nofun fun h => h.1 hrefuses, fun _ => rfl, nofun⟩
    rintro ⟨⟩
    obtain ⟨_, _, _, _, ⟨⟩⟩ := hfailure
  by_cases hlacks : s.LacksColumnName first last count
  · have hp : p = .stopped s (.breakdown (.columnWithoutName s.extent.columns)) :=
      congrArg (Progress.ofExcept s) (hshifted.of_lacksColumnName hlacks)
    rw [hp]
    refine ⟨iff_of_false ?_ hrefuses, iff_of_true rfl hlacks,
      iff_of_false nofun fun h => h.2 hlacks, fun _ => rfl, nofun⟩
    rintro ⟨_, ⟨⟩, _, _, _, _, ⟨⟩⟩
  · obtain ⟨t, hresult⟩ := hshifted.exists_ok hrefuses hlacks
    have hp : p = .done t := congrArg (Progress.ofExcept s) hresult
    rw [hp]
    refine ⟨iff_of_false nofun hrefuses, iff_of_false nofun hlacks,
      iff_of_true rfl ⟨hrefuses, hlacks⟩, fun h => ?_, fun _ hused => ?_⟩
    · exact eq_of_shiftDown_behind hresult (h.resolve_left fun hne => hne rfl)
    · refine ⟨cell_of_shiftDown hresult hused, height_of_shiftDown hresult hused, ?_⟩
      obtain ⟨-, rfl⟩ := eq_moved_of_shiftDown hresult hused
      exact moveHeights_eq ..

/-- A block that could be moved and is not: a cell was touched in the first column without a name
and stayed blank, so row 0 stays where it is though the row below is in the grid. -/
theorem shiftDown_unnamed_column :
    let s := ((∅ : Sheet).put 0 0 (some (.text "a"))).put 0 namedColumns none
    let p := Progress.ofExcept s (s.shiftDown 0 0 1 false true)
    s.InGrid ∧ s.lastRow = 0 ∧ ¬ s.RefusesMove 0 0 1 ∧
      p.fault = some (.breakdown (.columnWithoutName (namedColumns + 1))) ∧
      p.state.cell 1 0 ≠ s.cell 0 0 := by
  intro s p
  have hrow : s.lastRow = 0 := rfl
  refine ⟨(inGrid_empty.put (by decide) (by decide) _).put_none _ _, hrow, ?_, rfl, by decide⟩
  simp only [RefusesMove, hrow]
  decide

end Sheet

end SheetActions
