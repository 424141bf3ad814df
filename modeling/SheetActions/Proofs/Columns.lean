import Mathlib.Data.List.Basic
import SheetActions.Proofs.Spelled
import SheetActions.Proofs.Stages

/-! The columns of data.

The columns that data goes to lie in the grid (`le_of_resolveColumns`). Whether there are
columns for some data is a matter of each of its rows (`exists_serves_iff`), and the tokens
of a row meet the same columns in all data that the row is part of (`Serves.zip_eq`). So
data in two parts goes to the cells that the parts go to (`targets_append`). -/
namespace SheetActions

namespace Placement
variable {spec : String} {count : Nat} {columns columns' : IndexSet} {data a b : Payload}

theorem le_of_resolveColumns (h : resolveColumns spec count = .ok columns) :
    ∀ c ∈ columns, c ≤ maxColumnIndex := by
  simp only [resolveColumns, IndexSpec.parseOptional_some, bind_eq_ok] at h
  obtain ⟨explicit, hexplicit, h⟩ := h
  intro c hc
  split at h
  · cases h
    have hle := IndexSpec.le_of_parse hexplicit c hc
    omega
  · split at h
    · cases h
    · cases h
      have hlt := (IndexSet.mem_interval.mp hc).2
      omega

/-- A specification serves data with columns that it resolves to and all rows fit into. -/
structure Serves (spec : String) (data : Payload) (columns : IndexSet) : Prop where
  resolved : resolveColumns spec data.columnCount = .ok columns
  fits : ∀ row ∈ data.rows, row.length ≤ columns.size

/-- The number of columns that there are for a row when nothing else is in the way. -/
def room (explicit : IndexSet) : Nat :=
  if explicit.isEmpty then maxColumnIndex + 1 else explicit.size

theorem size_interval (first length : Nat) : (IndexSet.interval first length).size = length :=
  List.length_range'

/-- The columns are those that are named, or as many as the data is wide. -/
theorem serves_iff : Serves spec data columns ↔
    ∃ explicit, IndexSpec.parse spec maxColumnIndex = .ok explicit ∧
      (∀ row ∈ data.rows, row.length ≤ room explicit) ∧
      columns = if explicit.isEmpty then .interval 0 data.columnCount else explicit := by
  constructor
  · rintro ⟨hcolumns, hfits⟩
    simp only [resolveColumns, IndexSpec.parseOptional_some, bind_eq_ok] at hcolumns
    obtain ⟨explicit, hexplicit, hcolumns⟩ := hcolumns
    refine ⟨explicit, hexplicit, ?_⟩
    cases hempty : explicit.isEmpty
    · simp only [hempty, Bool.not_false, if_true] at hcolumns
      cases hcolumns
      simpa [room, hempty] using hfits
    · simp only [hempty, Bool.not_true, Bool.false_eq_true, if_false] at hcolumns
      split at hcolumns
      · cases hcolumns
      · cases hcolumns
        simp only [room, hempty, if_true, and_true]
        exact Payload.columnCount_le_iff.mp (by omega)
  · rintro ⟨explicit, hexplicit, hroom, rfl⟩
    cases hempty : explicit.isEmpty
    · simp only [room, hempty, Bool.false_eq_true, if_false] at hroom ⊢
      refine ⟨bind_eq_ok.mpr ⟨explicit, hexplicit, ?_⟩, hroom⟩
      simp only [hempty, Bool.not_false, if_true]
      rfl
    · simp only [room, hempty, if_true] at hroom ⊢
      have hwidth := Payload.columnCount_le_iff.mpr hroom
      refine ⟨bind_eq_ok.mpr ⟨explicit, hexplicit, ?_⟩, ?_⟩
      · simp only [hempty, Bool.not_true, Bool.false_eq_true, if_false]
        rw [if_neg (by omega)]
        rfl
      · rw [size_interval]
        exact Payload.columnCount_le_iff.mp (Nat.le_refl _)

theorem exists_serves_iff : (∃ columns, Serves spec data columns) ↔
    ∃ explicit, IndexSpec.parse spec maxColumnIndex = .ok explicit ∧
      ∀ row ∈ data.rows, row.length ≤ room explicit := by
  simp only [serves_iff]
  constructor
  · rintro ⟨_, explicit, hexplicit, hroom, _⟩
    exact ⟨explicit, hexplicit, hroom⟩
  · rintro ⟨explicit, hexplicit, hroom⟩
    exact ⟨_, explicit, hexplicit, hroom, rfl⟩

/-- There are columns for data in two parts when there are for each of the parts. -/
theorem exists_serves_append_iff (h : data.rows = a.rows ++ b.rows) :
    (∃ columns, Serves spec data columns) ↔
      (∃ columns, Serves spec a columns) ∧ ∃ columns, Serves spec b columns := by
  simp only [exists_serves_iff, h, List.forall_mem_append]
  constructor
  · rintro ⟨explicit, hexplicit, ha, hb⟩
    exact ⟨⟨explicit, hexplicit, ha⟩, explicit, hexplicit, hb⟩
  · rintro ⟨⟨explicit, hexplicit, ha⟩, explicit', hexplicit', hb⟩
    cases hexplicit.symm.trans hexplicit'
    exact ⟨explicit, hexplicit, ha, hb⟩

theorem zip_range' {α : Type} {l : List α} {k n : Nat} (h : l.length ≤ n) :
    l.zip (List.range' k n) = l.zipIdx k := by
  induction l generalizing k n with
  | nil => rfl
  | cons x l ih =>
    obtain ⟨m, rfl⟩ : ∃ m, n = m + 1 := ⟨n - 1, by simp only [List.length_cons] at h; omega⟩
    rw [List.range'_succ, List.zip_cons_cons, List.zipIdx_cons,
      ih (by simpa using h)]

/-- The tokens of a row meet the same columns in all data with the row. -/
theorem Serves.zip_eq (hdata : Serves spec data columns) (ha : Serves spec a columns')
    {row : List String} (hrow : row ∈ data.rows) (hrow' : row ∈ a.rows) :
    row.zip columns.toList = row.zip columns'.toList := by
  have hfits := hdata.fits row hrow
  have hfits' := ha.fits row hrow'
  obtain ⟨explicit, hexplicit, _, rfl⟩ := serves_iff.mp hdata
  obtain ⟨explicit', hexplicit', _, rfl⟩ := serves_iff.mp ha
  cases hexplicit.symm.trans hexplicit'
  cases hempty : explicit.isEmpty
  · rfl
  · simp only [hempty, if_true, size_interval] at hfits hfits' ⊢
    exact (zip_range' hfits).trans (zip_range' hfits').symm

end Placement

namespace Sheet
variable {data a b : Payload} {rows first second columns : IndexSet} {spec : String}

/-- Tokens go to the cells that they go to in all data with their rows. -/
theorem targets_of_serves {columns' : IndexSet} (hdata : Placement.Serves spec data columns)
    (ha : Placement.Serves spec a columns') (h : a.rows ⊆ data.rows) :
    targets a rows columns' = targets a rows columns := by
  simp only [targets]
  refine List.flatMap_congr fun x hx => ?_
  have hrow : x.1 ∈ a.rows := (List.of_mem_zip hx).1
  rw [hdata.zip_eq ha (h hrow) hrow]

/-- Data in two parts goes to the cells that its parts go to. -/
theorem targets_append (hdata : data.rows = a.rows ++ b.rows)
    (hrows : rows.toList = first.toList ++ second.toList)
    (hcount : a.rowCount = first.size) :
    targets data rows columns = targets a first columns ++ targets b second columns := by
  simp only [targets, hdata, hrows]
  rw [List.zip_append hcount, List.flatMap_append]

end Sheet

end SheetActions
