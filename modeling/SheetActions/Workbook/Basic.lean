import SheetActions.Sheet.Basic

/-! Workbooks: worksheets in order, each with a name.

A worksheet is found by its exact name. Putting a sheet in the place of the one of
a name changes no other sheet and no name (`sheet?_put`, `names_put`). -/
namespace SheetActions

structure Workbook where
  sheets : List (String × Sheet)

namespace Workbook

/-- The names of the worksheets, in order. -/
def names (w : Workbook) : List String :=
  w.sheets.map (·.1)

/-- The worksheet with a name. -/
def sheet? (w : Workbook) (name : String) : Option Sheet :=
  (w.sheets.find? (·.1 = name)).map (·.2)

/-- A workbook with blank worksheets. -/
def blank (names : List String) : Workbook :=
  ⟨names.map (·, ∅)⟩

/-- Puts a sheet in the place of the one with the given name. -/
def put (w : Workbook) (name : String) (s : Sheet) : Workbook :=
  ⟨w.sheets.map fun e => if e.1 = name then (name, s) else e⟩

theorem names_put (w : Workbook) (name : String) (s : Sheet) : (w.put name s).names = w.names := by
  simp only [names, put, List.map_map]
  refine List.map_congr_left fun e _ => ?_
  simp only [Function.comp]
  split
  · rename_i h
    exact h.symm
  · rfl

theorem sheet?_put (w : Workbook) (name : String) (s : Sheet) (other : String) :
    (w.put name s).sheet? other =
      if other = name then (w.sheet? name).map fun _ => s else w.sheet? other := by
  obtain ⟨l⟩ := w
  simp only [sheet?, put]
  induction l with
  | nil => simp
  | cons e l ih =>
    simp only [List.map_cons, List.find?_cons]
    by_cases he : e.1 = name
    · rw [if_pos he]
      by_cases ho : other = name
      · simp [he, ho]
      · have h : ¬ e.1 = other := fun h => ho (h ▸ he)
        simp only [Ne.symm (Ne.intro ho), decide_false, h, ih, if_neg ho]
    · rw [if_neg he]
      by_cases ho : other = name
      · subst ho
        simpa only [he, decide_false, if_pos rfl] using ih
      · rw [if_neg ho] at ih ⊢
        by_cases h : e.1 = other
        · simp [h]
        · simpa only [h, decide_false] using ih

theorem names_blank (l : List String) : (blank l).names = l := by
  simp [names, blank, Function.comp_def]

end Workbook

end SheetActions
