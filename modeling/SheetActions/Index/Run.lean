import SheetActions.Index.Set

/-! Maximal runs of consecutive indices.

`IndexSet.runs` cuts a set into runs: each run is as long as it can be, so the next
one starts more than one past its end. Spelling the runs out gives the set back
(`flatMap_runs`). The indices are put in front of the runs one by one (`Run.cons`);
putting them behind (`Run.snoc`) gives the same runs. -/
namespace SheetActions

/-- Consecutive indices: `length` of them from `first` on. -/
structure Run where
  first : Nat
  length : Nat
  length_pos : 0 < length := by omega
deriving DecidableEq

namespace Run

def toList (r : Run) : List Nat := List.range' r.first r.length

/-- The first index behind a run. -/
def stop (r : Run) : Nat := r.first + r.length

/-- Puts an index in front of runs that it precedes: into the first run if it touches
it, else as a run of its own. -/
def cons (i : Nat) : List Run → List Run
  | [] => [{ first := i, length := 1 }]
  | r :: rs =>
    if i + 1 = r.first then { first := i, length := r.length + 1 } :: rs
    else { first := i, length := 1 } :: r :: rs

/-- Puts an index behind runs: into the last run if it touches it, else as a run of its own. -/
def snoc (rs : List Run) (i : Nat) : List Run :=
  match rs.getLast? with
  | none => [{ first := i, length := 1 }]
  | some r =>
    if r.stop = i then rs.dropLast ++ [{ first := r.first, length := r.length + 1 }]
    else rs ++ [{ first := i, length := 1 }]

theorem snoc_concat (rs : List Run) (r : Run) (i : Nat) :
    snoc (rs ++ [r]) i =
      if r.stop = i then rs ++ [{ first := r.first, length := r.length + 1 }]
      else rs ++ [r] ++ [{ first := i, length := 1 }] := by
  simp only [snoc, List.getLast?_concat, List.dropLast_concat]

theorem flatMap_cons (i : Nat) (rs : List Run) :
    (cons i rs).flatMap toList = i :: rs.flatMap toList := by
  cases rs with
  | nil => rfl
  | cons r rs =>
    rw [cons]
    split
    · rename_i h
      simp [toList, List.range'_succ, h]
    · simp [toList, List.range'_succ]

end Run

namespace IndexSet

/-- The maximal runs of a set in ascending order. -/
def runs (t : IndexSet) : List Run :=
  t.toList.foldr Run.cons []

/-- Spelling the runs out gives the indices back. -/
theorem flatMap_runs (t : IndexSet) : t.runs.flatMap Run.toList = t.toList := by
  rw [runs]
  induction t.toList with
  | nil => rfl
  | cons i l ih => rw [List.foldr_cons, Run.flatMap_cons, ih]

end IndexSet

end SheetActions
