import SheetActions.Index.Run
import SheetActions.Sheet.Progress
import SheetActions.Sheet.Shift

/-! Opening blank rows at scattered places.

The target rows are positions in the sheet as it will be. One block move for each
maximal run of targets opens them, from the first run to the last: each moves
everything from the run on, the rows of later targets included, so a later run
only has to know how far the sheet has grown. A run behind the used rows still
gets a move, of an empty block. -/
namespace SheetActions

/-- One block move: the rows from `first` to `last` go down by `count`. -/
structure Opening where
  first : Nat
  last : Nat
  count : Nat
  copyHeights : Bool := false
  resetHeights : Bool := true
deriving DecidableEq

namespace Opening

/-- The moves for some runs, on a sheet whose last used row is `last` by then. -/
def planFrom (last : Int) : List Run → List Opening
  | [] => []
  | r :: rs =>
    { first := r.first, last := (max last r.first).toNat, count := r.length } ::
      planFrom (last + r.length) rs

/-- The moves that open the target rows on a sheet with the given last used row, which
is -1 for an empty sheet. -/
def plan (rows : IndexSet) (last : Int) : List Opening :=
  planFrom last rows.runs

/-- Makes the moves in order on any kind of sheet, up to the first one that is refused. -/
def execute {σ : Type} (move : σ → Opening → Except Fault σ) (s : σ) (plan : List Opening) :
    Progress σ :=
  Progress.run (fun s o => .ofExcept s (move s o)) s plan

/-- The move on a worksheet. -/
def apply (s : Sheet) (o : Opening) : Except Fault Sheet :=
  s.shiftDown o.first o.last o.count o.copyHeights o.resetHeights

/-- The move on a log of moves that has room for a limited number of them. -/
def record (limit : Option Nat) (reason : Option String) (log : List Opening) (o : Opening) :
    Except Fault (List Opening) :=
  if limit = some log.length then
    .error (.refusal (.shiftFailure o.first o.last o.count reason))
  else .ok (log ++ [o])

end Opening

/-- Opens blank rows at the targets. -/
def Sheet.openRows (s : Sheet) (rows : IndexSet) : Progress Sheet :=
  Opening.execute Opening.apply s (Opening.plan rows s.lastRow)

end SheetActions
