import SheetActions.Ascending

/-! Sets of row or column indices.

An index set is a list of naturals in strictly ascending order, so two sets with
the same members are equal (`ext_mem`). Sets grow by whole intervals: `insertInterval`
adds consecutive indices. -/
namespace SheetActions

/-- The greatest row index of a worksheet. -/
def maxRowIndex : Nat := 1048575

/-- The greatest column index of a worksheet. -/
def maxColumnIndex : Nat := 16383

/-- A set of indices, listed in ascending order. -/
structure IndexSet where
  toList : List Nat
  ascending : toList.Pairwise (· < ·)
deriving DecidableEq

namespace IndexSet

instance : Membership Nat IndexSet where
  mem t i := i ∈ t.toList

instance (i : Nat) (t : IndexSet) : Decidable (i ∈ t) :=
  inferInstanceAs (Decidable (i ∈ t.toList))

theorem mem_iff {i : Nat} {t : IndexSet} : i ∈ t ↔ i ∈ t.toList := Iff.rfl

def empty : IndexSet := ⟨[], .nil⟩

instance : EmptyCollection IndexSet := ⟨empty⟩

instance : Inhabited IndexSet := ⟨empty⟩

@[simp] theorem not_mem_empty {i : Nat} : i ∉ empty := List.not_mem_nil

def size (t : IndexSet) : Nat := t.toList.length

def isEmpty (t : IndexSet) : Bool := t.toList.isEmpty

/-- The greatest index. -/
def max? (t : IndexSet) : Option Nat := t.toList.getLast?

/-- The index at a position; negative positions count from the end. -/
def at? (t : IndexSet) (i : Int) : Option Nat :=
  let position := if i < 0 then i + t.size else i
  if position < 0 then none else t.toList[position.toNat]?

/-- Two ascending lists with the same members are equal. -/
theorem ext_mem {s t : IndexSet} (h : ∀ i, i ∈ s ↔ i ∈ t) : s = t := by
  obtain ⟨l, hl⟩ := s
  obtain ⟨m, hm⟩ := t
  congr 1
  exact Ascending.eq_of_mem_iff (fun _ _ => Nat.lt_asymm) hl hm h

/-! ### Intervals -/

/-- The `length` indices from `first` on. -/
def interval (first length : Nat) : IndexSet :=
  ⟨List.range' first length, List.pairwise_lt_range'⟩

@[simp] theorem mem_interval {i first length : Nat} :
    i ∈ interval first length ↔ first ≤ i ∧ i < first + length :=
  List.mem_range'_1

theorem pairwise_filter_append {first length : Nat} {l : List Nat} (hl : l.Pairwise (· < ·)) :
    (l.filter (· < first) ++ (List.range' first length ++
      l.filter (first + length ≤ ·))).Pairwise (· < ·) := by
  refine List.pairwise_append.mpr ⟨hl.filter _, List.pairwise_append.mpr
    ⟨List.pairwise_lt_range', hl.filter _, fun i hi j hj => ?_⟩, fun i hi j hj => ?_⟩
  · have h₁ := List.mem_range'_1.mp hi
    have h₂ := of_decide_eq_true (List.mem_filter.mp hj).2
    omega
  · have h₁ := of_decide_eq_true (List.mem_filter.mp hi).2
    rcases List.mem_append.mp hj with hj | hj
    · have h₂ := List.mem_range'_1.mp hj
      omega
    · have h₂ := of_decide_eq_true (List.mem_filter.mp hj).2
      omega

/-- The set with the `length` indices from `first` on added. -/
def insertInterval (t : IndexSet) (first length : Nat) : IndexSet :=
  ⟨t.toList.filter (· < first) ++ (List.range' first length ++
    t.toList.filter (first + length ≤ ·)), pairwise_filter_append t.ascending⟩

theorem mem_insertInterval {t : IndexSet} {i first length : Nat} :
    i ∈ t.insertInterval first length ↔ (first ≤ i ∧ i < first + length) ∨ i ∈ t := by
  simp only [mem_iff, insertInterval, List.mem_append, List.mem_filter, List.mem_range'_1,
    decide_eq_true_eq]
  by_cases hi : i ∈ t.toList <;> simp only [hi, true_and, false_and, or_true, or_false, false_or,
    iff_true]
  omega

/-! ### Moving and building -/

/-- Every index moved up by `n`. -/
def shift (t : IndexSet) (n : Nat) : IndexSet :=
  ⟨t.toList.map (· + n), List.pairwise_map.mpr (t.ascending.imp fun h => Nat.add_lt_add_right h n)⟩

theorem mem_shift {t : IndexSet} {i n : Nat} : i ∈ t.shift n ↔ ∃ j ∈ t, j + n = i := by
  simp [mem_iff, shift]

/-- Why a list of integers is no index set. -/
inductive Flaw where
  | negative
  | notAscending
deriving DecidableEq, Repr

/-- The index set of a list of integers that is strictly ascending and not negative. -/
def ofInts (l : List Int) : Except Flaw IndexSet :=
  if l.any (· < 0) then .error .negative
  else
    let m := l.map Int.toNat
    if h : Ascending.ascends m then .ok ⟨m, Ascending.ascends_iff.mp h⟩ else .error .notAscending

/-- Every index moved by an integer. -/
def shiftBy (t : IndexSet) (delta : Int) : Except Flaw IndexSet :=
  ofInts (t.toList.map fun (i : Nat) => (i : Int) + delta)

end IndexSet

end SheetActions
