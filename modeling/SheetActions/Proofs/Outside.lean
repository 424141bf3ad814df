import Mathlib.Data.Nat.Nth
import SheetActions.Index.Run

/-! Indices outside a set.

Inserting rows moves the others up: row `k` goes to the `k`-th index that is not a
target. `skip` follows one index through a list of insertions made in ascending order,
one at a time, and `IndexSet.outside` is the index it reaches. It passes over the members
of the set and over nothing else, so it counts the indices outside the set in order
(`outside_eq_nth`). A run of consecutive insertions is one jump (`skip_run`). -/
namespace SheetActions

/-- Where an index goes when those of a list are put in one after the other: at or above
one of them it moves up by one. -/
def skip (l : List Nat) (k : Nat) : Nat :=
  l.foldl (fun i j => if j ≤ i then i + 1 else i) k

theorem skip_nil (k : Nat) : skip [] k = k := rfl

theorem skip_cons (j : Nat) (l : List Nat) (k : Nat) :
    skip (j :: l) k = skip l (if j ≤ k then k + 1 else k) := rfl

theorem skip_append (l m : List Nat) (k : Nat) : skip (l ++ m) k = skip m (skip l k) :=
  List.foldl_append ..

theorem skip_strictMono (l : List Nat) : StrictMono (skip l) := by
  induction l with
  | nil => exact strictMono_id
  | cons j l ih =>
    intro a b hab
    rw [skip_cons, skip_cons]
    apply ih
    split <;> split <;> omega

theorem le_skip (l : List Nat) (k : Nat) : k ≤ skip l k :=
  (skip_strictMono l).le_apply

/-- Nothing that is put in above an index moves it. -/
theorem skip_of_lt {l : List Nat} {k : Nat} (h : ∀ j ∈ l, k < j) : skip l k = k := by
  induction l with
  | nil => rfl
  | cons j l ih =>
    have hj : k < j := h j (List.mem_cons_self ..)
    rw [skip_cons, if_neg (by omega)]
    exact ih fun i hi => h i (List.mem_cons_of_mem _ hi)

/-- Consecutive insertions are one jump. -/
theorem skip_range' (first length k : Nat) :
    skip (List.range' first length) k = if first ≤ k then k + length else k := by
  induction length generalizing first k with
  | zero => simp [skip_nil]
  | succ n ih =>
    rw [List.range'_succ, skip_cons, ih]
    split <;> split <;> omega

theorem skip_run (r : Run) (k : Nat) :
    skip r.toList k = if r.first ≤ k then k + r.length else k :=
  skip_range' r.first r.length k

/-- What was put in is passed over. -/
theorem skip_not_mem {l : List Nat} (h : l.Pairwise (· < ·)) (k : Nat) : skip l k ∉ l := by
  induction l generalizing k with
  | nil => exact List.not_mem_nil
  | cons j l ih =>
    have hl := List.pairwise_cons.mp h
    rw [skip_cons, List.mem_cons, not_or]
    refine ⟨?_, ih hl.2 _⟩
    by_cases hk : j ≤ k
    · have := le_skip l (k + 1)
      rw [if_pos hk]
      omega
    · have : skip l k = k := skip_of_lt fun i hi => by have := hl.1 i hi; omega
      rw [if_neg hk, this]
      omega

/-- Nothing else is passed over. -/
theorem exists_skip_eq {l : List Nat} (h : l.Pairwise (· < ·)) {i : Nat} (hi : i ∉ l) :
    ∃ k, skip l k = i := by
  induction l with
  | nil => exact ⟨i, rfl⟩
  | cons j l ih =>
    have hl := List.pairwise_cons.mp h
    rw [List.mem_cons, not_or] at hi
    obtain ⟨k, hk⟩ := ih hl.2 hi.2
    have hne : k ≠ j := by
      rintro rfl
      exact hi.1 (hk.symm.trans (skip_of_lt hl.1))
    by_cases hj : j < k
    · refine ⟨k - 1, ?_⟩
      rw [skip_cons, if_pos (by omega), Nat.sub_add_cancel (by omega), hk]
    · refine ⟨k, ?_⟩
      rw [skip_cons, if_neg (by omega), hk]

/-! ### Sets -/

namespace IndexSet

/-- The `k`-th index that is not in the set, counted from zero. -/
def outside (t : IndexSet) (k : Nat) : Nat :=
  skip t.toList k

theorem outside_strictMono (t : IndexSet) : StrictMono t.outside :=
  skip_strictMono t.toList

theorem outside_not_mem (t : IndexSet) (k : Nat) : t.outside k ∉ t :=
  skip_not_mem t.ascending k

theorem exists_outside_eq {t : IndexSet} {i : Nat} (h : i ∉ t) : ∃ k, t.outside k = i :=
  exists_skip_eq t.ascending h

/-- The indices outside a set are counted in order and completely. -/
theorem outside_eq_nth (t : IndexSet) (k : Nat) : t.outside k = Nat.nth (· ∉ t) k := by
  have hall : ∀ i, t.outside i ∉ t := t.outside_not_mem
  have hinfinite : (Set.ofPred (· ∉ t)).Infinite :=
    (Set.infinite_range_of_injective t.outside_strictMono.injective).mono
      (Set.range_subset_iff.mpr hall)
  have hnth := Nat.nth_comp_of_strictMono (p := (· ∉ t)) (n := k) t.outside_strictMono
    (fun i hi => exists_outside_eq hi) fun hfinite => absurd hfinite hinfinite
  rw [Nat.nth_of_forall fun i _ => hall i] at hnth
  exact hnth

/-- With rows put in at 2, 3 and 7, row 5 becomes row 8. -/
example : (IndexSet.insertInterval (.interval 2 2) 7 1).outside 5 = 8 := by decide

end IndexSet

end SheetActions
