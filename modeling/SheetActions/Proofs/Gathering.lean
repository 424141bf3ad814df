import Mathlib.Data.List.Chain
import Mathlib.Data.List.Perm.Subperm
import SheetActions.Proofs.Runs

/-! The runs of a set are the only ones, and few.

The runs can be gathered in one pass over the indices: each index lengthens the last run when it
touches it, and starts a run of its own when it does not (`Run.snoc`). An index that is put behind
separated runs leaves them separated (`Run.Separated.snoc`), and so the pass ends with the runs of
the set (`runs_eq_foldl`). Each run ends where one of any intervals with the same union does, so
there are at least as many of those as there are runs (`length_runs_le`). `runs_spec` says this of
the runs as pairs of a first index and a length. -/
namespace SheetActions

/-! ### One pass over the indices -/

namespace Run

theorem flatMap_snoc (rs : List Run) (i : Nat) :
    (snoc rs i).flatMap toList = rs.flatMap toList ++ [i] := by
  rcases List.eq_nil_or_concat' rs with rfl | ⟨rs, r, rfl⟩
  · rfl
  · rw [snoc_concat]
    split
    · rename_i htouches
      simp [toList, List.range'_1_concat, ← htouches, stop]
    · simp [toList]

theorem flatMap_foldl_snoc (rs : List Run) (l : List Nat) :
    (l.foldl snoc rs).flatMap toList = rs.flatMap toList ++ l := by
  induction l generalizing rs with
  | nil => exact (List.append_nil _).symm
  | cons i l ih => rw [List.foldl_cons, ih, flatMap_snoc, List.append_assoc, List.singleton_append]

/-- Runs of indices below `i` stop at `i` or before. -/
theorem stop_le {rs : List Run} {i : Nat} (hi : ∀ j ∈ rs.flatMap toList, j < i) {r : Run}
    (hr : r ∈ rs) : r.stop ≤ i := by
  have hlast := hi _ (List.mem_flatMap.mpr ⟨r, hr, r.pred_stop_mem_toList⟩)
  omega

/-- An index behind separated runs leaves them separated. -/
theorem Separated.snoc {rs : List Run} {i : Nat} (h : Separated rs)
    (hi : ∀ j ∈ rs.flatMap toList, j < i) : Separated (Run.snoc rs i) := by
  rcases List.eq_nil_or_concat' rs with rfl | ⟨rs, r, rfl⟩
  · exact List.pairwise_singleton ..
  · obtain ⟨hrs, -, hlast⟩ := List.pairwise_append.mp h
    have hbefore : ∀ q ∈ rs, q.stop < r.first := fun q hq =>
      hlast q hq r (List.mem_singleton_self r)
    have hstop : r.stop ≤ i := stop_le hi (List.mem_append_right rs (List.mem_singleton_self r))
    rw [snoc_concat]
    -- a longer last run starts where it did, and a new one is not touched by the last one
    split
    · refine List.pairwise_append.mpr ⟨hrs, List.pairwise_singleton .., fun q hq p hp => ?_⟩
      rw [List.mem_singleton.mp hp]
      exact hbefore q hq
    · refine List.pairwise_append.mpr ⟨h, List.pairwise_singleton .., fun q hq p hp => ?_⟩
      rw [List.mem_singleton.mp hp]
      show q.stop < i
      rcases List.mem_append.mp hq with hq | hq
      · have hqr := hbefore q hq
        have hr := r.first_lt_stop
        omega
      · rw [List.mem_singleton.mp hq]
        omega

/-- A pass over ascending indices leaves the runs separated. -/
theorem Separated.foldl_snoc {rs : List Run} {l : List Nat} (h : Separated rs)
    (ascending : (rs.flatMap toList ++ l).Pairwise (· < ·)) : Separated (l.foldl Run.snoc rs) := by
  induction l generalizing rs with
  | nil => exact h
  | cons i l ih =>
    obtain ⟨-, -, hacross⟩ := List.pairwise_append.mp ascending
    refine ih (h.snoc fun j hj => hacross j hj i List.mem_cons_self) ?_
    rwa [flatMap_snoc, List.append_assoc, List.singleton_append]

/-- Runs are separated when none touches the next one. -/
theorem separated_iff_isChain {rs : List Run} :
    Separated rs ↔ rs.IsChain fun r q => r.stop < q.first := by
  have : IsTrans Run fun r q => r.stop < q.first :=
    ⟨fun r q p hrq hqp => Nat.lt_trans (Nat.lt_trans hrq q.first_lt_stop) hqp⟩
  exact List.isChain_iff_pairwise.symm

/-- Pairs with lengths that are not zero are those of some runs. -/
theorem exists_map_eq {pairs : List (Nat × Nat)} (h : ∀ p ∈ pairs, 1 ≤ p.2) :
    ∃ rs : List Run, rs.map (fun r => (r.first, r.length)) = pairs := by
  induction pairs with
  | nil => exact ⟨[], rfl⟩
  | cons p pairs ih =>
    obtain ⟨hp, hpairs⟩ := List.forall_mem_cons.mp h
    obtain ⟨rs, hrs⟩ := ih hpairs
    exact ⟨{ first := p.1, length := p.2, length_pos := hp } :: rs, by rw [List.map_cons, hrs]⟩

end Run

namespace IndexSet
variable {t : IndexSet} {r : Run}

/-- One pass over the indices gathers the runs. -/
theorem runs_eq_foldl (t : IndexSet) : t.runs = t.toList.foldl Run.snoc [] :=
  runs_eq_of_separated (Run.Separated.foldl_snoc .nil t.ascending)
    (Run.flatMap_foldl_snoc [] t.toList)

/-! ### Intervals with the same union -/

/-- No intervals with the same union are fewer than the runs. -/
theorem length_runs_le {intervals : List (Nat × Nat)}
    (h : ∀ i, i ∈ t ↔ ∃ p ∈ intervals, p.1 ≤ i ∧ i < p.1 + p.2) :
    t.runs.length ≤ intervals.length := by
  have hends : t.runs.map Run.stop ⊆ intervals.map fun p => p.1 + p.2 := by
    intro i hi
    obtain ⟨r, hr, rfl⟩ := List.mem_map.mp hi
    obtain ⟨p, hp, hfirst, hlast⟩ := (h _).mp (pred_stop_mem hr)
    -- an interval that went on behind the last index of a run would hold its stop
    have hpast : ¬ r.stop < p.1 + p.2 := fun hlt =>
      stop_not_mem hr ((h _).mpr ⟨p, hp, by omega, hlt⟩)
    exact List.mem_map.mpr ⟨p, hp, by omega⟩
  have hlength := (List.subperm_of_subset t.nodup_stops hends).length_le
  rwa [List.length_map, List.length_map] at hlength

/-- The runs of the indices before a run are the runs before it. -/
theorem runs_below_concat_prefix (h : r ∈ t.runs) : (t.below r.first).runs ++ [r] <+: t.runs := by
  obtain ⟨before, after, hruns⟩ := List.append_of_mem h
  rw [runs_below hruns, hruns]
  exact ⟨after, by rw [List.append_assoc, List.singleton_append]⟩

/-- Only the pairs of the runs spell the set out with none of them empty and none touching the
next. -/
theorem eq_map_runs_iff {pairs : List (Nat × Nat)} :
    pairs = t.runs.map (fun r => (r.first, r.length)) ↔
      pairs.flatMap (fun p => List.range' p.1 p.2) = t.toList ∧ (∀ p ∈ pairs, 1 ≤ p.2) ∧
        pairs.IsChain fun p q => p.1 + p.2 < q.1 := by
  constructor
  · rintro rfl
    refine ⟨?_, ?_, ?_⟩
    · rw [List.flatMap_map]
      exact flatMap_runs t
    · rw [List.forall_mem_map]
      exact fun r _ => r.length_pos
    · rw [List.isChain_map]
      exact Run.separated_iff_isChain.mp t.separated_runs
  · rintro ⟨hspelled, hpos, hapart⟩
    obtain ⟨rs, rfl⟩ := Run.exists_map_eq hpos
    rw [List.flatMap_map] at hspelled
    rw [List.isChain_map] at hapart
    rw [runs_eq_of_separated (Run.separated_iff_isChain.mpr hapart) hspelled]

/-- **The runs of a set.** As pairs of a first index and a length they spell the set out in order,
none of them is empty, and there is an index between each and the next; no other list of pairs does
this. They are the maximal runs, and one pass over the indices gathers them. No intervals with the
same union are fewer, in whatever order and however they overlap, and the indices before the first
one of a run have the runs before that run. -/
theorem runs_spec (t : IndexSet) :
    (∀ pairs : List (Nat × Nat), pairs = t.runs.map (fun r => (r.first, r.length)) ↔
      pairs.flatMap (fun p => List.range' p.1 p.2) = t.toList ∧ (∀ p ∈ pairs, 1 ≤ p.2) ∧
        pairs.IsChain fun p q => p.1 + p.2 < q.1) ∧
    (∀ first length, t.IsMaximalRun first length ↔
      ∃ r ∈ t.runs, r.first = first ∧ r.length = length) ∧
    t.runs = t.toList.foldl Run.snoc [] ∧
    (∀ intervals : List (Nat × Nat),
      (∀ i, i ∈ t ↔ ∃ p ∈ intervals, p.1 ≤ i ∧ i < p.1 + p.2) →
      t.runs.length ≤ intervals.length) ∧
    (∀ r ∈ t.runs, (t.below r.first).runs ++ [r] <+: t.runs) :=
  ⟨fun _ => eq_map_runs_iff, fun _ _ => isMaximalRun_iff, t.runs_eq_foldl,
    fun _ => length_runs_le, fun _ => runs_below_concat_prefix⟩

/-- The indices 0, 1, 5, 6, 7 and 12 are three runs and not the union of two intervals, and those
before 5 have the runs before the one that starts there. -/
theorem runs_spec_threeRuns :
    let t := ((IndexSet.interval 0 2).insertInterval 5 3).insertInterval 12 1
    t.runs.map (fun r => (r.first, r.length)) = [(0, 2), (5, 3), (12, 1)] ∧
    (∀ p q : Nat × Nat, ¬ ∀ i, i ∈ t ↔ ∃ x ∈ [p, q], x.1 ≤ i ∧ i < x.1 + x.2) ∧
    (t.below 5).runs ++ [{ first := 5, length := 3 }] <+: t.runs := by
  intro t
  obtain ⟨hunique, -, -, hfewest, hprefix⟩ := runs_spec t
  have hpairs : t.runs.map (fun r => (r.first, r.length)) = [(0, 2), (5, 3), (12, 1)] :=
    ((hunique _).mpr (by decide)).symm
  refine ⟨hpairs, fun p q hunion => ?_, hprefix { first := 5, length := 3 } (by decide)⟩
  have hlength := hfewest [p, q] hunion
  rw [← List.length_map (fun r : Run => (r.first, r.length)), hpairs] at hlength
  exact absurd hlength (Nat.not_succ_le_self 2)

end IndexSet

end SheetActions
