import Mathlib.Data.List.Pairwise
import SheetActions.Index.Run

/-! The runs of a set.

There is an index between one run of a set and the next, so no two of them touch
(`separated_runs`), and no other runs of which this holds spell the set out
(`runs_eq_of_separated`). The set up to the first index of a run therefore has the runs before
that one (`runs_below`). Each run is maximal, and a set has no maximal runs but these
(`isMaximalRun_iff`). -/
namespace SheetActions

namespace Run

theorem mem_toList {r : Run} {i : Nat} : i ∈ r.toList ↔ r.first ≤ i ∧ i < r.stop :=
  List.mem_range'_1

theorem first_lt_stop (r : Run) : r.first < r.stop :=
  Nat.lt_add_of_pos_right r.length_pos

theorem first_mem_toList (r : Run) : r.first ∈ r.toList :=
  mem_toList.mpr ⟨Nat.le_refl _, r.first_lt_stop⟩

theorem pred_stop_mem_toList (r : Run) : r.stop - 1 ∈ r.toList := by
  have hpos := r.first_lt_stop
  exact mem_toList.mpr ⟨by omega, by omega⟩

/-- There is an index between each run and those behind it. -/
def Separated (rs : List Run) : Prop :=
  rs.Pairwise fun r q => r.stop < q.first

/-- The first of separated runs starts first. -/
theorem Separated.first_le {r q : Run} {rs : List Run} (h : Separated (r :: rs))
    (hq : q ∈ r :: rs) : r.first ≤ q.first := by
  rcases List.mem_cons.mp hq with rfl | hq
  · exact Nat.le_refl _
  · exact Nat.le_of_lt (Nat.lt_trans r.first_lt_stop ((List.pairwise_cons.mp h).1 q hq))

/-- An index in front of separated runs leaves them separated. -/
theorem Separated.cons {i : Nat} {rs : List Run} (h : Separated rs) (hi : ∀ r ∈ rs, i < r.first) :
    Separated (Run.cons i rs) := by
  cases rs with
  | nil => exact List.pairwise_singleton ..
  | cons r rs =>
    obtain ⟨hr, hrs⟩ := List.pairwise_cons.mp h
    have hir : i < r.first := hi r List.mem_cons_self
    rw [Run.cons]
    split
    · refine List.pairwise_cons.mpr ⟨fun q hq => ?_, hrs⟩
      have := hr q hq
      simp only [stop] at this ⊢
      omega
    · refine List.pairwise_cons.mpr ⟨fun q hq => ?_, h⟩
      have hle := h.first_le hq
      simp only [stop]
      omega

/-- The indices of a run that touches none behind it are gathered in that run. -/
theorem foldr_cons_toList (r : Run) {rs : List Run} (h : ∀ q ∈ rs, r.stop < q.first) :
    r.toList.foldr cons rs = r :: rs := by
  obtain ⟨first, length, hpos⟩ := r
  simp only [toList, stop] at h ⊢
  induction length generalizing first with
  | zero => cases hpos
  | succ n ih =>
    rw [List.range'_succ, List.foldr_cons]
    by_cases hn : n = 0
    · subst hn
      cases rs with
      | nil => rfl
      | cons q rs =>
        have hq := h q List.mem_cons_self
        exact if_neg (by omega)
    · rw [ih (first + 1) (Nat.pos_of_ne_zero hn) fun q hq => by have := h q hq; omega]
      exact if_pos rfl

/-- Separated runs are gathered from the indices that they spell out. -/
theorem foldr_cons_flatMap {rs : List Run} (h : Separated rs) :
    (rs.flatMap toList).foldr cons [] = rs := by
  induction rs with
  | nil => rfl
  | cons r rs ih =>
    obtain ⟨hr, hrs⟩ := List.pairwise_cons.mp h
    rw [List.flatMap_cons, List.foldr_append, ih hrs, foldr_cons_toList r hr]

/-- Of two separated runs one lies behind the other. -/
theorem Separated.cases {rs : List Run} (h : Separated rs) {r q : Run} (hr : r ∈ rs)
    (hq : q ∈ rs) : r = q ∨ r.stop < q.first ∨ q.stop < r.first := by
  refine List.Pairwise.forall_of_forall_of_flip (l := rs)
    (R := fun r q => r = q ∨ r.stop < q.first ∨ q.stop < r.first) (fun r _ => .inl rfl)
    (h.imp fun hlt => .inr (.inl hlt)) (h.imp fun hlt => .inr (.inr hlt)) hr hq

end Run

namespace IndexSet
variable {t : IndexSet} {r : Run} {before after rs : List Run}

theorem separated_runs (t : IndexSet) : Run.Separated t.runs := by
  obtain ⟨l, hl⟩ := t
  rw [runs]
  induction l with
  | nil => exact .nil
  | cons i l ih =>
    obtain ⟨hi, hl⟩ := List.pairwise_cons.mp hl
    refine (ih hl).cons fun r hr => hi r.first ?_
    have hspelled : (runs ⟨l, hl⟩).flatMap Run.toList = l := flatMap_runs ⟨l, hl⟩
    rw [← hspelled]
    exact List.mem_flatMap.mpr ⟨r, hr, r.first_mem_toList⟩

/-- Separated runs that spell a set out are its runs. -/
theorem runs_eq_of_separated (h : Run.Separated rs) (hspelled : rs.flatMap Run.toList = t.toList) :
    t.runs = rs := by
  rw [runs, ← hspelled, Run.foldr_cons_flatMap h]

theorem mem_iff_exists_run {i : Nat} : i ∈ t ↔ ∃ r ∈ t.runs, r.first ≤ i ∧ i < r.stop := by
  rw [mem_iff, ← flatMap_runs, List.mem_flatMap]
  simp only [Run.mem_toList]

/-- The last index of a run is in the set. -/
theorem pred_stop_mem (h : r ∈ t.runs) : r.stop - 1 ∈ t :=
  mem_iff_exists_run.mpr ⟨r, h, Run.mem_toList.mp r.pred_stop_mem_toList⟩

theorem nodup_stops (t : IndexSet) : (t.runs.map Run.stop).Nodup := by
  refine List.pairwise_map.mpr (t.separated_runs.imp fun {r q} hlt => ?_)
  have := q.first_lt_stop
  omega

/-! ### The set up to an index -/

/-- The members of a set below an index. -/
def below (t : IndexSet) (n : Nat) : IndexSet :=
  ⟨t.toList.filter (· < n), t.ascending.filter _⟩

theorem mem_below {i n : Nat} : i ∈ t.below n ↔ i ∈ t ∧ i < n := by
  simp only [mem_iff, below, List.mem_filter, decide_eq_true_eq]

/-- The set below a run has the runs before it. -/
theorem runs_below (h : t.runs = before ++ r :: after) : (t.below r.first).runs = before := by
  have hseparated := t.separated_runs
  rw [h] at hseparated
  obtain ⟨hbefore, hrest, hacross⟩ := List.pairwise_append.mp hseparated
  refine runs_eq_of_separated hbefore ?_
  have hkept : (before.flatMap Run.toList).filter (· < r.first) = before.flatMap Run.toList := by
    refine List.filter_eq_self.mpr fun i hi => decide_eq_true ?_
    obtain ⟨q, hq, hi⟩ := List.mem_flatMap.mp hi
    exact Nat.lt_trans (Run.mem_toList.mp hi).2 (hacross q hq r List.mem_cons_self)
  have hdropped : ((r :: after).flatMap Run.toList).filter (· < r.first) = [] := by
    refine List.filter_eq_nil_iff.mpr fun i hi => ?_
    obtain ⟨q, hq, hi⟩ := List.mem_flatMap.mp hi
    have hfirst := (Run.mem_toList.mp hi).1
    have hle := Run.Separated.first_le hrest hq
    simp only [decide_eq_true_eq]
    omega
  show before.flatMap Run.toList = t.toList.filter (· < r.first)
  rw [← flatMap_runs t, h, List.flatMap_append, List.filter_append, hkept, hdropped,
    List.append_nil]

/-! ### Maximal runs -/

/-- The `length` indices from `first` on are in the set, and those on both sides of them are
not. -/
structure IsMaximalRun (t : IndexSet) (first length : Nat) : Prop where
  length_pos : 0 < length
  mem : ∀ i, first ≤ i → i < first + length → i ∈ t
  stop_not_mem : first + length ∉ t
  pred_not_mem : ∀ i, i + 1 = first → i ∉ t

/-- The index behind a run is not in the set. -/
theorem stop_not_mem (h : r ∈ t.runs) : r.stop ∉ t := by
  intro hmem
  obtain ⟨q, hq, hfirst, hstop⟩ := mem_iff_exists_run.mp hmem
  have hr := r.first_lt_stop
  rcases t.separated_runs.cases h hq with rfl | hlt | hlt <;> omega

theorem isMaximalRun_of_mem (h : r ∈ t.runs) : t.IsMaximalRun r.first r.length where
  length_pos := r.length_pos
  mem := fun _ hfirst hstop => mem_iff_exists_run.mpr ⟨r, h, hfirst, hstop⟩
  stop_not_mem := stop_not_mem h
  pred_not_mem := fun i hi hmem => by
    obtain ⟨q, hq, hfirst, hstop⟩ := mem_iff_exists_run.mp hmem
    have hr := r.first_lt_stop
    rcases t.separated_runs.cases h hq with rfl | hlt | hlt <;> omega

/-- The maximal runs of a set are its runs. -/
theorem isMaximalRun_iff {first length : Nat} :
    t.IsMaximalRun first length ↔ ∃ r ∈ t.runs, r.first = first ∧ r.length = length := by
  constructor
  · intro h
    have hfirst : first ∈ t := h.mem first (Nat.le_refl _) (Nat.lt_add_of_pos_right h.length_pos)
    obtain ⟨r, hr, hle, hlt⟩ := mem_iff_exists_run.mp hfirst
    have hmaximal := isMaximalRun_of_mem hr
    have hstart : r.first = first := by
      by_contra hne
      refine h.pred_not_mem (first - 1) (by omega) (hmaximal.mem _ (by omega) ?_)
      simp only [Run.stop] at hlt
      omega
    refine ⟨r, hr, hstart, ?_⟩
    -- the shorter of the two would have its stop in the other
    rcases Nat.lt_trichotomy r.length length with hlen | hlen | hlen
    · exact absurd (h.mem _ (by omega) (by omega)) hmaximal.stop_not_mem
    · exact hlen
    · exact absurd (hmaximal.mem _ (by omega) (by omega)) h.stop_not_mem
  · rintro ⟨r, hr, rfl, rfl⟩
    exact isMaximalRun_of_mem hr

end IndexSet

end SheetActions
