import Mathlib.Data.Finset.Card
import SheetActions.Proofs.Outside
import SheetActions.Proofs.Runs

/-! Gaps between the places of rows.

When rows are pushed apart, row `k` goes to some place, and there is a gap in front of it when
that place is not right behind the place of the row before. Pushing everything from one place on
further down makes at most one gap, in front of the row that was there (`card_gaps_push_le`). The
places outside a set have a gap for each of its runs, as long as the rows go on behind the set
(`length_runs_le_card_gaps`). So as many pushes are needed as there are runs. -/
namespace SheetActions

/-- Where row `k` has to be for there to be no gap in front of it. -/
def nextPlace (place : Nat → Nat) : Nat → Nat
  | 0 => 0
  | k + 1 => place k + 1

/-- The rows among the first `n` with a gap in front of them. -/
def gaps (place : Nat → Nat) (n : Nat) : Finset Nat :=
  (Finset.range n).filter fun k => place k ≠ nextPlace place k

theorem mem_gaps {place : Nat → Nat} {n k : Nat} :
    k ∈ gaps place n ↔ k < n ∧ place k ≠ nextPlace place k := by
  rw [gaps, Finset.mem_filter, Finset.mem_range]

/-- Gaps are told by the places of the rows. -/
theorem gaps_congr {place place' : Nat → Nat} {n : Nat} (h : ∀ k < n, place k = place' k) :
    gaps place n = gaps place' n := by
  refine Finset.filter_congr fun k hk => ?_
  have hkn := Finset.mem_range.mp hk
  cases k with
  | zero => rw [h 0 hkn, nextPlace, nextPlace]
  | succ k => rw [h (k + 1) hkn, nextPlace, nextPlace, h k (Nat.lt_of_succ_lt hkn)]

/-- Rows that are where they were have no gaps. -/
theorem gaps_id (n : Nat) : gaps id n = ∅ := by
  refine Finset.filter_eq_empty_iff.mpr fun k _ => ?_
  cases k <;> exact fun h => h rfl

/-- A place once everything from `first` on is pushed down by `count`. -/
def push (first count i : Nat) : Nat :=
  if first ≤ i then i + count else i

theorem push_strictMono (first count : Nat) : StrictMono (push first count) := by
  intro i j hij
  unfold push
  split <;> split <;> omega

/-- A push makes no gap but in front of the row that was at its first place. -/
theorem gaps_push_subset (place : Nat → Nat) (first count n : Nat) :
    gaps (push first count ∘ place) n ⊆
      gaps place n ∪ (Finset.range n).filter (place · = first) := by
  intro k hk
  obtain ⟨hkn, hgap⟩ := mem_gaps.mp hk
  rw [Finset.mem_union, mem_gaps, Finset.mem_filter, Finset.mem_range, or_iff_not_imp_left]
  intro hnone
  have hplace : place k = nextPlace place k := by
    by_contra hne
    exact hnone ⟨hkn, hne⟩
  refine ⟨hkn, ?_⟩
  cases k with
  | zero =>
    simp only [nextPlace, Function.comp_apply, push] at hgap hplace
    split at hgap <;> omega
  | succ k =>
    -- the row before stayed where it was, and this one did not
    simp only [nextPlace, Function.comp_apply, push] at hgap hplace
    split at hgap <;> split at hgap <;> omega

/-- A push makes at most one gap. -/
theorem card_gaps_push_le {place : Nat → Nat} (h : StrictMono place) (first count n : Nat) :
    (gaps (push first count ∘ place) n).card ≤ (gaps place n).card + 1 := by
  have hone : ((Finset.range n).filter (place · = first)).card ≤ 1 := by
    refine Finset.card_le_one.mpr fun i hi j hj => h.injective ?_
    rw [(Finset.mem_filter.mp hi).2, (Finset.mem_filter.mp hj).2]
  calc (gaps (push first count ∘ place) n).card
      ≤ (gaps place n ∪ (Finset.range n).filter (place · = first)).card :=
        Finset.card_le_card (gaps_push_subset place first count n)
    _ ≤ (gaps place n).card + ((Finset.range n).filter (place · = first)).card :=
        Finset.card_union_le _ _
    _ ≤ (gaps place n).card + 1 := Nat.add_le_add_left hone _

namespace IndexSet

/-- Behind each run of a set there is a row with a gap in front of it. -/
theorem exists_gap {t : IndexSet} {r : Run} (hr : r ∈ t.runs) {n : Nat}
    (hbelow : ∀ i ∈ t, i < t.outside n) :
    ∃ k ∈ gaps t.outside (n + 1), t.outside k = r.stop := by
  obtain ⟨k, hk⟩ := exists_outside_eq (stop_not_mem hr)
  have hlast : r.stop - 1 ∈ t := pred_stop_mem hr
  refine ⟨k, mem_gaps.mpr ⟨?_, fun hnext => ?_⟩, hk⟩
  · have hle : t.outside k ≤ t.outside n := by
      have := hbelow _ hlast
      omega
    exact Nat.lt_succ_of_le (t.outside_strictMono.le_iff_le.mp hle)
  · cases k with
    | zero =>
      have hpos := r.first_lt_stop
      simp only [nextPlace] at hnext
      omega
    | succ k =>
      refine t.outside_not_mem k ?_
      simp only [nextPlace] at hnext
      have hbefore : t.outside k = r.stop - 1 := by omega
      rw [hbefore]
      exact hlast

/-- When row `n` is behind the set, there are as many gaps up to it as the set has runs. -/
theorem length_runs_le_card_gaps {t : IndexSet} {n : Nat} (hbelow : ∀ i ∈ t, i < t.outside n) :
    t.runs.length ≤ (gaps t.outside (n + 1)).card := by
  have hsubset : (t.runs.map Run.stop).toFinset ⊆ (gaps t.outside (n + 1)).image t.outside := by
    intro i hi
    obtain ⟨r, hr, rfl⟩ := List.mem_map.mp (List.mem_toFinset.mp hi)
    obtain ⟨k, hk, hstop⟩ := exists_gap hr hbelow
    exact Finset.mem_image.mpr ⟨k, hk, hstop⟩
  calc t.runs.length = (t.runs.map Run.stop).toFinset.card := by
        rw [List.toFinset_card_of_nodup t.nodup_stops, List.length_map]
    _ ≤ ((gaps t.outside (n + 1)).image t.outside).card := Finset.card_le_card hsubset
    _ ≤ (gaps t.outside (n + 1)).card := Finset.card_image_le

end IndexSet

end SheetActions
