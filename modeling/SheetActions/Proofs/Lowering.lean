import SheetActions.Proofs.Gaps
import SheetActions.Proofs.Shifting

/-! Making room by moving everything from a row on down.

Each call moves all rows from one on through the last used row. Where the rows of a sheet are
after some calls is told by a function of their indices (`Carried`), and each call pushes the
places of all rows from its first row on: so there are at most as many gaps between the places as
there were calls (`Carried.lowerAll`). On a sheet whose rows are numbered the numbers show the
places, so the calls that put row `k` at the `k`-th index outside a set, for each `k`, are at
least as many as the runs of the set (`length_runs_le_of_lowerAll`). -/
namespace SheetActions

/-- One call that moves everything from a row on down. -/
structure Lowering where
  first : Int
  count : Int
  copyHeights : Bool := false
  resetHeights : Bool := true

namespace Sheet

/-- Moves all rows from one on through the last used row down. -/
def lower (s : Sheet) (a : Lowering) : Except Fault Sheet :=
  s.shiftDown a.first s.lastRow a.count a.copyHeights a.resetHeights

/-- Makes the calls in order, up to the first one that fails. -/
def lowerAll (s : Sheet) (calls : List Lowering) : Progress Sheet :=
  Progress.run (fun s a => .ofExcept s (s.lower a)) s calls

theorem lowerAll_cons_ok {s t : Sheet} {a : Lowering} (h : s.lower a = .ok t)
    (calls : List Lowering) : s.lowerAll (a :: calls) = t.lowerAll calls :=
  Progress.run_cons_of_ok h calls

theorem lowerAll_cons_error {s : Sheet} {a : Lowering} {f : Fault} (h : s.lower a = .error f)
    (calls : List Lowering) : s.lowerAll (a :: calls) = .stopped s f :=
  Progress.run_cons_of_error h calls

/-- What a call makes of each row, those behind the used rows included. -/
theorem cell_of_lower {s t : Sheet} {a : Lowering} (h : s.lower a = .ok t) (r c : Nat) :
    t.cell r c =
      if r < a.first.toNat then s.cell r c
      else if r < a.first.toNat + a.count.toNat then none
      else s.cell (r - a.count.toNat) c := by
  have hshifted := s.shifted_shiftDown a.first s.lastRow a.count a.copyHeights a.resetHeights
  rw [lower] at h
  rw [h] at hshifted
  have hrow : s.lastRow = (s.usedRows : Int) - 1 := rfl
  cases hshifted with
  | behind hblock hbehind => omega
  | moved hblock hused =>
    rw [cell_moved s (by omega), min_self]
    by_cases habove : r < a.first.toNat
    · rw [if_neg (by omega), if_neg (by omega), if_pos habove]
    · rw [if_neg habove]
      by_cases hvacated : r < a.first.toNat + a.count.toNat
      · rw [if_neg (by omega), if_pos hvacated]
        split
        · rfl
        · exact cell_of_usedRows_le (by omega) c
      · rw [if_neg hvacated]
        by_cases hend : r ≤ s.lastRow.toNat + a.count.toNat
        · rw [if_pos (by omega)]
        · -- nothing was that far down, before or after
          rw [if_neg (by omega), if_neg (by omega), cell_of_usedRows_le (by omega),
            cell_of_usedRows_le (by omega)]

/-- Row `k` of one sheet is at its place on another one, and nothing else is there. -/
structure Carried (place : Nat → Nat) (s t : Sheet) : Prop where
  strictMono : StrictMono place
  kept : ∀ k c, t.cell (place k) c = s.cell k c
  only : ∀ i c v, t.cell i c = some v → ∃ k, place k = i

namespace Carried
variable {place : Nat → Nat} {s t u : Sheet}

theorem refl (s : Sheet) : Carried id s s where
  strictMono := strictMono_id
  kept := fun _ _ => rfl
  only := fun i _ _ _ => ⟨i, rfl⟩

/-- A call pushes the places from its first row on down. -/
theorem lower {a : Lowering} (h : Carried place s t) (hu : t.lower a = .ok u) :
    Carried (push a.first.toNat a.count.toNat ∘ place) s u where
  strictMono := (push_strictMono _ _).comp h.strictMono
  kept := fun k c => by
    rw [Function.comp_apply, push, cell_of_lower hu]
    by_cases hk : a.first.toNat ≤ place k
    · rw [if_pos hk, if_neg (by omega), if_neg (by omega), Nat.add_sub_cancel, h.kept]
    · rw [if_neg hk, if_pos (by omega), h.kept]
  only := fun i c v hv => by
    rw [cell_of_lower hu] at hv
    split at hv
    · obtain ⟨k, rfl⟩ := h.only _ _ _ hv
      exact ⟨k, if_neg (by omega)⟩
    · split at hv
      · cases hv
      · obtain ⟨k, hk⟩ := h.only _ _ _ hv
        refine ⟨k, ?_⟩
        rw [Function.comp_apply, push, if_pos (by omega)]
        omega

/-- Each call makes at most one gap. -/
theorem lowerAll (h : Carried place s t) (calls : List Lowering) :
    ∃ place', Carried place' s (t.lowerAll calls).state ∧
      ∀ n, (gaps place' n).card ≤ (gaps place n).card + calls.length := by
  induction calls generalizing place t with
  | nil => exact ⟨place, h, fun n => Nat.le_refl _⟩
  | cons a calls ih =>
    cases hu : t.lower a with
    | error f =>
      rw [lowerAll_cons_error hu]
      exact ⟨place, h, fun n => Nat.le_add_right _ _⟩
    | ok u =>
      obtain ⟨place', hcarried, hcard⟩ := ih (h.lower hu)
      rw [lowerAll_cons_ok hu]
      refine ⟨place', hcarried, fun n => (hcard n).trans ?_⟩
      have hpush := card_gaps_push_le h.strictMono a.first.toNat a.count.toNat n
      rw [List.length_cons]
      omega

end Carried

/-- A sheet of `n` rows, each with its number in its first cell. -/
def numbered : Nat → Sheet
  | 0 => ∅
  | n + 1 => (numbered n).put n 0 (some (.integer n))

theorem cell_numbered (n r c : Nat) :
    (numbered n).cell r c = if r < n ∧ c = 0 then some (.integer r) else none := by
  induction n with
  | zero => rfl
  | succ n ih =>
    rw [numbered, cell_put, ih]
    by_cases hr : r = n
    · subst hr
      by_cases hc : c = 0 <;> simp [hc]
    · rw [if_neg fun h => hr h.1]
      exact if_congr (by omega) rfl rfl

theorem lastRow_numbered (n : Nat) : (numbered (n + 1)).lastRow = n := by
  have hle : (numbered (n + 1)).usedRows ≤ n + 1 := usedRows_le_iff.mpr fun r c hr => by
    rw [cell_numbered, if_neg (by omega)]
  have hge : ¬ (numbered (n + 1)).usedRows ≤ n := fun h => by
    have hblank := cell_of_usedRows_le h 0
    rw [cell_numbered, if_pos (by omega)] at hblank
    cases hblank
  rw [lastRow]
  omega

theorem columns_numbered (n : Nat) : (numbered n).extent.columns ≤ 1 := by
  induction n with
  | zero => exact Nat.zero_le 1
  | succ n ih => exact Nat.max_le.mpr ⟨ih, Nat.le_refl 1⟩

/-- Where a number is, there its row went. -/
theorem Carried.place_eq {place : Nat → Nat} {n : Nat} {t : Sheet}
    (h : Carried place (numbered n) t) {k i : Nat} (hk : k < n)
    (hcell : t.cell i 0 = (numbered n).cell k 0) : place k = i := by
  rw [cell_numbered, if_pos ⟨hk, rfl⟩] at hcell
  obtain ⟨j, rfl⟩ := h.only _ _ _ hcell
  rw [h.kept, cell_numbered] at hcell
  split at hcell
  · injection hcell with hvalue
    injection hvalue with hnumber
    rw [Int.ofNat.inj hnumber]
  · cases hcell

/-- Calls that put each of the numbered rows at the index outside a set that it counts, the last
one behind the set, are at least as many as the runs of the set. -/
theorem length_runs_le_of_lowerAll {rows : IndexSet} {n : Nat}
    (hbelow : ∀ i ∈ rows, i < rows.outside n) {calls : List Lowering}
    (h : ∀ k < n + 1, ((numbered (n + 1)).lowerAll calls).state.cell (rows.outside k) 0 =
      (numbered (n + 1)).cell k 0) :
    rows.runs.length ≤ calls.length := by
  obtain ⟨place, hcarried, hcard⟩ := (Carried.refl (numbered (n + 1))).lowerAll calls
  have hplace : ∀ k < n + 1, place k = rows.outside k := fun k hk => hcarried.place_eq hk (h k hk)
  calc rows.runs.length
      ≤ (gaps rows.outside (n + 1)).card := IndexSet.length_runs_le_card_gaps hbelow
    _ = (gaps place (n + 1)).card := by rw [gaps_congr hplace]
    _ ≤ (gaps id (n + 1)).card + calls.length := hcard (n + 1)
    _ = calls.length := by rw [gaps_id, Finset.card_empty, Nat.zero_add]

end Sheet

end SheetActions
