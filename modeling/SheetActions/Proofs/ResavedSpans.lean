import SheetActions.Proofs.ResavedNumbers
import SheetActions.Proofs.Spans

/-! Spans that are saved again.

The seconds of a span are rounded to a number, and that number must not reach the next second
before the microseconds do. Up to `2 ^ 34` seconds its grid is fine enough for that
(`floor_seconds_eq`), and then the span that is read from what a file keeps of a span is the same
(`readSpan?_again`). Longer ones can get longer by a second each time that they are saved. -/
namespace SheetActions.Serial
open Binary64

/-! ### Whole milliseconds -/

theorem floor_seconds_eq {n : Int} (hn : |n| ≤ 2 ^ 34 * 1000000) (hrest : n % 1000000 ≠ 0) :
    ((Binary64.ofFraction n secondLength).floor?).getD 0 = n / 1000000 := by
  have hn' : |(n : ℚ)| ≤ 2 ^ 34 * 1000000 := by exact_mod_cast hn
  have hsize : |(n : ℚ) / secondLength| ≤ 2 ^ 34 := by
    rw [cast_secondLength, abs_div, abs_of_pos (by norm_num : (0 : ℚ) < 1000000)]
    exact (div_le_iff₀ (by norm_num)).mpr hn'
  have hnear := Near.ofFraction (by decide) (by norm_num) hsize
  have hsplit : (n : ℚ) = 1000000 * (n / 1000000 : Int) + (n % 1000000 : Int) := by
    exact_mod_cast (Int.mul_ediv_add_emod n 1000000).symm
  have hlow : (1 : ℚ) ≤ (n % 1000000 : Int) := by
    have := Int.emod_nonneg n (by norm_num : (1000000 : Int) ≠ 0)
    exact_mod_cast (by omega : 1 ≤ n % 1000000)
  have hhigh : ((n % 1000000 : Int) : ℚ) ≤ 999999 := by
    have := Int.emod_lt_of_pos n (by norm_num : (0 : Int) < 1000000)
    exact_mod_cast (by omega : n % 1000000 ≤ 999999)
  obtain ⟨hge, hle⟩ := abs_le.mp hnear.near
  rw [cast_secondLength, hsplit] at hge hle
  rw [floor?_eq hnear.fits, Option.getD_some, Int.floor_eq_iff]
  constructor
  · linarith
  · linarith

/-- What is near to whole milliseconds is rounded to them. -/
theorem roundSpan_eq_of_near {n k : Int} (hk : k % 1000 = 0) (hnear : |n - k| ≤ 100)
    (hn : |n| ≤ 2 ^ 34 * 1000000) : roundSpan n = k := by
  obtain ⟨hge, hle⟩ := abs_le.mp hnear
  rcases roundSpan_eq n with ⟨hwhole, heq⟩ | ⟨hrest, heq⟩
  · omega
  · have hunits := roundQuotient_near (n % 1000000).toNat (by norm_num : 0 < 1000)
    rw [heq, floor_seconds_eq hn hrest]
    omega

/-! ### How near they are -/

/-- The number of a span lies between whole days if the span does. -/
theorem within_days {n a b : Int} (ha : |a| ≤ 1000000000) (hb : |b| ≤ 1000000000)
    (hlow : a * dayLength ≤ n) (hhigh : n ≤ b * dayLength) : (ofSpan n).Within a b := by
  have hbound : ∀ k : Int, |k| ≤ 1000000000 → IsBound k ∧ IsBound (k * 86400) := by
    intro k hk
    obtain ⟨hlow, hhigh⟩ := abs_le.mp hk
    refine ⟨isBound_intCast (abs_le.mpr ⟨by omega, by omega⟩), ?_⟩
    exact_mod_cast isBound_intCast (n := k * 86400) (abs_le.mpr ⟨by omega, by omega⟩)
  have hlow' : (a : ℚ) * 86400000000 ≤ n := by
    rw [← cast_dayLength]
    exact_mod_cast hlow
  have hhigh' : (n : ℚ) ≤ b * 86400000000 := by
    rw [← cast_dayLength]
    exact_mod_cast hhigh
  have hseconds : (Binary64.ofFraction n secondLength).Within (a * 86400) (b * 86400) := by
    refine .ofFraction (by decide) (hbound a ha).2 (hbound b hb).2 ?_ ?_
    · rw [cast_secondLength, le_div_iff₀ (by norm_num)]
      linarith
    · rw [cast_secondLength, div_le_iff₀ (by norm_num)]
      linarith
  refine hseconds.divide (by decide) (hbound a ha).1 (hbound b hb).1 ?_ ?_
  · rw [cast_secondsOfDay, mul_div_cancel_right₀ _ (by norm_num)]
  · rw [cast_secondsOfDay, mul_div_cancel_right₀ _ (by norm_num)]

theorem abs_days_le {n : Int} (hn : |n| ≤ 198841 * dayLength) :
    |(n : ℚ) / dayLength| ≤ 198841 := by
  rw [abs_div, Nat.abs_cast]
  refine (div_le_iff₀ (by rw [cast_dayLength]; norm_num)).mpr ?_
  exact_mod_cast hn

/-- The number of a short span is less than three microseconds off. -/
theorem near_ofSpan {n : Int} (hn : |n| ≤ 198841 * dayLength) :
    (ofSpan n).Near (n / dayLength) (1 / 2 ^ 35) := by
  have hdays := abs_days_le hn
  have hsame : (n : ℚ) / secondLength / secondsOfDay = n / dayLength := by
    rw [cast_secondLength, cast_secondsOfDay, cast_dayLength, div_div]
    norm_num
  have hsize : |(n : ℚ) / secondLength| ≤ 2 ^ 34 := by
    have hmore : (n : ℚ) / secondLength = n / dayLength * 86400 := by
      rw [← hsame, cast_secondsOfDay, div_mul_cancel₀ _ (by norm_num)]
    rw [hmore, abs_mul, abs_of_pos (by norm_num : (0 : ℚ) < 86400)]
    linarith
  have hnear := (Near.ofFraction (by decide) (by norm_num) hsize).divide (n := secondsOfDay)
    (k := 18) (by decide) (by norm_num) (by
      rw [hsame, cast_secondsOfDay]
      linarith)
  rw [hsame, cast_secondsOfDay] at hnear
  exact hnear.mono (by norm_num)

/-- Whether a number of days is less than `2 ^ 34` seconds. -/
def isShort (x : Binary64) : Bool :=
  x.floor?.any fun days => -198840 ≤ days && days < 198840

theorem abs_le_of_isShort {x : Binary64} (hx : x.Fits) (h : isShort x = true) :
    |x.value| ≤ 198840 := by
  rw [isShort, floor?_eq hx] at h
  simp only [Option.any_some, Bool.and_eq_true, decide_eq_true_eq] at h
  have hlow := Int.le_floor.mp h.1
  have hhigh := Int.floor_lt.mp h.2
  push_cast at hlow hhigh
  exact abs_le.mpr ⟨hlow, hhigh.le⟩

section Kept
variable {n : Int} {t : ℚ} {y : Binary64} (h : (ofSpan n).Keeps t y)
include h

theorem within_kept_days {a b : Int} (ha : |a| ≤ 1000000000) (hb : |b| ≤ 1000000000)
    (hlow : a * dayLength ≤ n) (hhigh : n ≤ b * dayLength) : y.Within a b := by
  have hshort : ∀ k : Int, |k| ≤ 1000000000 → Decimal.IsShort k := fun k hk =>
    ⟨k, 0, hk.trans (by norm_num), by rw [zpow_zero, mul_one]⟩
  have hbound : ∀ k : Int, |k| ≤ 1000000000 → IsBound k := fun k hk =>
    isBound_intCast (hk.trans (by norm_num))
  exact h.within (within_days ha hb hlow hhigh) (hshort a ha) (hshort b hb) (hbound a ha)
    (hbound b hb) ⟨le_rfl, le_rfl⟩ ⟨le_rfl, le_rfl⟩

/-- A span is short if the number that is kept of it is. -/
theorem abs_le_of_kept (hlow : microsecondsOf (-spanLimit) ≤ n) (hhigh : n ≤ longest)
    (hfits : y.Fits) (hshort : isShort y = true) : |n| ≤ 198841 * dayLength := by
  have hlimit : microsecondsOf (-spanLimit) = -999999999 * dayLength := rfl
  have hlength : (dayLength : Int) = 86400000000 := rfl
  obtain ⟨hge, hle⟩ := abs_le.mp (abs_le_of_isShort hfits hshort)
  rw [hlimit] at hlow
  rw [longest_eq] at hhigh
  rw [abs_le]
  constructor
  · by_contra hless
    have hwithin := within_kept_days h (a := -999999999) (b := -198841) (by norm_num)
      (by norm_num) hlow (by omega)
    have := hwithin.le
    push_cast at this
    linarith
  · by_contra hmore
    have hwithin := within_kept_days h (a := 198841) (b := 1000000000) (by norm_num)
      (by norm_num) (by omega) (by omega)
    have := hwithin.ge
    push_cast at this
    linarith

variable (hn : |n| ≤ 198841 * dayLength)
include hn

/-- It is less than ten microseconds off. -/
theorem near_kept_span : y.Near (n / dayLength) (1 / 10 ^ 10) := by
  have hsize := abs_days_le hn
  have hnear := h.near (near_ofSpan hn) (i := 6) (k := 18) (by linarith) (by norm_num) (by linarith)
  exact hnear.mono (by norm_num)

/-- A short span is read from what is kept of it. -/
theorem readSpan?_kept (hk : n % 1000 = 0) : readSpan? y = some (.span n) := by
  have hy := near_kept_span h hn
  have hlength : (dayLength : Int) = 86400000000 := rfl
  obtain ⟨F, days, part, hsplits, hread⟩ := exists_splits hy.fits
  have hnear : |((days * dayLength + part : Int) : ℚ) - n| ≤ 100 := by
    have hdays : |y.value * dayLength - n| ≤ 1 / 10 ^ 10 * dayLength := by
      have hscaled := mul_le_mul_of_nonneg_right hy.near (Nat.cast_nonneg dayLength)
      rwa [← Nat.abs_cast dayLength, ← abs_mul, sub_mul, Nat.abs_cast,
        div_mul_cancel₀ _ (by rw [cast_dayLength]; norm_num)] at hscaled
    have hsum : ((days * dayLength + part : Int) : ℚ) - n =
        (part - (y.value - days) * dayLength) + (y.value * dayLength - n) := by
      push_cast
      ring
    rw [hsum]
    refine (abs_add_le _ _).trans ((add_le_add hsplits.close hdays).trans ?_)
    rw [cast_dayLength]
    norm_num
  have hnear' : |days * dayLength + part - n| ≤ 100 := by exact_mod_cast hnear
  have hround : roundSpan (days * dayLength + part) = n := by
    refine roundSpan_eq_of_near hk hnear' ?_
    rw [abs_le] at hn hnear' ⊢
    omega
  rw [hread, hround, if_neg]
  have hlimit : spanLimit = 999999999 := rfl
  obtain ⟨hge, hle⟩ := abs_le.mp hn
  rw [Int.fdiv_eq_ediv_of_nonneg _ (by decide), hlimit, hlength]
  omega

end Kept

/-- **Saving a span again.** What a file keeps of a span that was read from a number is read as
that span again, if it is short. -/
theorem readSpan?_again {x z y : Binary64} {v w : Value} (hx : x.Fits) (hv : readSpan? x = some v)
    (hz : ofValue? v = some z) (hw : Value.storedNumber z = some w) (hy : w.toBinary64? = some y)
    (hfits : y.Fits) (hshort : isShort y = true) : readSpan? y = some v := by
  obtain ⟨n, rfl, hk, hlow, hhigh⟩ := eq_of_readSpan? hx hv
  cases hz
  obtain ⟨t, w', y', hw', hy', hkeeps⟩ := exists_storedNumber (within_ofSpan hlow hhigh).fits
  cases hw.symm.trans hw'
  cases hy.symm.trans hy'
  exact readSpan?_kept hkeeps (abs_le_of_kept hkeeps hlow hhigh hfits hshort) hk

end SheetActions.Serial
