import Mathlib.Tactic.IntervalCases
import SheetActions.Proofs.StoredNumbers
import SheetActions.Workbook.Reading

/-! Moments in a file.

A moment is saved as a number of days. What is written for a moment that was read from a number is
before the end of all dates (`within_ofValue?_of_readMoment?`), what a file keeps of that is before
it too (`within_kept`), and so readers see a date that they can take (`seenFlaw?_seeMoment`). Each
of the three rounds, and a day has room for what they add up to: the last millisecond is further
from the end. -/
namespace SheetActions

/-! ### The calendar -/

theorem daysBefore_yearOf_le (n : Nat) : daysBefore (yearOf n) ≤ n := by
  unfold yearOf
  simp only
  split
  · simp only [daysBefore]
    omega
  · split
    · omega
    · omega

theorem yearOf_le {n : Nat} (h : n < daysBefore (lastYear + 1)) : yearOf n ≤ lastYear := by
  have hlast : daysBefore (lastYear + 1) = 3652059 := rfl
  have hyear : lastYear = 9999 := rfl
  unfold yearOf
  simp only
  split
  · omega
  · split
    · omega
    · rename_i hmore
      have hother : n * 400 / 146097 + 1 ≠ lastYear := by
        intro heq
        rw [heq] at hmore
        exact hmore h
      omega

/-- The days of the months before a day, and the days of its month before it. -/
theorem splitMonth_sum (lengths : List Nat) (month n : Nat) :
    ∃ k, splitMonth month lengths n = (month + k, n - (lengths.take k).sum + 1) ∧
      (lengths.take k).sum ≤ n := by
  induction lengths generalizing month n with
  | nil => exact ⟨0, rfl, Nat.zero_le n⟩
  | cons length lengths ih =>
    rw [splitMonth]
    split
    · exact ⟨0, rfl, Nat.zero_le n⟩
    · rename_i hmore
      obtain ⟨k, hk, hle⟩ := ih (month + 1) (n - length)
      refine ⟨k + 1, ?_, ?_⟩
      · rw [hk, List.take_succ_cons, List.sum_cons]
        congr 1
        · omega
        · omega
      · rw [List.take_succ_cons, List.sum_cons]
        omega

/-- A date has the number that it was made for. -/
theorem number_dateOf (n : Nat) : (dateOf n).number = n := by
  have hyear := daysBefore_yearOf_le n
  obtain ⟨k, hk, hle⟩ := splitMonth_sum (monthLengths (yearOf n)) 1 (n - daysBefore (yearOf n))
  simp only [dateOf, hk, Date.number, ← List.sum_eq_foldr, Nat.add_sub_cancel_left]
  omega

theorem Date.number_lt {n : Int} {d : Date} (h : Date.ofNumber? n = some d) :
    d.number < daysBefore (lastYear + 1) := by
  unfold Date.ofNumber? at h
  split at h
  · cases h
  · cases h
    rw [number_dateOf]
    omega

theorem Date.ofNumber?_number {n : Int} {d : Date} (h : Date.ofNumber? n = some d) :
    Date.ofNumber? d.number = some d := by
  rw [← h]
  unfold Date.ofNumber? at h
  split at h
  · cases h
  · cases h
    rw [number_dateOf, Int.toNat_of_nonneg (by omega)]

namespace Serial
open Binary64

/-! ### Units of time -/

theorem cast_secondLength : ((secondLength : Nat) : ℚ) = 1000000 := by
  norm_num [secondLength]

theorem cast_dayLength : ((dayLength : Nat) : ℚ) = 86400000000 := by
  norm_num [dayLength, secondLength]

theorem cast_secondsOfDay : ((secondsOfDay : Nat) : ℚ) = 86400 := by
  norm_num [secondsOfDay]

theorem cast_millisecondsOfDay : ((millisecondsOfDay : Nat) : ℚ) = 86400000 := by
  norm_num [millisecondsOfDay, secondsOfDay]

/-! ### Numbers for moments -/

theorem seconds_ofMicroseconds (n : Nat) :
    (Clock.ofMicroseconds n).hour * 3600 + (Clock.ofMicroseconds n).minute * 60 +
      (Clock.ofMicroseconds n).second = n / secondLength := by
  simp only [Clock.ofMicroseconds]
  omega

/-- So many seconds and microseconds, but less than a day, stay less than a day. -/
theorem within_day {s m : Nat} (hs : s ≤ 86399) (hm : m ≤ 999000) :
    (((Binary64.ofInt s).add (Binary64.ofFraction m secondLength)).divide secondsOfDay).Within 0
      (1 - 1 / 2 ^ 27) := by
  have hs' : (s : ℚ) ≤ 86399 := by exact_mod_cast hs
  have hm' : (m : ℚ) ≤ 999000 := by exact_mod_cast hm
  have hzero : IsBound 0 := isBound_intCast (n := 0) (by norm_num)
  have hwhole : (Binary64.ofInt s).Within 0 86399 := by
    have hint := within_ofInt (n := s) (by rw [Nat.abs_cast]; omega)
    exact ⟨hint.fits, le_trans (by positivity) hint.ge, hint.le.trans (by exact_mod_cast hs')⟩
  have hpart : (Binary64.ofFraction m secondLength).Within 0 (1 - 1 / 2 ^ 10) := by
    refine .ofFraction (by decide) hzero
      (isBound_of_mul 1023 10 (by norm_num) (by norm_num) (by norm_num)) (by positivity) ?_
    rw [cast_secondLength, div_le_iff₀ (by norm_num), Int.cast_natCast]
    linarith
  have hsum : ((Binary64.ofInt s).add (Binary64.ofFraction m secondLength)).Within 0
      (86400 - 1 / 2 ^ 10) :=
    hwhole.add hpart hzero
      (isBound_of_mul (86400 * 2 ^ 10 - 1) 10 (by norm_num) (by norm_num) (by norm_num))
      (by norm_num) (by norm_num)
  refine hsum.divide (by decide) hzero
    (isBound_of_mul (2 ^ 27 - 1) 27 (by norm_num) (by norm_num) (by norm_num)) (by norm_num) ?_
  rw [cast_secondsOfDay]
  norm_num

/-- A time of day in whole milliseconds is a number below one. -/
theorem within_ofClock {n : Nat} (h : n < millisecondsOfDay) :
    (ofClock (Clock.ofMicroseconds (1000 * n))).Within 0 (1 - 1 / 2 ^ 27) := by
  have hday : millisecondsOfDay = 86400000 := rfl
  have hsecond : secondLength = 1000000 := rfl
  rw [ofClock, seconds_ofMicroseconds]
  refine within_day ?_ ?_
  · rw [hsecond]
    omega
  · show 1000 * n % secondLength ≤ 999000
    rw [hsecond]
    omega

/-- The number of the first day of the first year without dates. -/
def endOfDates : Int := daysBefore (lastYear + 1) - epoch

theorem endOfDates_eq : endOfDates = 2958466 := by decide

/-- A moment in whole milliseconds is before the end of all dates, and rounding leaves it so. -/
theorem within_ofMoment {d : Date} {n : Nat} (hd : d.number < daysBefore (lastYear + 1))
    (h : n < millisecondsOfDay) :
    (ofMoment d (Clock.ofMicroseconds (1000 * n))).Within (-1000000) (endOfDates - 1 / 2 ^ 27) := by
  have hepoch : epoch = 693593 := by decide
  have hlast : daysBefore (lastYear + 1) = 3652059 := rfl
  obtain ⟨days, hdays, hlow, hhigh⟩ : ∃ days : Int, ofMoment d (Clock.ofMicroseconds (1000 * n)) =
      (Binary64.ofInt days).add (ofClock (Clock.ofMicroseconds (1000 * n))) ∧ -1000000 ≤ days ∧
        days ≤ 2958465 := by
    refine ⟨_, rfl, ?_, ?_⟩ <;> split <;> omega
  have hlow' : (-1000000 : ℚ) ≤ days := by exact_mod_cast hlow
  have hhigh' : (days : ℚ) ≤ 2958465 := by exact_mod_cast hhigh
  rw [hdays, endOfDates_eq]
  refine (within_ofInt (abs_le.mpr ⟨by omega, by omega⟩)).add (within_ofClock h)
    (isBound_of_mul (-1000000) 0 (by norm_num) (by norm_num) (by norm_num))
    (isBound_of_mul (2958466 * 2 ^ 27 - 1) 27 (by norm_num) (by norm_num) (by norm_num))
    (by linarith) ?_
  push_cast
  linarith

/-! ### What readers see -/

theorem within_later {y : Binary64} (h : y.Within (-1000000) (endOfDates - 15 / 2 ^ 31)) :
    (if isBelow y settledDay then y.add (Binary64.ofInt 1) else y).Within (-1000000)
      (endOfDates - 15 / 2 ^ 31) := by
  split
  · rename_i hbelow
    have hless : y.value < (settledDay : Int) := (isBelow_iff h.fits).mp hbelow
    have hsettled : ((settledDay : Int) : ℚ) = 60 := by norm_num [settledDay]
    rw [hsettled] at hless
    have hy : y.Within (-1000000) 60 := ⟨h.fits, h.ge, hless.le⟩
    have hone : (Binary64.ofInt 1).Within 1 1 := by
      simpa using within_ofInt (n := 1) (by norm_num)
    refine (hy.add hone (isBound_intCast (n := -999999) (by norm_num))
      (isBound_intCast (n := 61) (by norm_num)) (by norm_num) (by norm_num)).mono (by norm_num) ?_
    rw [endOfDates_eq]
    norm_num
  · exact h

theorem seenMilliseconds_lt {y : Binary64} (h : y.Within (-1000000) (endOfDates - 15 / 2 ^ 31)) :
    seenMilliseconds y < endOfDates * millisecondsOfDay := by
  have hlater := within_later h
  rw [seenMilliseconds]
  generalize (if isBelow y settledDay then y.add (Binary64.ofInt 1) else y) = z at hlater
  have hscaled : (z.scale millisecondsOfDay).Within (-1000000 * 86400000)
      (2958466 * 86400000 - 19 / 32) := by
    refine hlater.scale (isBound_of_mul (-86400000000000) 0 (by norm_num) (by norm_num)
      (by norm_num)) (isBound_of_mul (2958466 * 86400000 * 32 - 19) 5 (by norm_num) (by norm_num)
      (by norm_num)) ?_ ?_
    · rw [cast_millisecondsOfDay]
    · rw [cast_millisecondsOfDay, endOfDates_eq]
      norm_num
  obtain ⟨n, hn, hnear⟩ := exists_roundAway? hscaled.fits
  rw [milliseconds, hn, Option.getD_some]
  have hlt : (n : ℚ) < (endOfDates * millisecondsOfDay : Int) := by
    have := (abs_le.mp hnear).2
    have := hscaled.le
    rw [endOfDates_eq]
    push_cast
    rw [cast_millisecondsOfDay]
    linarith
  exact_mod_cast hlt

theorem year_dateOf (n : Nat) : (dateOf n).year = yearOf n := rfl

/-- A number before the end of all dates is no flaw for a reader. -/
theorem seenFlaw?_seeMoment {y : Binary64} {v : Value}
    (h : y.Within (-1000000) (endOfDates - 15 / 2 ^ 31)) (hv : (seeMoment y).normalized = some v) :
    v.seenFlaw? = none := by
  have hday : (seenMoment y).1 < daysBefore (lastYear + 1) := by
    have hlt := seenMilliseconds_lt h
    have hpos : (0 : Int) < millisecondsOfDay := by decide
    show Int.fdiv (seenMilliseconds y) millisecondsOfDay + epoch < _
    rw [Int.fdiv_eq_ediv_of_nonneg _ hpos.le]
    have := Int.ediv_lt_of_lt_mul hpos hlt
    rw [endOfDates] at this
    omega
  have hyear : (dateOf (seenMoment y).1.toNat).year ≤ lastYear := by
    rw [year_dateOf]
    have hpos : 0 < daysBefore (lastYear + 1) := by decide
    exact yearOf_le (by omega)
  unfold seeMoment at hv
  simp only at hv
  split at hv
  · cases hv
    rfl
  · split at hv
    · cases htoInt : y.toInt? <;> simp [Value.normalized, htoInt] at hv <;> subst hv <;> rfl
    · split at hv
      · cases hv
        simp only [Value.seenFlaw?, gt_iff_lt, if_neg (Nat.not_lt.mpr hyear)]
      · cases hv
        simp only [Value.seenFlaw?, gt_iff_lt, if_neg (Nat.not_lt.mpr hyear)]

/-! ### What a file keeps of them -/

theorem within_kept {x y : Binary64} {t : ℚ} (hx : x.Within (-1000000) (endOfDates - 1 / 2 ^ 27))
    (h : x.Keeps t y) : y.Within (-1000000) (endOfDates - 15 / 2 ^ 31) := by
  rw [endOfDates_eq] at hx ⊢
  -- the digits that a date can have at most
  refine h.within hx (p := -1000000) (q := 2958465999999993 / 10 ^ 9)
    ⟨-1000000, 0, by norm_num, by norm_num⟩ ⟨2958465999999993, -9, by norm_num, by norm_num⟩
    (isBound_of_mul (-1000000) 0 (by norm_num) (by norm_num) (by norm_num))
    (isBound_of_mul (2958466 * 2 ^ 31 - 15) 31 (by norm_num) (by norm_num) (by norm_num))
    ⟨le_rfl, le_rfl⟩ ⟨?_, ?_⟩
  · norm_num
  · norm_num

/-- A number that is read as a moment counts whole milliseconds, and the days of a date. -/
theorem eq_of_readMoment? {x : Binary64} {v : Value} (h : readMoment? x = some v) :
    ∃ n, n < millisecondsOfDay ∧ (v = .clock (Clock.ofMicroseconds (1000 * n)) ∨
      ∃ d, Date.ofNumber? d.number = some d ∧
        v = .dateTime d (Clock.ofMicroseconds (1000 * n))) := by
  have hday : millisecondsOfDay = 86400000 := rfl
  obtain ⟨day, _, h⟩ := Option.bind_eq_some_iff.mp h
  obtain ⟨ms, _, h⟩ := Option.bind_eq_some_iff.mp h
  split at h
  · rename_i htime
    cases h
    exact ⟨ms.toNat, by omega, .inl rfl⟩
  · obtain ⟨⟨date, clock⟩, hmoment, h⟩ := Option.bind_eq_some_iff.mp h
    cases h
    obtain ⟨_, _, hmoment⟩ := Option.bind_eq_some_iff.mp hmoment
    obtain ⟨d, hd, hmoment⟩ := Option.bind_eq_some_iff.mp hmoment
    cases hmoment
    refine ⟨_, ?_, .inr ⟨_, Date.ofNumber?_number hd, rfl⟩⟩
    have hpos : (0 : Int) < millisecondsOfDay := by decide
    rw [Int.fmod_eq_emod_of_nonneg _ hpos.le]
    have := Int.emod_lt_of_pos ms hpos
    omega

/-- What is written for it is within the dates. -/
theorem within_ofValue?_of_readMoment? {x : Binary64} {v : Value} (h : readMoment? x = some v) :
    ∃ z, ofValue? v = some z ∧ z.Within (-1000000) (endOfDates - 1 / 2 ^ 27) := by
  obtain ⟨n, hn, rfl | ⟨d, hd, rfl⟩⟩ := eq_of_readMoment? h
  · refine ⟨_, rfl, (within_ofClock hn).mono (by norm_num) ?_⟩
    rw [endOfDates_eq]
    norm_num
  · exact ⟨_, rfl, within_ofMoment (Date.number_lt hd) hn⟩

end Serial

end SheetActions
