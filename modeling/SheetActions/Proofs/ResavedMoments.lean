import SheetActions.Proofs.Moments
import SheetActions.Proofs.ResavedNumbers

/-! Moments that are saved again.

A moment counts milliseconds, and the number that is saved for it is less than half of one off,
although it is rounded when it is made, when it is kept and when it is taken apart again
(`near_kept_numberAt`, `round?_kept_numberAt`). So the same day and the same milliseconds are read
from it. Only the moments of the first day are read as times of day, and the number that is saved
for these is the same (`numberAt_zero`). -/
namespace SheetActions.Serial
open Binary64

/-! ### How near they are -/

/-- The number of a time of day in whole milliseconds. -/
theorem near_ofClock {n : Nat} (h : n < millisecondsOfDay) :
    (ofClock (Clock.ofMicroseconds (1000 * n))).Near (n / millisecondsOfDay) (1 / 2 ^ 52) := by
  have hmicro : (Clock.ofMicroseconds (1000 * n)).microsecond = 1000 * n % secondLength := rfl
  have hsplit : 1000 * n / secondLength * 1000000 + 1000 * n % secondLength = 1000 * n :=
    Nat.div_add_mod' ..
  have hrest : 1000 * n % secondLength < 1000000 := Nat.mod_lt _ (by decide)
  have hday : n < 86400000 := h
  rw [ofClock, seconds_ofMicroseconds, hmicro]
  generalize 1000 * n / secondLength = s at hsplit
  generalize 1000 * n % secondLength = m at hsplit hrest
  have hs : (s : ℚ) * 1000000 + m = 1000 * n := by exact_mod_cast hsplit
  have hm : (m : ℚ) < 1000000 := by exact_mod_cast hrest
  have hn : (n : ℚ) ≤ 86399999 := by exact_mod_cast (by omega : n ≤ 86399999)
  have hwhole : (Binary64.ofInt s).Near s 0 := by
    exact_mod_cast Near.ofInt (n := s) (by rw [Nat.abs_cast]; omega)
  have hpart : (Binary64.ofFraction m secondLength).Near (m / 1000000) (2 ^ 0 / 2 ^ 54) := by
    have hsize : |((m : Int) : ℚ) / secondLength| ≤ 2 ^ 0 := by
      rw [cast_secondLength, Int.cast_natCast, abs_of_nonneg (by positivity),
        div_le_iff₀ (by norm_num)]
      linarith
    have hnear := Near.ofFraction (k := 0) (by decide) (by norm_num) hsize
    rwa [cast_secondLength, Int.cast_natCast] at hnear
  have hseconds := hwhole.add hpart (k := 17) (by norm_num) (by
    rw [abs_of_nonneg (by positivity)]
    linarith)
  have hvalue : (s : ℚ) + m / 1000000 = n / 1000 := by linarith
  rw [hvalue] at hseconds
  have hdays := hseconds.divide (n := secondsOfDay) (k := 0) (by decide) (by norm_num) (by
    rw [cast_secondsOfDay, abs_of_nonneg (by positivity)]
    linarith)
  have hsame : (n : ℚ) / 1000 / secondsOfDay = n / millisecondsOfDay := by
    rw [cast_secondsOfDay, cast_millisecondsOfDay]
    ring
  rw [hsame, cast_secondsOfDay] at hdays
  exact hdays.mono (by norm_num)

/-- The number of a moment: so many days, and milliseconds of a day. -/
def numberAt (day : Int) (n : Nat) : Binary64 :=
  (Binary64.ofInt day).add (ofClock (Clock.ofMicroseconds (1000 * n)))

section Kept
variable {day : Int} {n : Nat} (hlow : -1000000 ≤ day) (hhigh : day ≤ 2958465)
  (hn : n < millisecondsOfDay)
include hlow hhigh hn

theorem within_numberAt : (numberAt day n).Within day (day + 1 - 1 / 2 ^ 27) := by
  refine (within_ofInt (abs_le.mpr ⟨by omega, by omega⟩)).add (within_ofClock hn)
    (isBound_of_mul day 0 (abs_le.mpr ⟨by omega, by omega⟩) (by norm_num) (by norm_num))
    (isBound_of_mul ((day + 1) * 2 ^ 27 - 1) 27 (abs_le.mpr ⟨by omega, by omega⟩) (by norm_num) ?_)
    (by linarith) (by linarith)
  push_cast
  ring

theorem abs_numberAt_le : |(day : ℚ) + n / millisecondsOfDay| ≤ 3000000 := by
  have hlow' : (-1000000 : ℚ) ≤ day := by exact_mod_cast hlow
  have hhigh' : (day : ℚ) ≤ 2958465 := by exact_mod_cast hhigh
  have hn' : (n : ℚ) < 86400000 := by exact_mod_cast hn
  have hn'' : (0 : ℚ) ≤ n := Nat.cast_nonneg n
  rw [cast_millisecondsOfDay]
  exact abs_le.mpr ⟨by linarith, by linarith⟩

theorem near_numberAt : (numberAt day n).Near (day + n / millisecondsOfDay) (1 / 2 ^ 31) := by
  have hsize := abs_numberAt_le hlow hhigh hn
  have hnear := (Near.ofInt (n := day) (abs_le.mpr ⟨by omega, by omega⟩)).add (near_ofClock hn)
    (k := 22) (by norm_num) (by linarith)
  exact hnear.mono (by norm_num)

variable {y : Binary64} {t : ℚ} (h : (numberAt day n).Keeps t y)
include h

/-- What a file keeps of it is a number of the same day. -/
theorem within_kept_numberAt : y.Within day (day + 1 - 15 / 2 ^ 31) := by
  refine h.within (within_numberAt hlow hhigh hn) (p := day)
    (q := ((day + 1) * 10 ^ 9 - 7 : Int) / 10 ^ 9)
    ⟨day, 0, abs_le.mpr ⟨by omega, by omega⟩, by norm_num⟩
    ⟨(day + 1) * 10 ^ 9 - 7, -9, abs_le.mpr ⟨by omega, by omega⟩, ?_⟩
    (isBound_of_mul day 0 (abs_le.mpr ⟨by omega, by omega⟩) (by norm_num) (by norm_num))
    (isBound_of_mul ((day + 1) * 2 ^ 31 - 15) 31 (abs_le.mpr ⟨by omega, by omega⟩) (by norm_num) ?_)
    ⟨le_rfl, le_rfl⟩ ⟨?_, ?_⟩
  · rw [zpow_neg, div_eq_mul_inv]
    rfl
  · push_cast
    ring
  · push_cast
    linarith
  · push_cast
    linarith

/-- It is less than half a millisecond off. -/
theorem near_kept_numberAt : y.Near (day + n / millisecondsOfDay) (2 / 10 ^ 9) := by
  have hsize := abs_numberAt_le hlow hhigh hn
  have hnear := h.near (near_numberAt hlow hhigh hn) (i := 7) (k := 22) (by linarith)
    (by norm_num) (by linarith)
  exact hnear.mono (by norm_num)

/-! ### What they are read as -/

theorem floor?_kept_numberAt : y.floor? = some day := by
  have hy := within_kept_numberAt hlow hhigh hn h
  rw [floor?_eq hy.fits, Option.some_inj, Int.floor_eq_iff]
  exact ⟨hy.ge, hy.le.trans_lt (by linarith)⟩

theorem round?_kept_numberAt :
    (((fractionOf y day).scale secondsOfDay).scale 1000).round? = some (n : Int) := by
  have hy := within_kept_numberAt hlow hhigh hn h
  have hnear := (near_kept_numberAt hlow hhigh hn h).near
  have hn' : (n : ℚ) < 86400000 := by exact_mod_cast hn
  have hn'' : (0 : ℚ) ≤ n := Nat.cast_nonneg n
  rw [cast_millisecondsOfDay] at hnear
  obtain ⟨num, den, hfraction, hden, hvalue⟩ := exists_fraction hy.fits
  have hrest : ((num - day * den : Int) : ℚ) / den = y.value - day := by
    rw [hvalue]
    push_cast
    have hden' : (den : ℚ) ≠ 0 := by exact_mod_cast hden
    field_simp
  have hsize : |y.value - day| ≤ 2 ^ 0 := by
    rw [abs_le]
    constructor
    · linarith [hy.ge]
    · linarith [hy.le]
  have hpart : (fractionOf y day).Near (n / 86400000) (2 / 10 ^ 9 + 2 ^ 0 / 2 ^ 54) := by
    simp only [fractionOf, hfraction]
    rw [← hrest] at hsize
    refine .of_rounds (rounds_ofFraction hden (hsize.trans_lt (two_pow_lt_greatest (by norm_num))))
      hsize ?_
    rwa [hrest, sub_sub]
  have hseconds := hpart.scale (n := secondsOfDay) (k := 17) (by norm_num) (by
    rw [cast_secondsOfDay, abs_of_nonneg (by positivity)]
    linarith)
  have hmilliseconds := hseconds.scale (n := 1000) (k := 27) (by norm_num) (by
    rw [cast_secondsOfDay, abs_of_nonneg (by positivity)]
    push_cast
    linarith)
  rw [cast_secondsOfDay] at hmilliseconds
  have hsame : (n : ℚ) / 86400000 * 86400 * (1000 : Nat) = n := by
    push_cast
    ring
  rw [hsame] at hmilliseconds
  obtain ⟨m, hm, hround⟩ := exists_round? hmilliseconds.fits
  have hclose : |(m : ℚ) - n| < 1 := by
    refine (abs_sub_le _ _ _).trans_lt ((add_le_add hround hmilliseconds.near).trans_lt ?_)
    norm_num
  have hzero : |m - n| < 1 := by exact_mod_cast hclose
  rw [hm, sub_eq_zero.mp (Int.abs_lt_one_iff.mp hzero)]

end Kept

/-! ### What is saved for them -/

/-- On the first day there is nothing but the time of day. -/
theorem numberAt_zero {n : Nat} (hn : n < millisecondsOfDay) :
    numberAt 0 n = ofClock (Clock.ofMicroseconds (1000 * n)) := by
  rcases Nat.eq_zero_or_pos n with rfl | hpos
  · decide +kernel
  have hclock := near_ofClock hn
  have hvalue : 0 < (ofClock (Clock.ofMicroseconds (1000 * n))).value := by
    have hn' : (1 : ℚ) ≤ n := by exact_mod_cast hpos
    have hnear := (abs_le.mp hclock.near).1
    rw [cast_millisecondsOfDay] at hnear
    linarith
  have hzero := within_ofInt (n := 0) (by norm_num)
  have hsum : (Binary64.ofInt 0).value + (ofClock (Clock.ofMicroseconds (1000 * n))).value =
      (ofClock (Clock.ofMicroseconds (1000 * n))).value := by
    rw [le_antisymm hzero.le hzero.ge, Int.cast_zero, zero_add]
  have hrounds := rounds_add hzero.fits hclock.fits (by
    rw [hsum]
    have hwithin := within_ofClock hn
    exact (abs_le.mpr ⟨by linarith, by linarith [hwithin.le]⟩ : _ ≤ (2 : ℚ) ^ 0).trans_lt
      (two_pow_lt_greatest (by norm_num)))
  rw [hsum] at hrounds
  exact hrounds.fits.eq_of_value hclock.fits (hrounds.eq hclock.fits.isPoint)
    ((hrounds.eq hclock.fits.isPoint).trans_ne hvalue.ne')

/-- The days of a moment, as they are counted in a file. -/
def countOf (day : Int) : Int :=
  if 0 < day ∧ day ≤ settledDay then day - 1 else day

theorem ofMoment_eq_numberAt (d : Date) (n : Nat) :
    ofMoment d (Clock.ofMicroseconds (1000 * n)) = numberAt (countOf (d.number - epoch)) n := rfl

theorem countOf_bounds {d : Date} (hd : Date.ofNumber? d.number = some d) :
    -1000000 ≤ countOf (d.number - epoch) ∧ countOf (d.number - epoch) ≤ 2958465 := by
  have hlt := Date.number_lt hd
  have hepoch : epoch = 693593 := by decide
  have hlast : daysBefore (lastYear + 1) = 3652059 := rfl
  rw [countOf]
  split
  · omega
  · omega

/-- The count is taken back, except that the first day has two dates. -/
theorem day_of_countOf {day : Int} (isZero : Bool) (hne : countOf day ≠ 0) :
    (if (decide (countOf day > 0) || decide (countOf day = 0) && isZero) &&
        decide (countOf day < settledDay) then countOf day + 1 else countOf day) = day := by
  have hsettled : (settledDay : Int) = 60 := rfl
  simp only [decide_eq_false hne, Bool.false_and, Bool.or_false, Bool.and_eq_true,
    decide_eq_true_eq]
  unfold countOf at hne ⊢
  rw [hsettled] at hne ⊢
  split
  · split at hne
    · omega
    · split
      · omega
      · omega
  · split at hne
    · omega
    · split
      · omega
      · omega

/-- The two ways to read a moment. -/
theorem readMoment?_eq {y : Binary64} {day ms : Int} (hfloor : y.floor? = some day)
    (hround : (((fractionOf y day).scale secondsOfDay).scale 1000).round? = some ms) :
    readMoment? y =
      if day = 0 ∧ ms < millisecondsOfDay then
        some (.clock (Clock.ofMicroseconds (1000 * ms.toNat)))
      else
        (moment? (if (decide (day > 0) || decide (day = 0) && decide (y.toInt? ≠ some 0)) &&
          decide (day < settledDay) then day + 1 else day) ms).map fun m => .dateTime m.1 m.2 := by
  unfold readMoment?
  rw [hfloor, Option.bind_eq_bind, Option.bind_some, hround, Option.bind_eq_bind, Option.bind_some]
  split
  · rfl
  · rw [Option.map_eq_bind]
    rfl

theorem moment?_eq {d : Date} {day : Int} {n : Nat} (hd : Date.ofNumber? (day + epoch) = some d)
    (hn : n < millisecondsOfDay) : moment? day n = some (d, Clock.ofMicroseconds (1000 * n)) := by
  have hday : Int.fdiv n millisecondsOfDay = 0 := by
    rw [Int.fdiv_eq_ediv_of_nonneg _ (by decide)]
    exact Int.ediv_eq_zero_of_lt (by omega) (by omega)
  have hrest : Int.fmod n millisecondsOfDay = n := by
    rw [Int.fmod_eq_emod_of_nonneg _ (by decide)]
    exact Int.emod_eq_of_lt (by omega) (by omega)
  simp only [moment?, hday, hrest, Int.add_zero, hd, Int.toNat_natCast]
  rfl

/-- A moment that was saved is read so that the same number is saved for it again. -/
theorem ofValue?_kept_moment {d : Date} {n : Nat} {t : ℚ} {y : Binary64}
    (hd : Date.ofNumber? d.number = some d) (hn : n < millisecondsOfDay)
    (h : (ofMoment d (Clock.ofMicroseconds (1000 * n))).Keeps t y) : ∃ v, readMoment? y = some v ∧
      ofValue? v = some (ofMoment d (Clock.ofMicroseconds (1000 * n))) := by
  obtain ⟨hlow, hhigh⟩ := countOf_bounds hd
  rw [ofMoment_eq_numberAt] at h ⊢
  rw [readMoment?_eq (floor?_kept_numberAt hlow hhigh hn h) (round?_kept_numberAt hlow hhigh hn h)]
  by_cases hzero : countOf (d.number - epoch) = 0
  · rw [if_pos ⟨hzero, by exact_mod_cast hn⟩, hzero, numberAt_zero hn]
    exact ⟨_, rfl, rfl⟩
  · rw [if_neg fun h => hzero h.1, day_of_countOf _ hzero,
      moment?_eq (d := d) (by rwa [Int.sub_add_cancel]) hn]
    exact ⟨_, rfl, rfl⟩

theorem ofValue?_kept_clock {n : Nat} {t : ℚ} {y : Binary64} (hn : n < millisecondsOfDay)
    (h : (ofClock (Clock.ofMicroseconds (1000 * n))).Keeps t y) :
    readMoment? y = some (.clock (Clock.ofMicroseconds (1000 * n))) := by
  rw [← numberAt_zero hn] at h
  rw [readMoment?_eq (floor?_kept_numberAt (by norm_num) (by norm_num) hn h)
    (round?_kept_numberAt (by norm_num) (by norm_num) hn h), if_pos ⟨rfl, by exact_mod_cast hn⟩]
  rfl

/-- **Saving a moment again.** What a file keeps of a moment that was read from a number stays as it
is when the moment is read once more and saved. -/
theorem exists_readMoment?_again {x z y : Binary64} {v w : Value} (hv : readMoment? x = some v)
    (hz : ofValue? v = some z) (hw : Value.storedNumber z = some w) (hy : w.toBinary64? = some y) :
    ∃ v', readMoment? y = some v' ∧ ofValue? v' = some z := by
  obtain ⟨z', hz', hwithin⟩ := within_ofValue?_of_readMoment? hv
  cases hz.symm.trans hz'
  obtain ⟨t, w', y', hw', hy', hkeeps⟩ := exists_storedNumber hwithin.fits
  cases hw.symm.trans hw'
  cases hy.symm.trans hy'
  obtain ⟨n, hn, rfl | ⟨d, hd, rfl⟩⟩ := eq_of_readMoment? hv
  · cases hz
    exact ⟨_, ofValue?_kept_clock hn hkeeps, rfl⟩
  · cases hz
    exact ofValue?_kept_moment hd hn hkeeps

end SheetActions.Serial
