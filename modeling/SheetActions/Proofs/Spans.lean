import SheetActions.Proofs.Moments

/-! Spans of time in a file.

A number of days is refused if it is a span beyond the limit, for the program that changes files and
for readers alike, but they do not round alike. A span that was read from a number can come near the
limit only by the distance of the numbers there (`part_of_units`), which is more than what rounding
it to milliseconds, saving it and reading it again take away: it stays within the limit
(`within_ofValue?_of_readSpan?`, `within_kept_span`, `seenFlaw?_seeSpan`). -/
namespace SheetActions.Serial
open Binary64

/-- The microseconds of so many days. -/
def microsecondsOf (days : Int) : Int := days * dayLength

/-- No span that was read from a number is longer. The next number of days after it that a file
can hold is the first one that is too long. -/
def longest : Int := microsecondsOf (spanLimit + 1) - 10000

theorem longest_eq : longest = 86399999999999990000 := by decide

/-! ### Writing -/

theorem within_ofSpan {n : Int} (hlow : microsecondsOf (-spanLimit) ≤ n) (hhigh : n ≤ longest) :
    (ofSpan n).Within (-999999999) (1000000000 - 1 / 2 ^ 23) := by
  have hlimit : microsecondsOf (-spanLimit) = -86399999913600000000 := by decide
  have hlow' : (-86399999913600000000 : ℚ) ≤ n := by
    rw [hlimit] at hlow
    exact_mod_cast hlow
  have hhigh' : (n : ℚ) ≤ 86399999999999990000 := by
    rw [longest_eq] at hhigh
    exact_mod_cast hhigh
  have hseconds : (n : ℚ) / secondLength ≤ 86400000000000 - 1 / 100 := by
    rw [cast_secondLength, div_le_iff₀ (by norm_num)]
    linarith
  have hseconds' : (-86399999913600 : ℚ) ≤ n / secondLength := by
    rw [cast_secondLength, le_div_iff₀ (by norm_num)]
    linarith
  have hbound : IsBound (86400000000000 - 1 / 2 ^ 6) :=
    isBound_of_mul (86400000000000 * 64 - 1) 6 (by norm_num) (by norm_num) (by norm_num)
  have hlowbound : IsBound (-86399999913600) :=
    isBound_of_mul (-86399999913600) 0 (by norm_num) (by norm_num) (by norm_num)
  have hend : IsBound 86400000000000 :=
    isBound_of_mul 86400000000000 0 (by norm_num) (by norm_num) (by norm_num)
  have hrounds := rounds_ofFraction (n := n) (d := secondLength) (by decide)
    (Within.abs_lt_greatest hlowbound hend hseconds' (by linarith))
  have hless : (Binary64.ofFraction n secondLength).value < (86400000000000 : Int) := by
    have := hrounds.le_reflect hbound.isPoint (by norm_num) hseconds
    push_cast
    linarith
  have hwithin : (Binary64.ofFraction n secondLength).Within (-86399999913600)
      (86400000000000 - 1 / 2 ^ 6) := by
    refine ⟨hrounds.fits, hrounds.ge hlowbound.isPoint hseconds', ?_⟩
    have := hrounds.fits.isPoint.le_of_lt hless (k := 6) (by norm_num)
    push_cast at this
    exact this
  refine hwithin.divide (by decide)
    (isBound_of_mul (-999999999) 0 (by norm_num) (by norm_num) (by norm_num))
    (isBound_of_mul (1000000000 * 2 ^ 23 - 1) 23 (by norm_num) (by norm_num) (by norm_num)) ?_ ?_
  · rw [cast_secondsOfDay]
    norm_num
  · rw [cast_secondsOfDay]
    norm_num

/-! ### Whole milliseconds -/

/-- The seconds of a span are rounded, but not across a number that is far enough. -/
theorem floor_seconds_le {n s : Int} {b p : ℚ} (hs : 0 ≤ s) (hp : IsPoint p) (hle : p ≤ b)
    (hn : (n : ℚ) / secondLength ≤ b) (hlt : 2 * b - p < s + 1) :
    ((Binary64.ofFraction n secondLength).floor?).getD 0 ≤ s := by
  rcases ofFraction_spec n (d := secondLength) (by decide) with hrounds | ⟨⟨negative, hinf⟩, _⟩
  · rw [floor?_eq hrounds.fits, Option.getD_some, ← Int.lt_add_one_iff, Int.floor_lt]
    push_cast
    exact (hrounds.le_reflect hp hle hn).trans_lt hlt
  · rw [hinf]
    exact hs

theorem roundSpan_eq (n : Int) : n % 1000000 = 0 ∧ roundSpan n = n ∨ n % 1000000 ≠ 0 ∧
    roundSpan n = ((Binary64.ofFraction n secondLength).floor?).getD 0 * 1000000 +
      1000 * roundQuotient (n % 1000000).toNat 1000 := by
  have hlength : (secondLength : Int) = 1000000 := rfl
  unfold roundSpan
  simp only [hlength, Int.fmod_eq_emod_of_nonneg n (by decide : (0 : Int) ≤ 1000000)]
  split
  · rename_i hwhole
    exact .inl ⟨hwhole, rfl⟩
  · rename_i hrest
    exact .inr ⟨hrest, rfl⟩

theorem roundSpan_mod (n : Int) : roundSpan n % 1000 = 0 := by
  rcases roundSpan_eq n with ⟨hwhole, heq⟩ | ⟨_, heq⟩
  · omega
  · omega

/-- A span that ends far enough from a whole second before the limit does so after rounding. -/
theorem roundSpan_le {n : Int} (h : n ≤ 86400000000000000000 - 1009368 ∨
    86400000000000000000 - 1000000 ≤ n ∧ n ≤ 86400000000000000000 - 10299) :
    roundSpan n ≤ longest := by
  have hquotient : ∀ {b : ℚ}, (n : ℚ) ≤ b * 1000000 → (n : ℚ) / secondLength ≤ b := by
    intro b hb
    rw [cast_secondLength, div_le_iff₀ (by norm_num)]
    exact hb
  have hunits := (roundQuotient_near (n % 1000000).toNat (by norm_num : 0 < 1000)).1
  rw [longest_eq]
  rcases roundSpan_eq n with ⟨_, heq⟩ | ⟨_, heq⟩
  · rw [heq]
    omega
  rw [heq]
  rcases h with h | ⟨hge, hle⟩
  · have h' : (n : ℚ) ≤ 86400000000000000000 - 1009368 := by exact_mod_cast h
    have hseconds := floor_seconds_le (n := n) (s := 86399999999998)
      (b := 86399999999999 - 9368 / 1000000) (p := 86399999999999 - 1 / 64) (by norm_num)
      (isBound_of_mul (86399999999999 * 64 - 1) 6 (by norm_num) (by norm_num) (by norm_num)).isPoint
      (by norm_num) (hquotient (by linarith)) (by norm_num)
    omega
  · have hle' : (n : ℚ) ≤ 86400000000000000000 - 10299 := by exact_mod_cast hle
    have hseconds := floor_seconds_le (n := n) (s := 86399999999999)
      (b := 86400000000000 - 10299 / 1000000) (p := 86400000000000 - 1 / 64) (by norm_num)
      (isBound_of_mul (86400000000000 * 64 - 1) 6 (by norm_num) (by norm_num) (by norm_num)).isPoint
      (by norm_num) (hquotient (by linarith)) (by norm_num)
    omega

/-- A span beyond the limit stays there. -/
theorem le_roundSpan {n : Int} (h : 86400000000000000000 ≤ n)
    (hsmall : n % 1000000 ≠ 0 → (n : ℚ) < 2 ^ 93) : 86400000000000000000 ≤ roundSpan n := by
  rcases roundSpan_eq n with ⟨_, heq⟩ | ⟨hrest, heq⟩
  · rw [heq]
    exact h
  have h' : (86400000000000000000 : ℚ) ≤ n := by exact_mod_cast h
  have hge : (86400000000000 : ℚ) ≤ n / secondLength := by
    rw [cast_secondLength, le_div_iff₀ (by norm_num)]
    linarith
  have hle : (n : ℚ) / secondLength ≤ 2 ^ 93 := by
    rw [cast_secondLength, div_le_iff₀ (by norm_num)]
    linarith [hsmall hrest]
  have hlow : IsBound 86400000000000 :=
    isBound_of_mul 86400000000000 0 (by norm_num) (by norm_num) (by norm_num)
  have hrounds := rounds_ofFraction (n := n) (d := secondLength) (by decide)
    (Within.abs_lt_greatest hlow ⟨2 ^ 53, 40, by norm_num, by decide, by norm_num, by norm_num⟩ hge
      hle)
  have hfloor : 86400000000000 ≤ ((Binary64.ofFraction n secondLength).floor?).getD 0 := by
    rw [floor?_eq hrounds.fits, Option.getD_some, Int.le_floor]
    exact_mod_cast hrounds.ge hlow.isPoint hge
  rw [heq]
  omega

/-! ### Reading -/

/-- Whole days and what is left of a number. -/
theorem tdiv_spec {n : Int} {d : Nat} (hd : d ≠ 0) :
    |(n : ℚ) / d - Int.tdiv n d| ≤ 1 ∧ (0 ≤ (n : ℚ) / d → Int.tdiv n d = ⌊(n : ℚ) / d⌋) ∧
      ((n : ℚ) / d < 0 → Int.tdiv n d ≤ 0) := by
  have hpos : (0 : ℚ) < d := by positivity
  have hfloor : ∀ m : Int, 0 ≤ m → Int.tdiv m d = ⌊(m : ℚ) / d⌋ := by
    intro m hm
    rw [Int.tdiv_eq_ediv_of_nonneg hm]
    exact_mod_cast (Rat.floor_intCast_div_natCast m d).symm
  have hnear : ∀ q : ℚ, |q - ⌊q⌋| ≤ 1 := by
    intro q
    rw [abs_of_nonneg (sub_nonneg.mpr (Int.floor_le q))]
    linarith [Int.lt_floor_add_one q]
  rcases le_or_gt 0 n with hn | hn
  · have hq : 0 ≤ (n : ℚ) / d := div_nonneg (by exact_mod_cast hn) hpos.le
    refine ⟨?_, fun _ => hfloor n hn, fun h => absurd h (not_lt.mpr hq)⟩
    rw [hfloor n hn]
    exact hnear _
  · have hn' : (n : ℚ) < 0 := by exact_mod_cast hn
    have hq : (n : ℚ) / d < 0 := div_neg_of_neg_of_pos hn' hpos
    have hflip : Int.tdiv n d = -⌊((-n : Int) : ℚ) / d⌋ := by
      rw [← hfloor (-n) (by omega), Int.neg_tdiv, neg_neg]
    refine ⟨?_, fun h => absurd h (not_le.mpr hq), fun _ => ?_⟩
    · have := hnear (((-n : Int) : ℚ) / d)
      rw [hflip, ← abs_neg]
      convert this using 2
      push_cast
      ring
    · rw [hflip, neg_nonpos]
      exact Int.floor_nonneg.mpr (div_nonneg (by exact_mod_cast (by omega : 0 ≤ -n)) hpos.le)

/-- The microseconds of a rest of a day. -/
theorem exists_part {F : Binary64} {q : ℚ} (hrest : F.Rounds q) (hq : |q| ≤ 1) :
    ∃ part : Int, (F.scale dayLength).round? = some part ∧ |(part : ℚ) - q * dayLength| ≤ 1 := by
  have hF : F.Near q (0 + 2 ^ 0 / 2 ^ 54) :=
    .of_rounds hrest (by rwa [pow_zero]) (by rw [sub_self, abs_zero])
  have hscaled := hF.scale (n := dayLength) (k := 37) (by norm_num) (by
    rw [cast_dayLength, abs_mul, abs_of_nonneg (by norm_num : (0 : ℚ) ≤ 86400000000)]
    linarith)
  obtain ⟨part, hpart, hround⟩ := exists_round? hscaled.fits
  refine ⟨part, hpart, (abs_sub_le _ _ _).trans ((add_le_add hround hscaled.near).trans ?_)⟩
  rw [cast_dayLength]
  norm_num

/-- A number as whole days, and the microseconds of the rest `F`, as spans are read. -/
structure Splits (x F : Binary64) (days part : Int) : Prop where
  rest : F.Rounds (x.value - days)
  round : (F.scale dayLength).round? = some part
  close : |(part : ℚ) - (x.value - days) * dayLength| ≤ 1
  near : |x.value - days| ≤ 1
  floor : 0 ≤ x.value → days = ⌊x.value⌋
  nonpos : x.value < 0 → days ≤ 0

/-- A number is read as a span by its whole days and its rest, if that is within the limit. -/
theorem exists_splits {x : Binary64} (hx : x.Fits) : ∃ F days part, Splits x F days part ∧
    readSpan? x =
      if Int.fdiv (roundSpan (days * dayLength + part)) dayLength < -spanLimit ∨
          spanLimit < Int.fdiv (roundSpan (days * dayLength + part)) dayLength then none
      else some (.span (roundSpan (days * dayLength + part))) := by
  obtain ⟨n, d, hxf, hd, hxv⟩ := exists_fraction hx
  obtain ⟨hnear, hfloor, hneg⟩ := tdiv_spec (n := n) hd
  have hd' : (d : ℚ) ≠ 0 := by exact_mod_cast hd
  have hrest : ((n - Int.tdiv n d * d : Int) : ℚ) / d = x.value - Int.tdiv n d := by
    rw [hxv]
    push_cast
    field_simp
  rw [← hxv] at hnear hfloor hneg
  have hrounds :
      (Binary64.ofFraction (n - Int.tdiv n d * d) d).Rounds (x.value - Int.tdiv n d) := by
    rw [← hrest]
    refine rounds_ofFraction hd ?_
    rw [hrest]
    exact hnear.trans_lt (by simpa using two_pow_lt_greatest (k := 0) (by norm_num))
  obtain ⟨part, hpart, hclose⟩ := exists_part hrounds hnear
  refine ⟨_, _, part, ⟨hrounds, hpart, hclose, hnear, hfloor, hneg⟩, ?_⟩
  simp only [readSpan?, hxf, bind, Option.bind, hpart]

theorem fits_of_readSpan? {x : Binary64} {v : Value} (hx : x.isFinite = true → x.Fits)
    (h : readSpan? x = some v) : x.Fits := by
  cases x with
  | finite => exact hx rfl
  | _ => cases h

theorem readSpan?_eq_some {x : Binary64} {v : Value} (hx : x.Fits) (h : readSpan? x = some v) :
    ∃ F days part, Splits x F days part ∧ v = .span (roundSpan (days * dayLength + part)) ∧
      microsecondsOf (-spanLimit) ≤ roundSpan (days * dayLength + part) ∧
      roundSpan (days * dayLength + part) < microsecondsOf (spanLimit + 1) := by
  obtain ⟨F, days, part, hsplits, hread⟩ := exists_splits hx
  rw [h] at hread
  split at hread
  · cases hread
  · rename_i hlimit
    have hlength : (0 : Int) < dayLength := by decide
    rw [Int.fdiv_eq_ediv_of_nonneg _ hlength.le, not_or, not_lt, not_lt] at hlimit
    refine ⟨F, days, part, hsplits, Option.some.inj hread, ?_, ?_⟩
    · exact (Int.le_ediv_iff_mul_le hlength).mp hlimit.1
    · exact (Int.ediv_lt_iff_lt_mul hlength).mp (Int.lt_add_one_iff.mpr hlimit.2)

namespace Splits
variable {x F : Binary64} {days part : Int}

/-- The microseconds of the rest, between bounds of the rest. -/
theorem part_within (h : Splits x F days part) {a b p q : ℚ} (hF : F.Within a b) (hp : IsBound p)
    (hq : IsBound q) (ge : p ≤ a * 86400000000) (le : b * 86400000000 ≤ q) :
    p - 1 / 2 ≤ part ∧ part ≤ q + 1 / 2 := by
  have hscaled : (F.scale dayLength).Within p q :=
    hF.scale hp hq (by rwa [cast_dayLength]) (by rwa [cast_dayLength])
  obtain ⟨n, hn, hnear⟩ := exists_round? hscaled.fits
  cases hn.symm.trans h.round
  obtain ⟨hge, hle⟩ := abs_le.mp hnear
  exact ⟨by linarith [hscaled.ge], by linarith [hscaled.le]⟩

theorem isBound_day : IsBound 86400000000 :=
  isBound_of_mul 86400000000 0 (by norm_num) (by norm_num) (by norm_num)

theorem part_le (h : Splits x F days part) : part ≤ 86400000000 := by
  have hone : IsBound 1 := isBound_of_mul 1 0 (by norm_num) (by norm_num) (by norm_num)
  have hminus : IsBound (-1) := isBound_of_mul (-1) 0 (by norm_num) (by norm_num) (by norm_num)
  have hlow : IsBound (-86400000000) :=
    isBound_of_mul (-86400000000) 0 (by norm_num) (by norm_num) (by norm_num)
  obtain ⟨hge, hle⟩ := abs_le.mp h.near
  have hpart := (h.part_within (.of_rounds h.rest hminus hone hge hle) hlow isBound_day
    (by norm_num) (by norm_num)).2
  have hlt : (part : ℚ) < (86400000000 + 1 : Int) := by
    push_cast
    linarith
  exact Int.lt_add_one_iff.mp (Int.cast_lt.mp hlt)

theorem part_nonneg (h : Splits x F days part) (hx : 0 ≤ x.value) : 0 ≤ part := by
  have hone : IsBound 1 := isBound_of_mul 1 0 (by norm_num) (by norm_num) (by norm_num)
  have hzero : IsBound 0 := isBound_of_mul 0 0 (by norm_num) (by norm_num) (by norm_num)
  have hge : 0 ≤ x.value - days := by
    rw [h.floor hx]
    exact sub_nonneg.mpr (Int.floor_le _)
  have hpart := (h.part_within (.of_rounds h.rest hzero hone hge (abs_le.mp h.near).2) hzero
    isBound_day (by norm_num) (by norm_num)).1
  have hlt : ((-1 : Int) : ℚ) < part := by
    push_cast
    linarith
  exact Int.cast_lt.mp hlt

/-- A large number has no rest. -/
theorem part_eq_zero (h : Splits x F days part) (hx : x.Fits) (hlarge : 2 ^ 53 ≤ x.value) :
    part = 0 := by
  have hzero : IsBound 0 := isBound_of_mul 0 0 (by norm_num) (by norm_num) (by norm_num)
  obtain ⟨i, hi⟩ := hx.isPoint.exists_div (k := 0) (by
    rw [pow_zero, mul_one, abs_of_nonneg (by linarith)]
    linarith)
  rw [pow_zero, div_one] at hi
  have hrest : x.value - days = 0 := by
    rw [h.floor (by linarith), hi, Int.floor_intCast, sub_self]
  have hF := Within.of_rounds h.rest hzero hzero hrest.ge hrest.le
  obtain ⟨hge, hle⟩ := h.part_within hF hzero hzero (by norm_num) (by norm_num)
  have hlow : ((-1 : Int) : ℚ) < part := by
    push_cast
    linarith
  have hhigh : (part : ℚ) < (1 : Int) := by
    push_cast
    linarith
  have hlow' := Int.cast_lt.mp hlow
  have hhigh' := Int.cast_lt.mp hhigh
  omega

/-- A number that is too large is read as a span that is too long. -/
theorem le_roundSpan (h : Splits x F days part) (hx : x.Fits) (hlarge : 1000000000 ≤ x.value) :
    microsecondsOf (spanLimit + 1) ≤ roundSpan (days * dayLength + part) := by
  have hlimit : microsecondsOf (spanLimit + 1) = 86400000000000000000 := by decide
  have hlength : (dayLength : Int) = 86400000000 := rfl
  have hdays : 1000000000 ≤ days := by
    rw [h.floor (by linarith)]
    exact Int.le_floor.mpr (by exact_mod_cast hlarge)
  have hpart := h.part_nonneg (by linarith)
  rw [hlimit, hlength]
  refine Serial.le_roundSpan (by omega) fun hrest => ?_
  have hsmall : x.value < 2 ^ 53 := by
    by_contra hge
    rw [h.part_eq_zero hx (not_lt.mp hge)] at hrest
    omega
  have hdays' : (days : ℚ) ≤ x.value := by
    rw [h.floor (by linarith)]
    exact Int.floor_le _
  have hpart' : (part : ℚ) ≤ 86400000000 := by exact_mod_cast h.part_le
  push_cast
  linarith

/-- On the last day before the limit the numbers have a distance of more than ten milliseconds,
and none of them is just before a whole second. -/
theorem part_of_units (h : Splits x F days part) {i : Int}
    (hrest : x.value - days = i / 2 ^ 23 - 999999999) (hlow : 999999999 * 2 ^ 23 ≤ i)
    (hhigh : i < 1000000000 * 2 ^ 23) : part ≤ 86400000000 - 1009368 ∨
      86400000000 - 1000000 ≤ part ∧ part ≤ 86400000000 - 10299 := by
  have hbound : ∀ k : Int, 0 ≤ k → k ≤ 100 → IsBound (1 - k / 2 ^ 23) := fun k hk hk' =>
    isBound_of_mul (2 ^ 23 - k) 23 (abs_le.mpr ⟨by omega, by omega⟩) (by norm_num) (by
      push_cast
      ring)
  have hflip : (i : ℚ) / 2 ^ 23 - 999999999 = 1 - (1000000000 * 2 ^ 23 - i : Int) / 2 ^ 23 := by
    push_cast
    ring
  have hle : ∀ k : Int, k ≤ 1000000000 * 2 ^ 23 - i → x.value - days ≤ 1 - k / 2 ^ 23 := by
    intro k hk
    rw [hrest, hflip, sub_le_sub_iff_left]
    exact div_le_div_of_nonneg_right (by exact_mod_cast hk) (by positivity)
  have hge : ∀ k : Int, 1000000000 * 2 ^ 23 - i ≤ k → 1 - k / 2 ^ 23 ≤ x.value - days := by
    intro k hk
    rw [hrest, hflip, sub_le_sub_iff_left]
    exact div_le_div_of_nonneg_right (by exact_mod_cast hk) (by positivity)
  by_cases hfar : 98 ≤ 1000000000 * 2 ^ 23 - i
  · have hzero : IsBound 0 := isBound_of_mul 0 0 (by norm_num) (by norm_num) (by norm_num)
    have hpos : 0 ≤ x.value - days := by
      have := hge (2 ^ 23) (by omega)
      push_cast at this
      linarith
    have hF := Within.of_rounds h.rest hzero (hbound 98 (by norm_num) (by norm_num)) hpos
      (hle 98 hfar)
    have hupper := (h.part_within hF hzero (q := 86400000000 - 1009368 - 1 / 2)
      (isBound_of_mul (86400000000 * 2 - 2018737) 1 (by norm_num) (by norm_num) (by norm_num))
      (by norm_num) (by norm_num)).2
    have hupper' : (part : ℚ) ≤ (86400000000 - 1009368 : Int) := by
      push_cast
      linarith
    exact .inl (Int.cast_le.mp hupper')
  · have hF := Within.of_rounds h.rest (hbound 97 (by norm_num) (by norm_num))
      (hbound 1 (by norm_num) (by norm_num)) (hge 97 (by omega)) (hle 1 (by omega))
    obtain ⟨hlower, hupper⟩ := h.part_within hF (p := 86400000000 - 999070)
      (q := 86400000000 - 10299 - 1 / 2)
      (isBound_of_mul (86400000000 - 999070) 0 (by norm_num) (by norm_num) (by norm_num))
      (isBound_of_mul (86400000000 * 2 - 20599) 1 (by norm_num) (by norm_num) (by norm_num))
      (by norm_num) (by norm_num)
    have hlower' : ((86400000000 - 1000000 : Int) : ℚ) ≤ part := by
      push_cast
      linarith
    have hupper' : (part : ℚ) ≤ (86400000000 - 10299 : Int) := by
      push_cast
      linarith
    exact .inr ⟨Int.cast_le.mp hlower', Int.cast_le.mp hupper'⟩

/-- Where a number is below the limit, so is what it is read as, and by far enough. -/
theorem roundSpan_le_longest (h : Splits x F days part) (hx : x.Fits)
    (hsmall : x.value < 1000000000) : roundSpan (days * dayLength + part) ≤ longest := by
  have hlength : (dayLength : Int) = 86400000000 := rfl
  have hpart := h.part_le
  rw [hlength]
  by_cases hdays : days ≤ 999999998
  · exact roundSpan_le (.inl (by omega))
  have hpos : 0 ≤ x.value := by
    by_contra hneg
    have := h.nonpos (not_le.mp hneg)
    omega
  have hfloor := h.floor hpos
  have hlast : days = 999999999 := by
    have : ⌊x.value⌋ < 1000000000 := Int.floor_lt.mpr (by exact_mod_cast hsmall)
    omega
  have hge : 999999999 ≤ x.value := by
    have := Int.floor_le x.value
    rw [← hfloor, hlast] at this
    exact_mod_cast this
  obtain ⟨i, hi⟩ := hx.isPoint.exists_div (k := 23) (by
    rw [abs_of_nonneg hpos]
    linarith)
  rw [hi, div_lt_iff₀ (by positivity)] at hsmall
  rw [hi, le_div_iff₀ (by positivity)] at hge
  have hunits := h.part_of_units (i := i) (by rw [hi, hlast]; norm_num) (by exact_mod_cast hge)
    (by exact_mod_cast hsmall)
  refine roundSpan_le (hunits.imp (fun hfar => ?_) fun hnear => ?_)
  · omega
  · omega

end Splits

/-- A number that is read as a span counts whole milliseconds within the limit. -/
theorem eq_of_readSpan? {x : Binary64} {v : Value} (hx : x.Fits) (h : readSpan? x = some v) :
    ∃ n, v = .span n ∧ n % 1000 = 0 ∧ microsecondsOf (-spanLimit) ≤ n ∧ n ≤ longest := by
  obtain ⟨F, days, part, hsplits, rfl, hlow, hhigh⟩ := readSpan?_eq_some hx h
  have hsmall : x.value < 1000000000 := by
    by_contra hlarge
    have := hsplits.le_roundSpan hx (not_lt.mp hlarge)
    omega
  exact ⟨_, rfl, roundSpan_mod _, hlow, hsplits.roundSpan_le_longest hx hsmall⟩

/-- What is written for it is within the limit too. -/
theorem within_ofValue?_of_readSpan? {x : Binary64} {v : Value} (hx : x.Fits)
    (h : readSpan? x = some v) :
    ∃ z, ofValue? v = some z ∧ z.Within (-999999999) (1000000000 - 1 / 2 ^ 23) := by
  obtain ⟨n, rfl, _, hlow, hhigh⟩ := eq_of_readSpan? hx h
  exact ⟨_, rfl, within_ofSpan hlow hhigh⟩

/-! ### What a file keeps -/

theorem within_kept_span {x y : Binary64} {t : ℚ}
    (hx : x.Within (-999999999) (1000000000 - 1 / 2 ^ 23)) (h : x.Keeps t y) :
    y.Within (-999999999) (1000000000 - 1 / 2 ^ 23) := by
  have hlow : IsBound (-999999999) :=
    isBound_of_mul (-999999999) 0 (by norm_num) (by norm_num) (by norm_num)
  have hge : -999999999 ≤ t :=
    h.nearest.ge ⟨-999999999, 0, by norm_num, by norm_num⟩ hx.ge
  have hle : t ≤ 9999999999999999 / 10 ^ 7 :=
    h.nearest.le ⟨9999999999999999, -7, by norm_num, by norm_num⟩ (hx.le.trans (by norm_num))
  have hend : IsBound 1000000000 :=
    isBound_of_mul 1000000000 0 (by norm_num) (by norm_num) (by norm_num)
  have hrounds := h.rounds hlow hend hge (hle.trans (by norm_num))
  have hpoint : IsPoint (1000000000 - 1 / 2 ^ 23) :=
    (isBound_of_mul (1000000000 * 2 ^ 23 - 1) 23 (by norm_num) (by norm_num) (by norm_num)).isPoint
  have hless : y.value < (1000000000 : Int) := by
    have := hrounds.le_reflect hpoint (by norm_num) hle
    push_cast
    linarith
  refine ⟨hrounds.fits, hrounds.ge hlow.isPoint hge, ?_⟩
  have := hrounds.fits.isPoint.le_of_lt hless (k := 23) (by norm_num)
  push_cast at this
  exact this

/-! ### What readers see -/

/-- The milliseconds that are seen are those of a span. -/
theorem milliseconds_span {y : Binary64} (h : y.Within (-999999999) (1000000000 - 1 / 2 ^ 23)) :
    -999999999 * 86400000 ≤ milliseconds y ∧ milliseconds y < 1000000000 * 86400000 := by
  have hlow : IsBound (-999999999 * 86400000) :=
    ⟨-999999999 * 84375, 10, by norm_num, by decide, by norm_num, by norm_num⟩
  have hhigh : IsBound (1000000000 * 86400000) :=
    ⟨1000000000 * 84375, 10, by norm_num, by decide, by norm_num, by norm_num⟩
  -- the numbers have a distance of 16 here
  have hpoint : IsPoint (1000000000 * 86400000 - 16) :=
    ⟨1000000000 * 5400000 - 1, 4, by norm_num, by decide, by norm_num⟩
  have hge : -999999999 * 86400000 ≤ y.value * millisecondsOfDay := by
    rw [cast_millisecondsOfDay]
    linarith [h.ge]
  have hle : y.value * millisecondsOfDay ≤ 1000000000 * 86400000 - 10 := by
    rw [cast_millisecondsOfDay]
    linarith [h.le]
  have hrounds := rounds_scale h.fits (k := millisecondsOfDay)
    (Within.abs_lt_greatest hlow hhigh hge (hle.trans (by norm_num)))
  have hvalue := hrounds.le_reflect hpoint (by norm_num) hle
  obtain ⟨n, hn, hnear⟩ := exists_roundAway? hrounds.fits
  obtain ⟨hnlow, hnhigh⟩ := abs_le.mp hnear
  rw [milliseconds, hn, Option.getD_some]
  constructor
  · have hlt : ((-999999999 * 86400000 : Int) : ℚ) < (n + 1 : Int) := by
      have := hrounds.ge hlow.isPoint hge
      push_cast
      linarith
    exact Int.lt_add_one_iff.mp (Int.cast_lt.mp hlt)
  · have hlt : (n : ℚ) < (1000000000 * 86400000 : Int) := by
      push_cast
      linarith
    exact Int.cast_lt.mp hlt

/-- A number of days that is a span for the one program is no flaw for the readers. -/
theorem seenFlaw?_seeSpan {y : Binary64} {v : Value}
    (h : y.Within (-999999999) (1000000000 - 1 / 2 ^ 23))
    (hv : (seeSpan y).normalized = some v) : v.seenFlaw? = none := by
  obtain ⟨hlow, hhigh⟩ := milliseconds_span h
  have hlimit : spanLimit = 999999999 := rfl
  have hlength : (dayLength : Int) = 86400000000 := rfl
  have hspan : v = .span (1000 * milliseconds y) := (Option.some.inj hv).symm
  rw [hspan]
  simp only [Value.seenFlaw?]
  rw [if_neg]
  rw [Int.fdiv_eq_ediv_of_nonneg _ (by rw [hlength]; decide), hlimit, hlength]
  omega

end SheetActions.Serial
