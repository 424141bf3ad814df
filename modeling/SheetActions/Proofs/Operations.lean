import SheetActions.Cell.Serial
import SheetActions.Proofs.Rounding

/-! Arithmetic on numbers, by their values.

An operation rounds the exact result, so it has one fact (`rounds_add`, `rounds_scale`,
`rounds_divide`): where the exact result is not too large, the result is a number nearest to
it. The ways to make a number an integer are told by its value as well. -/
namespace SheetActions.Binary64
variable {x y : Binary64} {q : ℚ}

theorem abs_signed (negative : Bool) (q : ℚ) : |signed negative q| = |q| := by
  cases negative
  · rfl
  · exact abs_neg q

/-- A number is its fraction. -/
theorem exists_fraction (h : x.Fits) :
    ∃ n d, x.fraction? = some (n, d) ∧ d ≠ 0 ∧ x.value = (n : ℚ) / d := by
  cases x with
  | finite negative m e =>
    refine ⟨_, 2 ^ (-e).toNat, rfl, by positivity, ?_⟩
    rw [value, zpow_eq_div_toNat]
    cases negative
    · simp only [signed, Bool.false_eq_true, if_false, Nat.pow_eq]
      push_cast
      ring
    · simp only [signed, if_true, Nat.pow_eq]
      push_cast
      ring
  | _ => exact h.elim

/-- A fraction is rounded to a nearest number, unless it is too large. -/
theorem ofFraction_spec (n : Int) {d : Nat} (hd : d ≠ 0) :
    (ofFraction n d).Rounds (n / d) ∨
      (∃ negative, ofFraction n d = .infinity negative) ∧ greatest ≤ |(n : ℚ) / d| := by
  have hsigned : signed (n < 0) (n.natAbs / d) = (n : ℚ) / d := by
    rcases lt_or_ge n 0 with hn | hn
    · rw [signed, if_pos (by simpa using hn), Nat.cast_natAbs, abs_of_neg hn]
      push_cast
      ring
    · rw [signed, if_neg (by simpa using hn), Nat.cast_natAbs, abs_of_nonneg hn]
  have hspec := ofRatio_spec (n < 0) n.natAbs hd
  rw [hsigned] at hspec
  refine hspec.imp_right fun hlarge => ⟨⟨_, hlarge.1⟩, ?_⟩
  rw [← hsigned, abs_signed]
  exact hlarge.2.trans (le_abs_self _)

theorem rounds_ofFraction {n : Int} {d : Nat} (hd : d ≠ 0) (h : |(n : ℚ) / d| < greatest) :
    (ofFraction n d).Rounds (n / d) :=
  (ofFraction_spec n hd).resolve_right fun hlarge => absurd hlarge.2 (not_le.mpr h)

theorem rounds_ofInt {n : Int} (h : |(n : ℚ)| < greatest) : (ofInt n).Rounds n := by
  have hrounds := rounds_ofFraction (n := n) one_ne_zero (by simpa using h)
  rw [Nat.cast_one, div_one] at hrounds
  exact hrounds

theorem rounds_add (hx : x.Fits) (hy : y.Fits) (h : |x.value + y.value| < greatest) :
    (x.add y).Rounds (x.value + y.value) := by
  obtain ⟨n, d, hxf, hd, hxv⟩ := exists_fraction hx
  obtain ⟨n', d', hyf, hd', hyv⟩ := exists_fraction hy
  have hadd : x.add y = ofFraction (n * d' + n' * d) (d * d') := by
    cases x with
    | finite =>
      cases y with
      | finite => simp only [add, hxf, hyf]
      | _ => exact hy.elim
    | _ => exact hx.elim
  have hsum : x.value + y.value = ((n * d' + n' * d : Int) : ℚ) / (d * d' : Nat) := by
    rw [hxv, hyv]
    push_cast
    rw [div_add_div _ _ (by exact_mod_cast hd) (by exact_mod_cast hd')]
    ring
  rw [hadd, hsum]
  rw [hsum] at h
  exact rounds_ofFraction (mul_ne_zero hd hd') h

theorem rounds_scale (hx : x.Fits) {k : Nat} (h : |x.value * k| < greatest) :
    (x.scale k).Rounds (x.value * k) := by
  obtain ⟨n, d, hxf, hd, hxv⟩ := exists_fraction hx
  have hscale : x.scale k = ofFraction (n * k) d := by simp only [scale, hxf]
  have hproduct : x.value * k = ((n * k : Int) : ℚ) / d := by
    rw [hxv]
    push_cast
    ring
  rw [hscale, hproduct]
  rw [hproduct] at h
  exact rounds_ofFraction hd h

theorem rounds_divide (hx : x.Fits) {k : Nat} (hk : k ≠ 0) (h : |x.value / k| < greatest) :
    (x.divide k).Rounds (x.value / k) := by
  obtain ⟨n, d, hxf, hd, hxv⟩ := exists_fraction hx
  have hdivide : x.divide k = ofFraction n (d * k) := by simp only [divide, hxf]
  have hquotient : x.value / k = (n : ℚ) / (d * k : Nat) := by
    rw [hxv]
    push_cast
    rw [div_div]
  rw [hdivide, hquotient]
  rw [hquotient] at h
  exact rounds_ofFraction (mul_ne_zero hd hk) h

/-! ### Integers -/

theorem floor?_eq (h : x.Fits) : x.floor? = some ⌊x.value⌋ := by
  obtain ⟨n, d, hxf, hd, hxv⟩ := exists_fraction h
  have hfloor : ⌊x.value⌋ = Int.fdiv n d := by
    rw [hxv, Int.fdiv_eq_ediv_of_nonneg n (Int.natCast_nonneg d)]
    exact_mod_cast Rat.floor_intCast_div_natCast n d
  rw [floor?, hxf, hfloor]
  rfl

/-- An integer with the sign of a fraction is as near to it as without the sign. -/
theorem abs_ite_sub {n : Int} {d r : Nat} (h : |(r : ℚ) - n.natAbs / d| ≤ 1 / 2) :
    |((if n < 0 then -(r : Int) else r : Int) : ℚ) - n / d| ≤ 1 / 2 := by
  rw [Nat.cast_natAbs] at h
  rcases lt_or_ge n 0 with hn | hn
  · rw [abs_of_neg hn] at h
    rw [if_pos hn, ← abs_neg]
    push_cast at h ⊢
    have hflip : -(-(r : ℚ) - n / d) = r - -n / d := by ring
    rwa [hflip]
  · rw [abs_of_nonneg hn] at h
    rw [if_neg (not_lt.mpr hn)]
    exact_mod_cast h

/-- The nearest integer is off by half at most. -/
theorem exists_round? (h : x.Fits) :
    ∃ n : Int, x.round? = some n ∧ |(n : ℚ) - x.value| ≤ 1 / 2 := by
  obtain ⟨n, d, hxf, hd, hxv⟩ := exists_fraction h
  rw [round?, hxf, hxv]
  refine ⟨_, rfl, ?_⟩
  exact abs_ite_sub (abs_roundQuotient_sub n.natAbs (Nat.pos_of_ne_zero hd))

/-- So is the nearest integer with ties away from zero. -/
theorem exists_roundAway? (h : x.Fits) :
    ∃ n : Int, x.roundAway? = some n ∧ |(n : ℚ) - x.value| ≤ 1 / 2 := by
  obtain ⟨n, d, hxf, hd, hxv⟩ := exists_fraction h
  rw [roundAway?, hxf, hxv]
  refine ⟨_, rfl, abs_ite_sub ?_⟩
  have hd' : (0 : ℚ) < d := by positivity
  have hcancel : (n.natAbs : ℚ) / d * d = n.natAbs := div_mul_cancel₀ _ hd'.ne'
  have hlow : (((2 * n.natAbs + d) / (2 * d) : Nat) : ℚ) * (2 * d) ≤ 2 * n.natAbs + d := by
    exact_mod_cast Nat.div_mul_le_self (2 * n.natAbs + d) (2 * d)
  have hhigh : 2 * (n.natAbs : ℚ) + d < (((2 * n.natAbs + d) / (2 * d) : Nat) + 1) * (2 * d) := by
    have := (Nat.div_lt_iff_lt_mul (by omega : 0 < 2 * d)).mp
      (Nat.lt_succ_self ((2 * n.natAbs + d) / (2 * d)))
    exact_mod_cast this
  rw [abs_le]
  constructor
  · nlinarith
  · nlinarith

theorem isBelow_iff (h : x.Fits) {n : Int} : Serial.isBelow x n = true ↔ x.value < n := by
  rw [Serial.isBelow, floor?_eq h, ← Int.floor_lt]
  simp

/-! ### Bounds -/

/-- A number of moderate size, as a bound for others. -/
def IsBound (b : ℚ) : Prop :=
  ∃ j f : Int, |j| ≤ 2 ^ 53 ∧ leastExponent ≤ f ∧ f ≤ 40 ∧ b = j * 2 ^ f

theorem IsBound.isPoint {b : ℚ} (h : IsBound b) : IsPoint b := by
  obtain ⟨j, f, hj, hf, _, hb⟩ := h
  exact ⟨j, f, hj, hf, hb⟩

theorem two_pow_lt_greatest {k : Nat} (hk : k < 971) : (2 : ℚ) ^ k < greatest :=
  calc (2 : ℚ) ^ k < 2 ^ 971 := pow_lt_pow_right₀ one_lt_two hk
    _ ≤ greatest := le_mul_of_one_le_left (by positivity) (by norm_num)

theorem IsBound.abs_lt {b : ℚ} (h : IsBound b) : |b| < greatest := by
  obtain ⟨j, f, hj, _, hf, rfl⟩ := h
  have hj' : |(j : ℚ)| ≤ 2 ^ 53 := by exact_mod_cast hj
  have hunit : (0 : ℚ) < 2 ^ f := zpow_pos two_pos f
  calc |(j : ℚ) * 2 ^ f| = |(j : ℚ)| * 2 ^ f := by rw [abs_mul, abs_of_pos hunit]
    _ ≤ 2 ^ 53 * 2 ^ (40 : Int) :=
        mul_le_mul hj' (zpow_le_zpow_right₀ one_le_two hf) hunit.le (by positivity)
    _ = 2 ^ 93 := by norm_num
    _ < greatest := two_pow_lt_greatest (by norm_num)

/-- A fraction of a power of two is a bound. -/
theorem isBound_of_mul {b : ℚ} (j : Int) (k : Nat) (hj : |j| ≤ 2 ^ 53) (hk : k ≤ 1074)
    (h : b * 2 ^ k = j) : IsBound b := by
  refine ⟨j, -k, hj, ?_, by omega, ?_⟩
  · show (-1074 : Int) ≤ -k
    omega
  · rw [zpow_neg, zpow_natCast, ← h, mul_inv_cancel_right₀ (by positivity)]

theorem isBound_intCast {n : Int} (h : |n| ≤ 2 ^ 53) : IsBound n :=
  isBound_of_mul n 0 h (Nat.zero_le _) (by rw [pow_zero, mul_one])

/-- A number lies between two values. -/
structure Within (x : Binary64) (low high : ℚ) : Prop where
  fits : x.Fits
  ge : low ≤ x.value
  le : x.value ≤ high

namespace Within
variable {a b c d low high : ℚ}

theorem mono (h : x.Within a b) (ge : low ≤ a) (le : b ≤ high) : x.Within low high :=
  ⟨h.fits, ge.trans h.ge, h.le.trans le⟩

/-- Rounding stays within bounds. -/
theorem of_rounds (h : Rounds x q) (hlow : IsBound low) (hhigh : IsBound high) (ge : low ≤ q)
    (le : q ≤ high) : x.Within low high :=
  ⟨h.fits, h.ge hlow.isPoint ge, h.le hhigh.isPoint le⟩

theorem abs_lt_greatest (hlow : IsBound low) (hhigh : IsBound high) (ge : low ≤ q)
    (le : q ≤ high) : |q| < greatest := by
  refine abs_lt.mpr ⟨?_, le.trans_lt ((le_abs_self _).trans_lt hhigh.abs_lt)⟩
  have := hlow.abs_lt
  rw [← abs_neg] at this
  linarith [le_abs_self (-low)]

theorem ofFraction {n : Int} {den : Nat} (hden : den ≠ 0) (hlow : IsBound low)
    (hhigh : IsBound high) (ge : low ≤ n / den) (le : (n : ℚ) / den ≤ high) :
    (Binary64.ofFraction n den).Within low high :=
  of_rounds (rounds_ofFraction hden (abs_lt_greatest hlow hhigh ge le)) hlow hhigh ge le

theorem add (hx : x.Within a b) (hy : y.Within c d) (hlow : IsBound low) (hhigh : IsBound high)
    (ge : low ≤ a + c) (le : b + d ≤ high) : (x.add y).Within low high := by
  have ge' : low ≤ x.value + y.value := by linarith [hx.ge, hy.ge]
  have le' : x.value + y.value ≤ high := by linarith [hx.le, hy.le]
  exact of_rounds (rounds_add hx.fits hy.fits (abs_lt_greatest hlow hhigh ge' le')) hlow hhigh ge'
    le'

theorem scale (hx : x.Within a b) {k : Nat} (hlow : IsBound low) (hhigh : IsBound high)
    (ge : low ≤ a * k) (le : b * k ≤ high) : (x.scale k).Within low high := by
  have hk : (0 : ℚ) ≤ k := Nat.cast_nonneg k
  have ge' : low ≤ x.value * k := ge.trans (mul_le_mul_of_nonneg_right hx.ge hk)
  have le' : x.value * k ≤ high := (mul_le_mul_of_nonneg_right hx.le hk).trans le
  exact of_rounds (rounds_scale hx.fits (abs_lt_greatest hlow hhigh ge' le')) hlow hhigh ge' le'

theorem divide (hx : x.Within a b) {k : Nat} (hk : k ≠ 0) (hlow : IsBound low)
    (hhigh : IsBound high) (ge : low ≤ a / k) (le : b / k ≤ high) :
    (x.divide k).Within low high := by
  have hk' : (0 : ℚ) < k := by positivity
  have ge' : low ≤ x.value / k := ge.trans (div_le_div_of_nonneg_right hx.ge hk'.le)
  have le' : x.value / k ≤ high := (div_le_div_of_nonneg_right hx.le hk'.le).trans le
  exact of_rounds (rounds_divide hx.fits hk (abs_lt_greatest hlow hhigh ge' le')) hlow hhigh ge' le'

end Within

/-- An integer of moderate size is a number. -/
theorem within_ofInt {n : Int} (h : |n| ≤ 2 ^ 53) : (ofInt n).Within n n := by
  have hbound := isBound_intCast h
  exact .of_rounds (rounds_ofInt hbound.abs_lt) hbound hbound le_rfl le_rfl

/-! ### Errors -/

/-- A number differs from a value by an error at most. -/
structure Near (x : Binary64) (q error : ℚ) : Prop where
  fits : x.Fits
  near : |x.value - q| ≤ error

namespace Near
variable {p q a b : ℚ} {k : Nat}

theorem mono (h : x.Near q a) (le : a ≤ b) : x.Near q b :=
  ⟨h.fits, h.near.trans le⟩

/-- Rounding adds half a unit of its grid. -/
theorem of_rounds (h : Rounds x p) (hp : |p| ≤ 2 ^ k) (near : |p - q| ≤ a) :
    x.Near q (a + 2 ^ k / 2 ^ 54) where
  fits := h.fits
  near := by
    have hround := h.near (k := k) (by omega) (by rwa [zpow_natCast])
    have hunit : 1 / 2 * (2 : ℚ) ^ ((k : Int) - 53) = 2 ^ k / 2 ^ 54 := by
      rw [zpow_sub₀ two_ne_zero, zpow_natCast]
      norm_num
      ring
    rw [hunit] at hround
    linarith [abs_sub_le x.value p q]

theorem ofFraction {n : Int} {d : Nat} (hd : d ≠ 0) (hk : k < 971) (h : |(n : ℚ) / d| ≤ 2 ^ k) :
    (Binary64.ofFraction n d).Near (n / d) (2 ^ k / 2 ^ 54) := by
  have hnear := of_rounds (rounds_ofFraction hd (h.trans_lt (two_pow_lt_greatest hk))) h
    (q := n / d) (a := 0) (by rw [sub_self, abs_zero])
  rwa [zero_add] at hnear

theorem add (hx : x.Near p a) (hy : y.Near q b) (hk : k < 971) (h : |p + q| + (a + b) ≤ 2 ^ k) :
    (x.add y).Near (p + q) (a + b + 2 ^ k / 2 ^ 54) := by
  have hnear : |x.value + y.value - (p + q)| ≤ a + b := by
    rw [add_sub_add_comm]
    exact (abs_add_le _ _).trans (add_le_add hx.near hy.near)
  have hsize : |x.value + y.value| ≤ 2 ^ k := by
    linarith [abs_sub_abs_le_abs_sub (x.value + y.value) (p + q)]
  exact of_rounds (rounds_add hx.fits hy.fits (hsize.trans_lt (two_pow_lt_greatest hk))) hsize hnear

theorem scale (hx : x.Near p a) {n : Nat} (hk : k < 971) (h : |p * n| + a * n ≤ 2 ^ k) :
    (x.scale n).Near (p * n) (a * n + 2 ^ k / 2 ^ 54) := by
  have hnear : |x.value * n - p * n| ≤ a * n := by
    rw [← sub_mul, abs_mul, Nat.abs_cast]
    exact mul_le_mul_of_nonneg_right hx.near (Nat.cast_nonneg n)
  have hsize : |x.value * n| ≤ 2 ^ k := by
    linarith [abs_sub_abs_le_abs_sub (x.value * n) (p * n)]
  exact of_rounds (rounds_scale hx.fits (hsize.trans_lt (two_pow_lt_greatest hk))) hsize hnear

theorem divide (hx : x.Near p a) {n : Nat} (hn : n ≠ 0) (hk : k < 971)
    (h : |p / n| + a / n ≤ 2 ^ k) : (x.divide n).Near (p / n) (a / n + 2 ^ k / 2 ^ 54) := by
  have hnear : |x.value / n - p / n| ≤ a / n := by
    rw [← sub_div, abs_div, Nat.abs_cast]
    exact div_le_div_of_nonneg_right hx.near (Nat.cast_nonneg n)
  have hsize : |x.value / n| ≤ 2 ^ k := by
    linarith [abs_sub_abs_le_abs_sub (x.value / n) (p / n)]
  exact of_rounds (rounds_divide hx.fits hn (hsize.trans_lt (two_pow_lt_greatest hk))) hsize hnear

/-- A number with the value itself has no error. -/
theorem of_within (h : x.Within q q) : x.Near q 0 :=
  ⟨h.fits, by rw [le_antisymm h.le h.ge, sub_self, abs_zero]⟩

theorem ofInt {n : Int} (h : |n| ≤ 2 ^ 53) : (Binary64.ofInt n).Near n 0 :=
  of_within (within_ofInt h)

end Near

end SheetActions.Binary64
