import Mathlib.Tactic.NormNum.Pow
import SheetActions.Number.Layout
import SheetActions.Proofs.Operations

/-! Rounding to decimals and from decimals.

A number is written with sixteen digits: on a grid of a power of ten, of which it takes so
many units that no number with at most sixteen digits lies nearer (`nearest_significant`). A
decimal is read as a number nearest to it, and the powers of ten that are not formed for it
make no difference (`ofDecimal_spec`). -/
namespace SheetActions

/-- The value of a decimal. -/
def Decimal.value (d : Decimal) : ℚ :=
  d.digits * 10 ^ d.exponent

namespace Binary64

/-! ### From decimals -/

/-- The decimal logarithm, estimated from below by the binary one. -/
theorem ten_pow_le_of_log2 {n : Nat} (h : n ≠ 0) : 10 ^ (n.log2 * 3 / 10) ≤ n := by
  have hpow : (10 ^ (n.log2 * 3 / 10)) ^ 10 ≤ (2 ^ n.log2) ^ 10 := by
    calc (10 ^ (n.log2 * 3 / 10)) ^ 10 = 10 ^ (n.log2 * 3 / 10 * 10) := (pow_mul ..).symm
      _ ≤ 10 ^ (3 * n.log2) := Nat.pow_le_pow_right (by norm_num) (by omega)
      _ = 1000 ^ n.log2 := by
          rw [pow_mul]
          norm_num
      _ ≤ 1024 ^ n.log2 := Nat.pow_le_pow_left (by norm_num) _
      _ = (2 ^ n.log2) ^ 10 := by
          rw [← pow_mul, mul_comm, pow_mul]
          norm_num
  exact (le_of_pow_le_pow_left₀ (by norm_num) (Nat.zero_le _) hpow).trans (Nat.log2_self_le h)

/-- The decimal logarithm, estimated from above by the binary one. -/
theorem lt_ten_pow_of_log2 (n : Nat) : n < 10 ^ (n.log2 / 3 + 1) := by
  calc n < 2 ^ (n.log2 + 1) := Nat.lt_log2_self
    _ ≤ 2 ^ (3 * (n.log2 / 3 + 1)) := Nat.pow_le_pow_right (by norm_num) (by omega)
    _ = 8 ^ (n.log2 / 3 + 1) := by
        rw [pow_mul]
        norm_num
    _ ≤ 10 ^ (n.log2 / 3 + 1) := Nat.pow_le_pow_left (by norm_num) _

theorem two_mul_ten_pow_le : 2 * (10 : ℚ) ^ (-400 : Int) ≤ 2 ^ (-1074 : Int) := by
  have hpow : ((2 : ℚ) ^ 43) ^ 25 ≤ (10 ^ 16) ^ 25 :=
    pow_le_pow_left₀ (by positivity) (by norm_num) 25
  rw [← pow_mul, ← pow_mul] at hpow
  rw [zpow_neg, zpow_neg, ← div_eq_mul_inv, div_le_iff₀ (by positivity), inv_mul_eq_div,
    le_div_iff₀ (by positivity), zpow_ofNat, zpow_ofNat, ← pow_succ']
  exact hpow

theorem two_pow_le_ten_pow : (2 : ℚ) ^ 53 * 2 ^ greatestExponent ≤ 10 ^ (401 : Int) := by
  have hpow : ((2 : ℚ) ^ 93) ^ 12 ≤ (10 ^ 33) ^ 12 :=
    pow_le_pow_left₀ (by positivity) (by norm_num) 12
  rw [← pow_mul, ← pow_mul] at hpow
  rw [zpow_ofNat]
  calc (2 : ℚ) ^ 53 * 2 ^ 971 = 2 ^ 1024 := (pow_add ..).symm
    _ ≤ 2 ^ (93 * 12) := pow_le_pow_right₀ (by norm_num) (by norm_num)
    _ ≤ 10 ^ (33 * 12) := hpow
    _ ≤ 10 ^ 401 := pow_le_pow_right₀ (by norm_num) (by norm_num)

theorem greatest_le_ten_pow : greatest ≤ 10 ^ (401 : Int) :=
  (mul_le_mul_of_nonneg_right (by norm_num) (zpow_pos two_pos _).le).trans two_pow_le_ten_pow

/-- A value of less than half the least unit is rounded to zero. -/
theorem rounds_zero_of_small (negative : Bool) {q : ℚ} (hq : 0 ≤ q) (h : q ≤ 10 ^ (-400 : Int)) :
    Rounds (.finite negative 0 leastExponent) (signed negative q) where
  fits := ⟨by norm_num, Int.le_refl _, by decide, .inl rfl⟩
  nearest := fun p hp => by
    have hvalue : (Binary64.finite negative 0 leastExponent).value = signed negative 0 := by
      simp [value]
    rw [hvalue, abs_signed_sub, zero_sub, abs_neg, abs_of_nonneg hq]
    obtain ⟨j, f, _, hf, rfl⟩ := hp
    by_cases hj : j = 0
    · rw [hj, Int.cast_zero, zero_mul, zero_sub, abs_neg, abs_signed, abs_of_nonneg hq]
    · have hunit : (2 : ℚ) ^ (-1074 : Int) ≤ |(j : ℚ) * 2 ^ f| := by
        have hone : (1 : ℚ) ≤ |(j : ℚ)| := by exact_mod_cast Int.one_le_abs hj
        have hf' : (0 : ℚ) < 2 ^ f := zpow_pos two_pos f
        rw [abs_mul, abs_of_pos hf']
        calc (2 : ℚ) ^ (-1074 : Int) ≤ 2 ^ f := zpow_le_zpow_right₀ one_le_two hf
          _ ≤ |(j : ℚ)| * 2 ^ f := le_mul_of_one_le_left hf'.le hone
      have htiny := two_mul_ten_pow_le
      have habs := abs_sub_abs_le_abs_sub (j * 2 ^ f : ℚ) (signed negative q)
      rw [abs_signed, abs_of_nonneg hq] at habs
      linarith

/-- A decimal is a fraction that is rounded, or so large or so small that its powers of ten need
not be formed. -/
theorem ofDecimal_cases (negative : Bool) (digits : Nat) (exponent : Int) :
    (∃ num den : Nat, den ≠ 0 ∧ (digits : ℚ) * 10 ^ exponent = num / den ∧
        ofDecimal negative digits exponent = ofRatio negative num den) ∨
      (10 : ℚ) ^ (401 : Int) ≤ digits * 10 ^ exponent ∧
        ofDecimal negative digits exponent = .infinity negative ∨
      (digits : ℚ) * 10 ^ exponent ≤ 10 ^ (-400 : Int) ∧
        ofDecimal negative digits exponent = .finite negative 0 leastExponent := by
  have hten : (0 : ℚ) < 10 ^ exponent := zpow_pos (by norm_num) _
  unfold ofDecimal
  simp only
  split
  · rename_i hzero
    refine .inr (.inr ⟨?_, rfl⟩)
    rw [hzero, Nat.cast_zero, zero_mul]
    positivity
  rename_i hpos
  split
  · rename_i hlarge
    refine .inr (.inl ⟨?_, rfl⟩)
    have hdigits : (10 : ℚ) ^ (digits.log2 * 3 / 10) ≤ digits := by
      exact_mod_cast ten_pow_le_of_log2 hpos
    calc (10 : ℚ) ^ (401 : Int) ≤ 10 ^ (((digits.log2 * 3 / 10 : Nat) : Int) + exponent) :=
          zpow_le_zpow_right₀ (by norm_num) (by push_cast; omega)
      _ = 10 ^ (digits.log2 * 3 / 10) * 10 ^ exponent := by
          rw [zpow_add₀ (by norm_num), zpow_natCast]
      _ ≤ digits * 10 ^ exponent := mul_le_mul_of_nonneg_right hdigits hten.le
  split
  · rename_i hsmall
    refine .inr (.inr ⟨?_, rfl⟩)
    have hdigits : (digits : ℚ) ≤ 10 ^ (digits.log2 / 3 + 1) := by
      exact_mod_cast (lt_ten_pow_of_log2 digits).le
    calc (digits : ℚ) * 10 ^ exponent ≤ 10 ^ (digits.log2 / 3 + 1) * 10 ^ exponent :=
          mul_le_mul_of_nonneg_right hdigits hten.le
      _ = 10 ^ (((digits.log2 / 3 + 1 : Nat) : Int) + exponent) := by
          rw [zpow_add₀ (by norm_num), zpow_natCast]
      _ ≤ 10 ^ (-400 : Int) := zpow_le_zpow_right₀ (by norm_num) (by push_cast; omega)
  · refine .inl ⟨digits * 10 ^ exponent.toNat, 10 ^ (-exponent).toNat, by positivity, ?_, rfl⟩
    rw [zpow_eq_div_toNat]
    push_cast
    ring

/-- A decimal is read as a number nearest to it, unless it is too large. -/
theorem ofDecimal_spec (negative : Bool) (digits : Nat) (exponent : Int) :
    (ofDecimal negative digits exponent).Rounds (signed negative (digits * 10 ^ exponent)) ∨
      ofDecimal negative digits exponent = .infinity negative ∧
        greatest ≤ digits * 10 ^ exponent := by
  rcases ofDecimal_cases negative digits exponent with
    ⟨num, den, hden, hvalue, hread⟩ | ⟨hlarge, hread⟩ | ⟨hsmall, hread⟩
  · rw [hread, hvalue]
    exact ofRatio_spec negative num hden
  · exact .inr ⟨hread, greatest_le_ten_pow.trans hlarge⟩
  · rw [hread]
    exact .inl (rounds_zero_of_small negative (by positivity) hsmall)

/-! ### To decimals -/

/-- The number of digits tells a number but for a factor of ten. -/
theorem ten_pow_length {n : Nat} (hn : n ≠ 0) :
    (10 : ℚ) ^ ((Nat.toDigits 10 n).length - 1 : Int) ≤ n ∧
      (n : ℚ) < 10 ^ ((Nat.toDigits 10 n).length : Int) := by
  have hpos : 0 < (Nat.toDigits 10 n).length := Nat.length_toDigits_pos
  have hupper := (Nat.length_toDigits_le_iff (b := 10) (n := n) (by norm_num) hpos).mp le_rfl
  refine ⟨?_, by rw [zpow_natCast]; exact_mod_cast hupper⟩
  obtain ⟨k, hk⟩ : ∃ k, (Nat.toDigits 10 n).length = k + 1 := ⟨_, (Nat.sub_add_cancel hpos).symm⟩
  have hlower : 10 ^ k ≤ n := by
    rcases Nat.eq_zero_or_pos k with rfl | hmore
    · rw [pow_zero]
      omega
    · by_contra hlt
      have := (Nat.length_toDigits_le_iff (b := 10) (by norm_num) hmore).mpr (Nat.lt_of_not_le hlt)
      omega
  rw [hk, Nat.cast_succ, add_sub_cancel_right, zpow_natCast]
  exact_mod_cast hlower

/-- The scale of a fraction is the least power of ten above it. -/
theorem decimalScale_spec {num den : Nat} (hnum : num ≠ 0) (hden : den ≠ 0) :
    (10 : ℚ) ^ (decimalScale num den - 1) ≤ num / den ∧
      (num : ℚ) / den < 10 ^ decimalScale num den := by
  obtain ⟨hnlow, hnhigh⟩ := ten_pow_length hnum
  obtain ⟨hdlow, hdhigh⟩ := ten_pow_length hden
  have hscale : decimalScale num den =
      if num * 10 ^ (-((Nat.toDigits 10 num).length - (Nat.toDigits 10 den).length : Int)).toNat <
          den * 10 ^ ((Nat.toDigits 10 num).length - (Nat.toDigits 10 den).length : Int).toNat then
        ((Nat.toDigits 10 num).length - (Nat.toDigits 10 den).length : Int)
      else (Nat.toDigits 10 num).length - (Nat.toDigits 10 den).length + 1 := rfl
  generalize ((Nat.toDigits 10 num).length : Int) = a at hnlow hnhigh hscale
  generalize ((Nat.toDigits 10 den).length : Int) = b at hdlow hdhigh hscale
  have hten : ∀ e : Int, (0 : ℚ) < 10 ^ e := fun e => zpow_pos (by norm_num) e
  have hden' : (0 : ℚ) < den := by positivity
  have hlower : (10 : ℚ) ^ (a - b - 1) ≤ num / den := by
    rw [show a - b - 1 = a - 1 - b by ring, zpow_sub₀ (by norm_num)]
    exact div_le_div₀ (by positivity) hnlow hden' hdhigh.le
  have hupper : (num : ℚ) / den < 10 ^ (a - b + 1) := by
    rw [show a - b + 1 = a - (b - 1) by ring, zpow_sub₀ (by norm_num)]
    exact div_lt_div₀ hnhigh hdlow (hten a).le (hten (b - 1))
  have hcompare : num * 10 ^ (-(a - b)).toNat < den * 10 ^ (a - b).toNat ↔
      (num : ℚ) / den < 10 ^ (a - b) := by
    have hgrid := div_grid (b := 10) (by norm_num) num den (a - b)
    have hpos : (0 : ℚ) < (den * 10 ^ (a - b).toNat : Nat) := by positivity
    rw [Nat.cast_ofNat] at hgrid
    rw [← div_lt_one (hten _), ← hgrid, div_lt_one hpos]
    exact_mod_cast Iff.rfl
  rw [hscale]
  split
  · rename_i hless
    exact ⟨hlower, hcompare.mp hless⟩
  · rename_i hmore
    rw [hcompare, not_lt] at hmore
    exact ⟨by simpa using hmore, hupper⟩

end Binary64

/-- A rounded quotient is even where two integers are equally near. -/
theorem roundQuotient_mod_two {num den : Nat} (h : 0 < den)
    (heq : |(roundQuotient num den : ℚ) - num / den| = 1 / 2) : roundQuotient num den % 2 = 0 := by
  have hden : (0 : ℚ) < den := by exact_mod_cast h
  have hnum : (num : ℚ) / den = (num / den : Nat) + (num % den : Nat) / (den : ℚ) := by
    rw [div_eq_iff hden.ne', add_mul, div_mul_cancel₀ _ hden.ne', mul_comm]
    exact_mod_cast (Nat.div_add_mod num den).symm
  simp only [roundQuotient] at heq ⊢
  split at heq
  · rename_i hless
    rw [Nat.compare_eq_lt] at hless
    have hrest : ((num % den : Nat) : ℚ) / den < 1 / 2 := by
      rw [div_lt_div_iff₀ hden two_pos]
      exact_mod_cast (by omega : num % den * 2 < 1 * den)
    rw [hnum, sub_add_cancel_left, abs_neg, abs_of_nonneg (by positivity)] at heq
    exact absurd heq hrest.ne
  · rename_i hmore
    rw [Nat.compare_eq_gt] at hmore
    have hrest : 1 / 2 < ((num % den : Nat) : ℚ) / den := by
      rw [div_lt_div_iff₀ two_pos hden]
      exact_mod_cast (by omega : 1 * den < num % den * 2)
    have hone : ((num % den : Nat) : ℚ) / den < 1 := by
      rw [div_lt_one hden]
      exact_mod_cast Nat.mod_lt num h
    rw [hnum, Nat.cast_succ, add_sub_add_left_eq_sub, abs_of_pos (by linarith)] at heq
    linarith
  · split
    · assumption
    · omega

namespace Decimal

/-- A decimal is a value rounded to sixteen digits. -/
structure Shortens (d : Decimal) (q : ℚ) : Prop where
  least : 10 ^ 15 * 10 ^ d.exponent ≤ q
  room : q < 10 ^ 16 * 10 ^ d.exponent
  near : |(d.digits : ℚ) - q / 10 ^ d.exponent| ≤ 1 / 2
  even : |(d.digits : ℚ) - q / 10 ^ d.exponent| = 1 / 2 → d.digits % 2 = 0

/-- A value that can be written with sixteen digits. -/
def IsShort (x : ℚ) : Prop :=
  ∃ j f : Int, |j| ≤ 10 ^ 16 ∧ x = j * 10 ^ f

theorem IsShort.neg {x : ℚ} (h : IsShort x) : IsShort (-x) := by
  obtain ⟨j, f, hj, rfl⟩ := h
  exact ⟨-j, f, by rwa [abs_neg], by push_cast; ring⟩

/-- No value of sixteen digits is nearer to `q` than `t`. -/
structure Nearest (t q : ℚ) : Prop where
  isShort : IsShort t
  nearest : ∀ p, IsShort p → |t - q| ≤ |p - q|

namespace Nearest
variable {p q t : ℚ}

theorem zero : Nearest 0 0 where
  isShort := ⟨0, 0, by norm_num, by norm_num⟩
  nearest := fun p _ => by
    rw [sub_self, abs_zero]
    exact abs_nonneg _

theorem neg (h : Nearest t q) : Nearest (-t) (-q) where
  isShort := h.isShort.neg
  nearest := fun p hp => by
    have hleft : -t - -q = -(t - q) := by ring
    have hright : p - -q = -(-p - q) := by ring
    rw [hleft, hright, abs_neg, abs_neg]
    exact h.nearest (-p) hp.neg

/-- Rounding does not go beyond a short value above. -/
theorem le (h : Nearest t q) (hp : IsShort p) (hle : q ≤ p) : t ≤ p := by
  have hnear := (abs_le.mp (h.nearest p hp)).2
  rw [abs_of_nonneg (by linarith)] at hnear
  linarith

/-- Rounding does not go beyond a short value below. -/
theorem ge (h : Nearest t q) (hp : IsShort p) (hle : p ≤ q) : p ≤ t := by
  have hnear := (abs_le.mp (h.nearest p hp)).1
  rw [abs_of_nonpos (by linarith)] at hnear
  linarith

/-- A value below a power of ten is off by half a unit of its grid at most. -/
theorem near {k : Int} (h : Nearest t q) (hq : |q| ≤ 10 ^ k) :
    |t - q| ≤ 1 / 2 * 10 ^ (k - 16) := by
  have hunit : (0 : ℚ) < 10 ^ (k - 16) := zpow_pos (by norm_num) _
  refine (h.nearest _ ⟨_, k - 16, ?_, rfl⟩).trans (abs_round_mul_sub hunit q)
  refine abs_round_le ?_
  have hroom : ((10 ^ 16 : Int) : ℚ) * 10 ^ (k - 16) = 10 ^ k := by
    rw [Int.cast_pow, Int.cast_ofNat, ← zpow_natCast, ← zpow_add₀ (by norm_num)]
    exact congrArg _ (by omega)
  rwa [abs_div, abs_of_pos hunit, div_le_iff₀ hunit, hroom]

end Nearest

namespace Shortens
variable {d : Decimal} {q : ℚ} (h : d.Shortens q)
include h

theorem digits_bounds : 10 ^ 15 ≤ d.digits ∧ d.digits ≤ 10 ^ 16 := by
  have hunit : (0 : ℚ) < 10 ^ d.exponent := zpow_pos (by norm_num) _
  have hleast := h.least
  have hroom := h.room
  rw [← le_div_iff₀ hunit] at hleast
  rw [← div_lt_iff₀ hunit] at hroom
  obtain ⟨hlow, hhigh⟩ := abs_le.mp h.near
  constructor
  · have : ((10 ^ 15 : Nat) : ℚ) < (d.digits + 1 : Nat) := by
      push_cast
      linarith
    exact Nat.lt_succ_iff.mp (Nat.cast_lt.mp this)
  · have : (d.digits : ℚ) < (10 ^ 16 + 1 : Nat) := by
      push_cast
      linarith
    exact Nat.lt_succ_iff.mp (Nat.cast_lt.mp this)

theorem digits_ne_zero : d.digits ≠ 0 := by
  have := h.digits_bounds.1
  omega

theorem abs_sub_value_le : |q - d.value| ≤ 1 / 2 * 10 ^ d.exponent := by
  have hunit : (0 : ℚ) < 10 ^ d.exponent := zpow_pos (by norm_num) _
  rw [abs_sub_comm, value, abs_mul_sub hunit]
  exact mul_le_mul_of_nonneg_right h.near hunit.le

/-- So it is nearer than zero. -/
theorem abs_sub_value_lt : |q - d.value| < d.value := by
  have hunit : (0 : ℚ) < 10 ^ d.exponent := zpow_pos (by norm_num) _
  have hlow : (10 : ℚ) ^ 15 * 10 ^ d.exponent ≤ d.value :=
    mul_le_mul_of_nonneg_right (by exact_mod_cast h.digits_bounds.1) hunit.le
  linarith [h.abs_sub_value_le]

theorem nearest : Nearest d.value q where
  isShort := ⟨d.digits, d.exponent, by rw [Nat.abs_cast]; exact_mod_cast h.digits_bounds.2, rfl⟩
  nearest := fun p hp => by
    obtain ⟨j, f, hj, rfl⟩ := hp
    refine nearest_of_grid 10 (10 ^ 15) (by norm_num) ?_ ?_ (.inr ?_)
    · exact_mod_cast h.near
    · exact hj.trans (by norm_num)
    · exact_mod_cast h.least

end Shortens

end Decimal

/-- A positive number is written with sixteen digits. -/
theorem Binary64.shortens_significant {m : Nat} (hm : m ≠ 0) (e : Int) :
    (significant 16 m e).Shortens (m * 2 ^ e) := by
  have hvalue : (m : ℚ) * 2 ^ e = (m * 2 ^ e.toNat : Nat) / (2 ^ (-e).toNat : Nat) := by
    rw [zpow_eq_div_toNat]
    push_cast
    ring
  have hnum : m * 2 ^ e.toNat ≠ 0 := by positivity
  have hden : 2 ^ (-e).toNat ≠ 0 := by positivity
  obtain ⟨hlower, hupper⟩ := decimalScale_spec hnum hden
  have hexponent : (significant 16 m e).exponent =
      decimalScale (m * 2 ^ e.toNat) (2 ^ (-e).toNat) - 16 := rfl
  have hdigits : (significant 16 m e).digits =
      roundQuotient (m * 2 ^ e.toNat * 10 ^ (-(significant 16 m e).exponent).toNat)
        (2 ^ (-e).toNat * 10 ^ (significant 16 m e).exponent.toNat) := rfl
  have hpos : 0 < 2 ^ (-e).toNat * 10 ^ (significant 16 m e).exponent.toNat := by positivity
  have hgrid := div_grid (b := 10) (by norm_num) (m * 2 ^ e.toNat) (2 ^ (-e).toNat)
    (significant 16 m e).exponent
  rw [← hvalue, Nat.cast_ofNat] at hgrid
  rw [← hvalue] at hlower hupper
  refine ⟨?_, ?_, ?_, ?_⟩
  · rw [hexponent, ← zpow_natCast, ← zpow_add₀ (by norm_num)]
    convert hlower using 2
    push_cast
    ring
  · rw [hexponent, ← zpow_natCast, ← zpow_add₀ (by norm_num)]
    convert hupper using 2
    push_cast
    ring
  · rw [← hgrid, hdigits]
    exact abs_roundQuotient_sub _ hpos
  · rw [← hgrid, hdigits]
    exact roundQuotient_mod_two hpos

end SheetActions
