import SheetActions.Proofs.ResavedNumbers

/-! Overflow.

A value is rounded to a finite number if and only if it is less than half a unit above the greatest
one (`isFinite_ofDecimal`). Half a unit above it the tie goes up, because the greatest number has an
odd mantissa. A file keeps sixteen digits of a number, and these can be past that bound when the
number is not: there is a bound for the numbers as well from which on what a file keeps of them is
read as an infinity (`isFinite_kept`). -/
namespace SheetActions

namespace Binary64

/-- Half a unit above the greatest number. -/
def overflow : ℚ := (2 ^ 53 - 1 / 2) * 2 ^ greatestExponent

theorem overflow_pos : 0 < overflow := by
  have hunit : (0 : ℚ) < 2 ^ greatestExponent := zpow_pos two_pos _
  exact mul_pos (by norm_num) hunit

theorem greatest_lt_overflow : greatest < overflow :=
  mul_lt_mul_of_pos_right (by norm_num) (zpow_pos two_pos _)

theorem overflow_le_ten_pow : overflow ≤ 10 ^ (401 : Int) :=
  (mul_le_mul_of_nonneg_right (by norm_num) (zpow_pos two_pos _).le).trans two_pow_le_ten_pow

/-! ### Rounding to an infinity -/

/-- Where two numbers of units are equally near, rounding takes the even one. -/
theorem units_mod_two (num : Nat) {den : Nat} (hden : den ≠ 0) (e : Int)
    (heq : |(units num den e : ℚ) - num / den / 2 ^ e| = 1 / 2) : units num den e % 2 = 0 := by
  have hpos : 0 < den * 2 ^ e.toNat := by positivity
  have hgrid := div_grid two_pos num den e
  refine roundQuotient_mod_two hpos ?_
  show |(units num den e : ℚ) - (num * 2 ^ (-e).toNat : Nat) / (den * 2 ^ e.toNat : Nat)| = _
  rw [hgrid]
  exact_mod_cast heq

section Fraction
variable {num den : Nat} (hnum : num ≠ 0) (hden : den ≠ 0)
include hnum hden

/-- At the greatest exponent rounding carries over exactly for the values from half a unit above
the greatest number on. -/
theorem carries_iff (hexponent : exponentOf num den = greatestExponent) :
    units num den greatestExponent = 2 ^ 53 ↔ overflow ≤ (num : ℚ) / den := by
  have hunit : (0 : ℚ) < 2 ^ greatestExponent := zpow_pos two_pos _
  have hle := units_exponentOf_le hnum hden
  have hnear := abs_units_sub num hden greatestExponent
  rw [hexponent] at hle
  rw [overflow, ← le_div_iff₀ hunit]
  constructor
  · intro hcarry
    rw [hcarry] at hnear
    push_cast at hnear
    linarith [(abs_le.mp hnear).2]
  · intro hlarge
    by_contra hne
    -- one unit less is odd, and only a tie leads there
    have hunits : units num den greatestExponent = 2 ^ 53 - 1 := by
      have hlt : ((2 ^ 53 - 1 : Nat) : ℚ) < (units num den greatestExponent + 1 : Nat) := by
        push_cast
        linarith [(abs_le.mp hnear).1]
      have := Nat.lt_succ_iff.mp (Nat.cast_lt.mp hlt)
      omega
    have htie : |(units num den greatestExponent : ℚ) - num / den / 2 ^ greatestExponent| =
        1 / 2 := by
      refine le_antisymm hnear ?_
      rw [hunits, abs_sub_comm]
      refine le_trans ?_ (le_abs_self _)
      push_cast
      linarith
    have heven := units_mod_two num hden _ htie
    rw [hunits] at heven
    cases heven

theorem overflow_le_of_exponent (h : greatestExponent < exponentOf num den) :
    overflow ≤ (num : ℚ) / den := by
  obtain ⟨_, _, hfull⟩ := exponentOf_spec hden hnum
  have hstart : exponentOf num den ≠ leastExponent := by
    have : leastExponent < greatestExponent := by decide
    omega
  have hunit : (0 : ℚ) < 2 ^ greatestExponent := zpow_pos two_pos _
  calc overflow ≤ 2 ^ 53 * 2 ^ greatestExponent :=
        mul_le_mul_of_nonneg_right (by norm_num) hunit.le
    _ = 2 ^ 52 * 2 ^ (greatestExponent + 1) := by
        rw [zpow_add_one₀ two_ne_zero]
        ring
    _ ≤ 2 ^ 52 * 2 ^ exponentOf num den :=
        mul_le_mul_of_nonneg_left (zpow_le_zpow_right₀ one_le_two h) (by positivity)
    _ ≤ num / den := hfull.resolve_left hstart

theorem lt_overflow_of_exponent (h : exponentOf num den < greatestExponent) :
    (num : ℚ) / den < overflow := by
  obtain ⟨_, hroom, _⟩ := exponentOf_spec hden hnum
  have hunit : (0 : ℚ) < 2 ^ greatestExponent := zpow_pos two_pos _
  have hhalf : (2 : ℚ) ^ exponentOf num den * 2 ≤ 2 ^ greatestExponent := by
    rw [← zpow_add_one₀ two_ne_zero]
    exact zpow_le_zpow_right₀ one_le_two h
  rw [overflow]
  linarith

end Fraction

/-- A fraction is rounded to a finite number if and only if it is less than half a unit above the
greatest one. -/
theorem isFinite_ofRatio (negative : Bool) (num : Nat) {den : Nat} (hden : den ≠ 0) :
    (ofRatio negative num den).isFinite = true ↔ (num : ℚ) / den < overflow := by
  by_cases hnum : num = 0
  · subst hnum
    rw [Nat.cast_zero, zero_div]
    exact iff_of_true rfl overflow_pos
  rw [ofRatio_eq negative den hnum]
  rcases lt_trichotomy (exponentOf num den) greatestExponent with hless | heq | hmore
  · refine iff_of_true ?_ (lt_overflow_of_exponent hnum hden hless)
    rw [if_neg (not_lt.mpr (Int.add_one_le_iff.mpr hless)), if_neg hless.asymm]
    split <;> rfl
  · rw [← not_le, ← carries_iff hnum hden heq, heq]
    by_cases hcarry : units num den greatestExponent = 2 ^ 53
    · rw [if_pos hcarry, if_pos (Int.lt_succ _)]
      exact iff_of_false nofun fun hno => hno hcarry
    · rw [if_neg hcarry, if_neg (lt_irrefl _)]
      exact iff_of_true rfl hcarry
  · refine iff_of_false ?_ (not_lt.mpr (overflow_le_of_exponent hnum hden hmore))
    rw [if_pos hmore, if_pos (hmore.trans (Int.lt_succ _))]
    split <;> nofun

theorem isFinite_ofDecimal (negative : Bool) (digits : Nat) (exponent : Int) :
    (ofDecimal negative digits exponent).isFinite = true ↔
      (digits : ℚ) * 10 ^ exponent < overflow := by
  rcases ofDecimal_cases negative digits exponent with
    ⟨num, den, hden, hvalue, hread⟩ | ⟨hlarge, hread⟩ | ⟨hsmall, hread⟩
  · rw [hread, hvalue]
    exact isFinite_ofRatio negative num hden
  · rw [hread]
    exact iff_of_false nofun (not_lt.mpr (overflow_le_ten_pow.trans hlarge))
  · rw [hread]
    refine iff_of_true rfl (hsmall.trans_lt ?_)
    calc (10 : ℚ) ^ (-400 : Int) ≤ 10 ^ (16 : Int) :=
          zpow_le_zpow_right₀ (by norm_num) (by norm_num)
      _ < greatest := Decimal.ten_pow_lt_greatest
      _ < overflow := greatest_lt_overflow

end Binary64

/-! ### What a file keeps of the greatest numbers -/

/-- No value of sixteen digits lies between two that differ by one in the last digit. -/
theorem Decimal.IsShort.le_or_ge {t : ℚ} (h : IsShort t) {n : Nat} (hn : 10 ^ 15 ≤ n) (k : Int) :
    t ≤ n * 10 ^ k ∨ (n + 1) * 10 ^ k ≤ t := by
  obtain ⟨j, f, hj, rfl⟩ := h
  have hunit : (0 : ℚ) < 10 ^ k := zpow_pos (by norm_num) _
  by_cases hf : k ≤ f
  · obtain ⟨i, hi⟩ := Int.le.dest hf
    have hpoint : (j : ℚ) * 10 ^ f = (j * 10 ^ i : Int) * 10 ^ k := by
      rw [← hi, zpow_add₀ (by norm_num), zpow_natCast]
      push_cast
      ring
    rw [hpoint, mul_le_mul_iff_left₀ hunit, mul_le_mul_iff_left₀ hunit]
    rcases lt_or_ge (n : Int) (j * 10 ^ i) with hlt | hge
    · exact .inr (by exact_mod_cast hlt)
    · exact .inl (by exact_mod_cast hge)
  · -- with a finer last digit there are not enough digits
    have hfine : (10 : ℚ) ^ f ≤ 10 ^ (k - 1) := zpow_le_zpow_right₀ (by norm_num) (by omega)
    have hj' : (j : ℚ) ≤ 10 ^ 16 := by exact_mod_cast (le_abs_self j).trans hj
    have hn' : (10 : ℚ) ^ 15 ≤ n := by exact_mod_cast hn
    left
    calc (j : ℚ) * 10 ^ f ≤ 10 ^ 16 * 10 ^ f :=
          mul_le_mul_of_nonneg_right hj' (zpow_pos (by norm_num) f).le
      _ ≤ 10 ^ 16 * 10 ^ (k - 1) := mul_le_mul_of_nonneg_left hfine (by positivity)
      _ = 10 ^ 15 * 10 ^ k := by
          rw [zpow_sub_one₀ (by norm_num)]
          ring
      _ ≤ n * 10 ^ k := mul_le_mul_of_nonneg_right hn' hunit.le

namespace Binary64

/-- The sixteen digits of the greatest value of so many that is read as a finite number. -/
def keptDigits : Nat := 1797693134862315

/-- Half a unit of its last digit above that value. -/
def keptOverflow : ℚ := (keptDigits + 1 / 2) * 10 ^ (293 : Int)

theorem ten_zpow : (10 : ℚ) ^ (293 : Int) = (10 ^ 293 : Nat) := by
  rw [zpow_ofNat, Nat.cast_pow, Nat.cast_ofNat]

theorem two_zpow : (2 : ℚ) ^ greatestExponent = (2 ^ 971 : Nat) := by
  rw [greatestExponent, zpow_ofNat, Nat.cast_pow, Nat.cast_ofNat]

theorem overflow_bounds : keptDigits * (10 : ℚ) ^ (293 : Int) < overflow ∧
    overflow < (keptDigits + 1) * (10 : ℚ) ^ (293 : Int) := by
  have hlow : 2 * (keptDigits * 10 ^ 293) + 2 ^ 971 < 2 ^ 54 * 2 ^ 971 := by decide +kernel
  have hhigh : 2 ^ 54 * 2 ^ 971 < 2 * ((keptDigits + 1) * 10 ^ 293) + 2 ^ 971 := by decide +kernel
  rw [overflow, ten_zpow, two_zpow]
  -- the powers are too large to be computed with
  generalize 10 ^ 293 = ten at *
  generalize 2 ^ 971 = two at *
  rw [← Nat.cast_lt (α := ℚ)] at hlow hhigh
  push_cast at hlow hhigh
  constructor
  · linarith
  · linarith

/-- The value half way between the two is no number. -/
theorem Fits.ne_keptOverflow {negative : Bool} {m : Nat} {e : Int}
    (h : (Binary64.finite negative m e).Fits) : (m : ℚ) * 2 ^ e ≠ keptOverflow := by
  obtain ⟨hm, _, he, _⟩ := h
  intro heq
  rcases he.lt_or_eq with hless | rfl
  · have hm' : (m : ℚ) ≤ 2 ^ 53 - 1 := by
      rw [le_sub_iff_add_le]
      exact_mod_cast hm
    have hhalf : 2 * (m * 2 ^ e) ≤ greatest := by
      calc (2 : ℚ) * (m * 2 ^ e) = m * 2 ^ (e + 1) := by
            rw [zpow_add_one₀ two_ne_zero]
            ring
        _ ≤ (2 ^ 53 - 1) * 2 ^ greatestExponent :=
            mul_le_mul hm' (zpow_le_zpow_right₀ one_le_two hless) (zpow_pos two_pos _).le
              (by norm_num)
    have hnonneg : (0 : ℚ) ≤ keptDigits * 10 ^ (293 : Int) := by positivity
    have hover := overflow_bounds.2
    have hgreatest := greatest_lt_overflow
    rw [heq, keptOverflow] at hhalf
    generalize (10 : ℚ) ^ (293 : Int) = unit at *
    linarith
  · have hdouble : 2 * m * 2 ^ 971 = (2 * keptDigits + 1) * 10 ^ 293 := by
      rw [keptOverflow, ten_zpow, two_zpow] at heq
      generalize 10 ^ 293 = ten at *
      generalize 2 ^ 971 = two at *
      rw [← Nat.cast_inj (R := ℚ)]
      push_cast
      linarith
    have hrest : (2 * keptDigits + 1) * 10 ^ 293 % 2 ^ 971 = 0 := by
      rw [← hdouble]
      exact Nat.mul_mod_left ..
    exact absurd hrest (by decide +kernel)

/-- The digits that are nearest to a value are read as a finite number if and only if it is below
the bound for values. -/
theorem lt_overflow_iff_of_nearest {t q : ℚ} (h : Decimal.Nearest t q) (hq : q ≠ keptOverflow) :
    t < overflow ↔ q < keptOverflow := by
  obtain ⟨hlow, hhigh⟩ := overflow_bounds
  have hsides := h.isShort.le_or_ge (n := keptDigits) (by decide) 293
  have hlower := h.nearest _ ⟨keptDigits, 293, by decide, rfl⟩
  have hupper := h.nearest _ ⟨(keptDigits + 1 : Nat), 293, by decide, rfl⟩
  rw [keptOverflow] at hq ⊢
  rw [Int.cast_natCast] at hlower hupper
  rw [Nat.cast_succ] at hupper
  rw [add_mul, one_mul] at hhigh hsides hupper
  rw [add_mul] at hq ⊢
  have hunit : (0 : ℚ) < 10 ^ (293 : Int) := zpow_pos (by norm_num) _
  generalize (keptDigits : ℚ) * 10 ^ (293 : Int) = p at *
  generalize (10 : ℚ) ^ (293 : Int) = unit at *
  constructor
  · intro ht
    have hp : t ≤ p := hsides.resolve_right (by linarith)
    by_contra hge
    have hmore : p + 1 / 2 * unit < q := lt_of_le_of_ne (not_lt.mp hge) hq.symm
    rw [abs_of_nonpos (by linarith)] at hupper
    rcases abs_cases (p + unit - q) with habs | habs
    · linarith
    · linarith
  · intro ht
    by_contra hge
    have hp : p + unit ≤ t := hsides.resolve_left (by linarith)
    rw [abs_of_nonneg (by linarith)] at hlower
    rcases abs_cases (p - q) with habs | habs
    · linarith
    · linarith

end Binary64

/-- Whether a number is finite; integers are. -/
def Number.isFinite : Number → Bool
  | .integer _ => true
  | .float x => x.isFinite

/-- The text of a decimal is read as a finite number if and only if its value is below the bound. -/
theorem Decimal.isFinite_number (negative : Bool) (d : Decimal) :
    (d.number negative).isFinite = true ↔ d.value < Binary64.overflow := by
  rw [number]
  simp only
  split
  · rename_i hplain
    refine iff_of_true rfl ?_
    have hsmall : ((d.digits * 10 ^ d.exponent.toNat : Nat) : ℚ) < 10 ^ 16 := by
      exact_mod_cast mul_ten_pow_lt hplain.2 hplain.1.2
    rw [value_of_nonneg hplain.2]
    exact hsmall.trans (ten_pow_lt_greatest.trans Binary64.greatest_lt_overflow)
  · exact Binary64.isFinite_ofDecimal ..

/-- **Overflow in a file.** What a file keeps of a number is finite if and only if the number is
below the bound for what is kept. -/
theorem Value.isFinite_storedNumber {x : Binary64} (h : x.Fits) :
    ∃ n : Number, storedNumber x = some n.toValue ∧
      (n.isFinite = true ↔ |x.value| < Binary64.keptOverflow) := by
  cases x with
  | finite negative m e =>
    refine ⟨_, storedNumber_finite negative m e, ?_⟩
    have hnearest := Binary64.nearest_kept false m e
    rw [Decimal.isFinite_number, Binary64.value, Binary64.abs_signed, abs_of_nonneg (by positivity)]
    exact Binary64.lt_overflow_iff_of_nearest hnearest h.ne_keptOverflow
  | _ => exact h.elim

/-- The greatest number of all is not below it. -/
example :
    Value.storedNumber (.finite false (2 ^ 53 - 1) 971) = some (.float (.infinity false)) := by
  decide +kernel

end SheetActions
