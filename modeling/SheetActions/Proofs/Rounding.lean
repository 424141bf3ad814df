import Mathlib.Algebra.Order.Field.Power
import Mathlib.Algebra.Order.Ring.Abs
import Mathlib.Algebra.Order.Round
import Mathlib.Data.Rat.Floor
import Mathlib.Tactic.FieldSimp
import Mathlib.Tactic.Linarith
import Mathlib.Tactic.Positivity
import Mathlib.Tactic.Ring
import SheetActions.Number.Arithmetic

/-! Rounding, seen from the values of numbers.

A number that is given room for so many units of a grid, and uses a part of them, is rounded
to the nearest point of its grid; no number with the same room lies nearer, be its grid finer
or coarser (`nearest_of_grid`). So a fraction is rounded to a nearest floating-point number
(`Rounds`), unless it is beyond them all (`rounds_ofFraction`). Two facts are all that the rest
needs of it: rounding does not cross a number that there is (`Rounds.le`, `Rounds.ge`), and it
changes a value by half a unit at most (`Rounds.near`). -/
namespace SheetActions

/-! ### Grids -/

/-- The power of a base, as a quotient of two natural numbers. -/
theorem zpow_eq_div_toNat (b : ℚ) (e : Int) :
    b ^ e = b ^ e.toNat / b ^ (-e).toNat := by
  rcases Int.le_total 0 e with h | h
  · obtain ⟨n, rfl⟩ := Int.eq_ofNat_of_zero_le h
    simp
  · obtain ⟨n, hn⟩ := Int.eq_ofNat_of_zero_le (Int.neg_nonneg_of_nonpos h)
    obtain rfl : e = -(n : Int) := by omega
    simp [zpow_neg]

/-- A quotient counted in units of a grid. -/
theorem div_grid {b : Nat} (hb : 0 < b) (num den : Nat) (e : Int) :
    ((num * b ^ (-e).toNat : Nat) : ℚ) / (den * b ^ e.toNat : Nat) = num / den / (b : ℚ) ^ e := by
  have hb' : (b : ℚ) ≠ 0 := by positivity
  rw [zpow_eq_div_toNat]
  push_cast
  rw [div_div_eq_mul_div, div_mul_eq_mul_div, div_div]

theorem abs_roundQuotient_sub (num : Nat) {den : Nat} (h : 0 < den) :
    |(roundQuotient num den : ℚ) - num / den| ≤ 1 / 2 := by
  obtain ⟨hle, hge⟩ := roundQuotient_near num h
  have hden : (0 : ℚ) < den := by exact_mod_cast h
  have hle' : 2 * ((roundQuotient num den : ℚ) * den) ≤ 2 * num + den := by exact_mod_cast hle
  have hge' : 2 * (num : ℚ) ≤ 2 * ((roundQuotient num den : ℚ) * den) + den := by exact_mod_cast hge
  have hcancel : (num : ℚ) / den * den = num := div_mul_cancel₀ _ hden.ne'
  rw [abs_le]
  constructor
  · nlinarith
  · nlinarith

/-- A distance counted in units. -/
theorem abs_mul_sub {unit : ℚ} (h : 0 < unit) (n x : ℚ) :
    |n * unit - x| = |n - x / unit| * unit := by
  rw [← abs_of_pos h, ← abs_mul, abs_of_pos h, sub_mul, div_mul_cancel₀ _ h.ne']

/-- The nearest point of a grid is off by half a unit at most. -/
theorem abs_round_mul_sub {unit : ℚ} (h : 0 < unit) (q : ℚ) :
    |round (q / unit) * unit - q| ≤ 1 / 2 * unit := by
  rw [abs_mul_sub h, abs_sub_comm]
  exact mul_le_mul_of_nonneg_right (abs_sub_round _) h.le

theorem abs_round_le {q : ℚ} {n : Int} (h : |q| ≤ n) : |round q| ≤ n := by
  have hlt : |(round q : ℚ)| < n + 1 := by
    have hround := abs_sub_round q
    have := abs_sub_abs_le_abs_sub (round q : ℚ) q
    rw [abs_sub_comm (round q : ℚ)] at this
    linarith
  exact Int.lt_add_one_iff.mp (by exact_mod_cast hlt)

/-- Of the points of a grid none is nearer than one within half a unit. -/
theorem abs_sub_le_of_grid {x : ℚ} {n i : Int} (h : |(n : ℚ) - x| ≤ 1 / 2) :
    |(n : ℚ) - x| ≤ |(i : ℚ) - x| := by
  by_cases heq : n = i
  · rw [heq]
  · have hone : (1 : ℚ) ≤ |(n : ℚ) - i| := by
      exact_mod_cast Int.one_le_abs (sub_ne_zero.mpr heq)
    have htriangle := abs_sub_le (n : ℚ) x i
    rw [abs_sub_comm x] at htriangle
    linarith

/-- A value is rounded on a grid of which it takes between `room` and `room * b` units, or
with `e` the least exponent that there is. No point of a grid is nearer that has at most
`room * b` units. -/
theorem nearest_of_grid (b room : Nat) {n : Nat} {e f j : Int} {q : ℚ} (hb : 1 < b)
    (near : |(n : ℚ) - q / (b : ℚ) ^ e| ≤ 1 / 2) (hj : |j| ≤ (room * b : Nat))
    (h : e ≤ f ∨ room * (b : ℚ) ^ e ≤ q) :
    |n * (b : ℚ) ^ e - q| ≤ |j * (b : ℚ) ^ f - q| := by
  have hunit : (0 : ℚ) < (b : ℚ) ^ e := zpow_pos (by positivity) e
  have hb' : (1 : ℚ) < b := by exact_mod_cast hb
  have hgrid : ∀ i : Int, |n * (b : ℚ) ^ e - q| ≤ |i * (b : ℚ) ^ e - q| := by
    intro i
    rw [abs_mul_sub hunit, abs_mul_sub hunit]
    exact mul_le_mul_of_nonneg_right (abs_sub_le_of_grid (n := n) (i := i) near) hunit.le
  by_cases hf : e ≤ f
  · obtain ⟨k, hk⟩ := Int.le.dest hf
    have hpoint : (j : ℚ) * (b : ℚ) ^ f = ((j * b ^ k : Int) : ℚ) * (b : ℚ) ^ e := by
      rw [← hk, zpow_add₀ (by positivity)]
      push_cast
      rw [zpow_natCast]
      ring
    rw [hpoint]
    exact hgrid _
  · -- a point of a finer grid lies below `room` units, and these lie below the value
    have hlow := h.resolve_left hf
    have hfine : (b : ℚ) ^ f ≤ (b : ℚ) ^ (e - 1) := zpow_le_zpow_right₀ hb'.le (by omega)
    have hpoint : (j : ℚ) * (b : ℚ) ^ f ≤ room * (b : ℚ) ^ e := by
      calc (j : ℚ) * (b : ℚ) ^ f ≤ (room * b : Nat) * (b : ℚ) ^ f := by
            refine mul_le_mul_of_nonneg_right ?_ (zpow_pos (by positivity) f).le
            exact_mod_cast (le_abs_self j).trans hj
        _ ≤ (room * b : Nat) * (b : ℚ) ^ (e - 1) :=
            mul_le_mul_of_nonneg_left hfine (by positivity)
        _ = room * (b : ℚ) ^ e := by
            rw [zpow_sub_one₀ (by positivity)]
            push_cast
            field_simp
    refine (hgrid room).trans ?_
    rw [abs_of_nonpos (by push_cast; linarith), abs_of_nonpos (by linarith)]
    push_cast
    linarith

/-! ### The numbers that there are -/

/-- A value with a sign in front. -/
def signed (negative : Bool) (x : ℚ) : ℚ :=
  if negative then -x else x

theorem abs_signed_sub (negative : Bool) (x y : ℚ) :
    |signed negative x - signed negative y| = |x - y| := by
  cases negative
  · rfl
  · rw [signed, signed, if_pos rfl, if_pos rfl, neg_sub_neg, abs_sub_comm]

namespace Binary64

/-- The value of a finite number. -/
def value : Binary64 → ℚ
  | .finite negative m e => signed negative (m * 2 ^ e)
  | _ => 0

/-- The numbers in the form that rounding gives them. -/
def Fits : Binary64 → Prop
  | .finite _ m e =>
    m < 2 ^ 53 ∧ leastExponent ≤ e ∧ e ≤ greatestExponent ∧ (e = leastExponent ∨ 2 ^ 52 ≤ m)
  | _ => False

/-- A value that is a finite number, or would be one if there were no greatest. -/
def IsPoint (x : ℚ) : Prop :=
  ∃ j f : Int, |j| ≤ 2 ^ 53 ∧ leastExponent ≤ f ∧ x = j * 2 ^ f

theorem IsPoint.neg {x : ℚ} (h : IsPoint x) : IsPoint (-x) := by
  obtain ⟨j, f, hj, hf, rfl⟩ := h
  exact ⟨-j, f, by rwa [abs_neg], hf, by push_cast; ring⟩

theorem isPoint_signed (negative : Bool) {x : ℚ} (h : IsPoint x) :
    IsPoint (signed negative x) := by
  cases negative
  · exact h
  · exact h.neg

theorem Fits.isPoint {x : Binary64} (h : x.Fits) : IsPoint x.value := by
  cases x with
  | finite negative m e =>
    refine isPoint_signed _ ⟨m, e, ?_, h.2.1, rfl⟩
    rw [Nat.abs_cast]
    exact_mod_cast h.1.le
  | _ => exact h.elim

/-- Numbers that are not too small have a common grid. -/
theorem IsPoint.exists_div {x : ℚ} (h : IsPoint x) {k : Nat} (hx : 2 ^ 52 < |x| * 2 ^ k) :
    ∃ i : Int, x = i / 2 ^ k := by
  obtain ⟨j, f, hj, _, rfl⟩ := h
  have hunit : (0 : ℚ) < 2 ^ f := zpow_pos two_pos f
  by_cases hf : -(k : Int) ≤ f
  · obtain ⟨n, hn⟩ := Int.eq_ofNat_of_zero_le (by omega : 0 ≤ f + k)
    refine ⟨j * 2 ^ n, ?_⟩
    rw [eq_div_iff (by positivity), mul_assoc, ← zpow_natCast, ← zpow_add₀ two_ne_zero, hn]
    push_cast
    rw [zpow_natCast]
  · -- on a finer grid there are not enough units
    have hj' : |(j : ℚ)| ≤ 2 ^ 53 := by exact_mod_cast hj
    have hfine : (2 : ℚ) ^ f * 2 ^ k ≤ 1 / 2 := by
      rw [← zpow_natCast, ← zpow_add₀ two_ne_zero, one_div, ← zpow_neg_one]
      exact zpow_le_zpow_right₀ one_le_two (by omega)
    have hsmall : |(j : ℚ) * 2 ^ f| * 2 ^ k ≤ 2 ^ 53 * (1 / 2) := by
      rw [abs_mul, abs_of_pos hunit, mul_assoc]
      exact mul_le_mul hj' hfine (by positivity) (by positivity)
    linarith

/-- So the next number below an integer is at least a unit away. -/
theorem IsPoint.le_of_lt {x : ℚ} (h : IsPoint x) {n : Int} {k : Nat} (hlt : x < n)
    (hn : 2 ^ 52 + 1 ≤ (n : ℚ) * 2 ^ k) : x ≤ n - 1 / 2 ^ k := by
  have hunit : (0 : ℚ) < 2 ^ k := by positivity
  rw [le_sub_iff_add_le, ← mul_le_mul_iff_left₀ hunit, add_mul, one_div, inv_mul_cancel₀ hunit.ne']
  by_cases hx : 2 ^ 52 < |x| * 2 ^ k
  · obtain ⟨i, rfl⟩ := h.exists_div hx
    rw [div_mul_cancel₀ _ hunit.ne']
    rw [div_lt_iff₀ hunit] at hlt
    exact_mod_cast Int.add_one_le_iff.mpr (by exact_mod_cast hlt : i < n * 2 ^ k)
  · have := mul_le_mul_of_nonneg_right (le_abs_self x) hunit.le
    linarith

/-! ### The exponent of a fraction -/

/-- The exponent that the binary logarithms suggest. -/
def suggested (num den : Nat) : Int := (num.log2 : Int) - den.log2 - 53

section Exponent
variable (num : Nat) {den : Nat} (hden : den ≠ 0)
include hden

/-- The logarithms tell the quotient but for a factor of four. -/
theorem suggested_le (hnum : num ≠ 0) : 2 ^ 52 * (2 : ℚ) ^ suggested num den ≤ num / den := by
  have hden' : (0 : ℚ) < den := by positivity
  have hn : (2 : ℚ) ^ num.log2 ≤ num := by exact_mod_cast Nat.log2_self_le hnum
  have hd : (den : ℚ) < 2 ^ (den.log2 + 1) := by exact_mod_cast Nat.lt_log2_self
  rw [le_div_iff₀ hden']
  calc 2 ^ 52 * (2 : ℚ) ^ suggested num den * den ≤
        2 ^ 52 * 2 ^ suggested num den * 2 ^ (den.log2 + 1) :=
          mul_le_mul_of_nonneg_left hd.le (by positivity)
    _ = 2 ^ num.log2 := by
        rw [← zpow_natCast, ← zpow_natCast, ← zpow_natCast, ← zpow_add₀ two_ne_zero,
          ← zpow_add₀ two_ne_zero, suggested]
        congr 1
        push_cast
        omega
    _ ≤ num := hn

theorem lt_suggested : (num : ℚ) / den < 2 ^ 54 * 2 ^ suggested num den := by
  have hden' : (0 : ℚ) < den := by positivity
  have hn : (num : ℚ) < 2 ^ (num.log2 + 1) := by exact_mod_cast Nat.lt_log2_self
  have hd : (2 : ℚ) ^ den.log2 ≤ den := by exact_mod_cast Nat.log2_self_le hden
  rw [div_lt_iff₀ hden']
  calc (num : ℚ) < 2 ^ (num.log2 + 1) := hn
    _ = 2 ^ 54 * 2 ^ suggested num den * 2 ^ den.log2 := by
        rw [← zpow_natCast, ← zpow_natCast, ← zpow_natCast, ← zpow_add₀ two_ne_zero,
          ← zpow_add₀ two_ne_zero, suggested]
        congr 1
        push_cast
        omega
    _ ≤ 2 ^ 54 * 2 ^ suggested num den * den := mul_le_mul_of_nonneg_left hd (by positivity)

/-- A fraction has an integer part of 53 bits in units of `2 ^ e`, or more. -/
theorem scaledRatio_lt_iff (e : Int) :
    (scaledRatio num den e).1 / (scaledRatio num den e).2 < 2 ^ 53 ↔
      (num : ℚ) / den < 2 ^ 53 * 2 ^ e := by
  have hunit : (0 : ℚ) < 2 ^ e := zpow_pos two_pos e
  have hpos : 0 < (scaledRatio num den e).2 := by
    show 0 < den * 2 ^ e.toNat
    positivity
  have hgrid := div_grid two_pos num den e
  push_cast at hgrid
  rw [Nat.div_lt_iff_lt_mul hpos, ← div_lt_iff₀ hunit, ← hgrid, div_lt_iff₀ (by positivity)]
  show num * 2 ^ (-e).toNat < 2 ^ 53 * (den * 2 ^ e.toNat) ↔ _
  exact_mod_cast Iff.rfl

variable {num}

/-- Where a fraction stands between the powers of two. -/
theorem exponentOf_spec (hnum : num ≠ 0) :
    leastExponent ≤ exponentOf num den ∧ (num : ℚ) / den < 2 ^ 53 * 2 ^ exponentOf num den ∧
      (exponentOf num den = leastExponent ∨
        2 ^ 52 * 2 ^ exponentOf num den ≤ (num : ℚ) / den) := by
  have hlower := suggested_le num hden hnum
  have hupper := lt_suggested num hden
  have hsmall := scaledRatio_lt_iff num hden (suggested num den)
  have hexponent : exponentOf num den = max leastExponent
      (if (scaledRatio num den (suggested num den)).1 /
        (scaledRatio num den (suggested num den)).2 < 2 ^ 53 then suggested num den
        else suggested num den + 1) := rfl
  obtain ⟨e, he, hless, hfull⟩ : ∃ e, exponentOf num den = max leastExponent e ∧
      (num : ℚ) / den < 2 ^ 53 * 2 ^ e ∧ 2 ^ 52 * (2 : ℚ) ^ e ≤ num / den := by
    rw [hexponent]
    split
    · rename_i hless
      exact ⟨_, rfl, hsmall.mp hless, hlower⟩
    · rename_i hmore
      rw [hsmall, not_lt] at hmore
      refine ⟨_, rfl, ?_, ?_⟩
      · rw [zpow_add_one₀ two_ne_zero]
        linarith
      · rw [zpow_add_one₀ two_ne_zero]
        linarith
  rw [he]
  refine ⟨le_max_left .., ?_, ?_⟩
  · refine hless.trans_le (mul_le_mul_of_nonneg_left ?_ (by positivity))
    exact zpow_le_zpow_right₀ one_le_two (le_max_right ..)
  · rcases max_choice leastExponent e with hmax | hmax
    · exact .inl hmax
    · exact .inr (by rwa [hmax])

end Exponent

/-! ### The nearest number -/

/-- No value of a number is nearer to `q` than that of `x`. -/
structure Rounds (x : Binary64) (q : ℚ) : Prop where
  fits : x.Fits
  nearest : ∀ p, IsPoint p → |x.value - q| ≤ |p - q|

/-- The greatest value of a number; only what is not smaller can be infinite. -/
def greatest : ℚ := (2 ^ 53 - 1) * 2 ^ greatestExponent

theorem rounds_zero (negative : Bool) :
    Rounds (.finite negative 0 leastExponent) (signed negative 0) where
  fits := ⟨by norm_num, Int.le_refl _, by decide, .inl rfl⟩
  nearest := fun p _ => by
    have hvalue : (Binary64.finite negative 0 leastExponent).value = signed negative 0 := by
      simp [value]
    rw [hvalue, sub_self, abs_zero]
    exact abs_nonneg _

/-- A fraction in units of a power of two, rounded. -/
def units (num den : Nat) (e : Int) : Nat :=
  roundQuotient (scaledRatio num den e).1 (scaledRatio num den e).2

theorem abs_units_sub (num : Nat) {den : Nat} (hden : den ≠ 0) (e : Int) :
    |(units num den e : ℚ) - num / den / 2 ^ e| ≤ 1 / 2 := by
  have hpos : 0 < den * 2 ^ e.toNat := by positivity
  have hgrid := div_grid two_pos num den e
  have hnear := abs_roundQuotient_sub (num * 2 ^ (-e).toNat) hpos
  rw [hgrid] at hnear
  exact_mod_cast hnear

section Fraction
variable {num den : Nat} (hnum : num ≠ 0) (hden : den ≠ 0)
include hnum hden

theorem units_exponentOf_le : units num den (exponentOf num den) ≤ 2 ^ 53 := by
  obtain ⟨_, hroom, _⟩ := exponentOf_spec hden hnum
  have hnear := abs_units_sub num hden (exponentOf num den)
  rw [← div_lt_iff₀ (zpow_pos two_pos _)] at hroom
  have hlt : (units num den (exponentOf num den) : ℚ) < (2 ^ 53 + 1 : Nat) := by
    have := (abs_le.mp hnear).2
    push_cast
    linarith
  exact Nat.lt_succ_iff.mp (Nat.cast_lt.mp hlt)

/-- There are fewer units than that only at the least exponent. -/
theorem le_units_exponentOf : exponentOf num den = leastExponent ∨
    2 ^ 52 ≤ units num den (exponentOf num den) := by
  obtain ⟨_, _, hfull⟩ := exponentOf_spec hden hnum
  refine hfull.imp_right fun hfull => ?_
  have hnear := abs_units_sub num hden (exponentOf num den)
  rw [← le_div_iff₀ (zpow_pos two_pos _)] at hfull
  have hlt : ((2 ^ 52 : Nat) : ℚ) < (units num den (exponentOf num den) + 1 : Nat) := by
    have := (abs_le.mp hnear).1
    push_cast
    linarith
  exact Nat.lt_succ_iff.mp (Nat.cast_lt.mp hlt)

theorem nearest_units {p : ℚ} (hp : IsPoint p) :
    |units num den (exponentOf num den) * 2 ^ exponentOf num den - (num : ℚ) / den| ≤
      |p - num / den| := by
  obtain ⟨_, _, hfull⟩ := exponentOf_spec hden hnum
  obtain ⟨j, f, hj, hf, rfl⟩ := hp
  refine nearest_of_grid 2 (2 ^ 52) one_lt_two (abs_units_sub num hden _) ?_ ?_
  · exact hj.trans (by norm_num)
  · rcases hfull with heq | hfull
    · exact .inl (heq ▸ hf)
    · exact .inr (by exact_mod_cast hfull)

theorem greatest_le (h : greatestExponent < exponentOf num den) : greatest ≤ num / den := by
  obtain ⟨_, _, hfull⟩ := exponentOf_spec hden hnum
  have hstart : exponentOf num den ≠ leastExponent := by
    have : leastExponent < greatestExponent := by decide
    omega
  have hunit : (0 : ℚ) < 2 ^ greatestExponent := zpow_pos two_pos _
  calc greatest ≤ 2 ^ 53 * 2 ^ greatestExponent :=
        mul_le_mul_of_nonneg_right (by norm_num) hunit.le
    _ = 2 ^ 52 * 2 ^ (greatestExponent + 1) := by
        rw [zpow_add_one₀ two_ne_zero]
        ring
    _ ≤ 2 ^ 52 * 2 ^ exponentOf num den :=
        mul_le_mul_of_nonneg_left (zpow_le_zpow_right₀ one_le_two h) (by positivity)
    _ ≤ num / den := hfull.resolve_left hstart

omit hnum in
theorem greatest_le_of_carry (hcarry : units num den (exponentOf num den) = 2 ^ 53)
    (h : greatestExponent ≤ exponentOf num den) : greatest ≤ num / den := by
  have hunit : (0 : ℚ) < 2 ^ exponentOf num den := zpow_pos two_pos _
  have hnear := (abs_le.mp (abs_units_sub num hden (exponentOf num den))).2
  rw [hcarry] at hnear
  push_cast at hnear
  calc greatest ≤ (2 ^ 53 - 1) * 2 ^ exponentOf num den :=
        mul_le_mul_of_nonneg_left (zpow_le_zpow_right₀ one_le_two h) (by norm_num)
    _ ≤ num / den := by
        rw [← le_div_iff₀ hunit]
        linarith

/-- A number with the value of the rounded units is a nearest one. -/
theorem rounds_of_value {negative : Bool} {m : Nat} {e : Int}
    (hfits : (Binary64.finite negative m e).Fits)
    (hvalue : (m : ℚ) * 2 ^ e =
      units num den (exponentOf num den) * 2 ^ exponentOf num den) :
    Rounds (.finite negative m e) (signed negative (num / den)) where
  fits := hfits
  nearest := fun p hp => by
    have hsigned : signed negative (signed negative p) = p := by
      cases negative <;> simp [signed]
    have hnearest := nearest_units hnum hden (isPoint_signed negative hp)
    rw [← abs_signed_sub negative (signed negative p), hsigned] at hnearest
    rwa [value, hvalue, abs_signed_sub]

end Fraction

/-- Rounding carries over to a further bit if the units have as many as there is room for. -/
theorem ofRatio_eq (negative : Bool) {num : Nat} (den : Nat) (hnum : num ≠ 0) :
    ofRatio negative num den =
      if units num den (exponentOf num den) = 2 ^ 53 then
        if exponentOf num den + 1 > greatestExponent then .infinity negative
        else .finite negative (2 ^ 52) (exponentOf num den + 1)
      else if exponentOf num den > greatestExponent then .infinity negative
      else .finite negative (units num den (exponentOf num den)) (exponentOf num den) := by
  by_cases hcarry : units num den (exponentOf num den) = 2 ^ 53
  · rw [if_pos hcarry]
    rw [units] at hcarry
    simp only [ofRatio, if_neg hnum, Nat.pow_eq, hcarry, if_true]
  · rw [if_neg hcarry]
    rw [units] at hcarry ⊢
    simp only [ofRatio, if_neg hnum, Nat.pow_eq, hcarry, if_false]

/-- A fraction is rounded to a nearest number, unless it is too large. -/
theorem ofRatio_spec (negative : Bool) (num : Nat) {den : Nat} (hden : den ≠ 0) :
    (ofRatio negative num den).Rounds (signed negative (num / den)) ∨
      ofRatio negative num den = .infinity negative ∧ greatest ≤ num / den := by
  by_cases hnum : num = 0
  · subst hnum
    rw [Nat.cast_zero, zero_div]
    exact .inl (rounds_zero negative)
  have hleast := (exponentOf_spec hden hnum).1
  have hm := units_exponentOf_le hnum hden
  have hfull := le_units_exponentOf hnum hden
  rw [ofRatio_eq negative den hnum]
  split
  · rename_i hcarry
    split
    · exact .inr ⟨rfl, greatest_le_of_carry hden hcarry (by omega)⟩
    · refine .inl
        (rounds_of_value hnum hden ⟨by norm_num, by omega, by omega, .inr (by norm_num)⟩ ?_)
      rw [hcarry, zpow_add_one₀ two_ne_zero]
      push_cast
      ring
  · split
    · exact .inr ⟨rfl, greatest_le hnum hden (by omega)⟩
    · exact .inl (rounds_of_value hnum hden ⟨by omega, hleast, by omega, hfull⟩ rfl)

/-! ### What rounding changes -/

namespace Rounds
variable {x : Binary64} {p q : ℚ}

/-- Rounding does not go beyond a number above. -/
theorem le (h : Rounds x q) (hp : IsPoint p) (hle : q ≤ p) : x.value ≤ p := by
  have hnear := (abs_le.mp (h.nearest p hp)).2
  rw [abs_of_nonneg (by linarith)] at hnear
  linarith

/-- Rounding does not go beyond a number below. -/
theorem ge (h : Rounds x q) (hp : IsPoint p) (hle : p ≤ q) : p ≤ x.value := by
  have hnear := (abs_le.mp (h.nearest p hp)).1
  rw [abs_of_nonpos (by linarith)] at hnear
  linarith

/-- Rounding goes up by no more than it could have gone down. -/
theorem le_reflect (h : Rounds x q) (hp : IsPoint p) {high : ℚ} (hpq : p ≤ high)
    (hq : q ≤ high) : x.value ≤ 2 * high - p := by
  rcases le_total q p with hle | hle
  · linarith [h.le hp hle]
  · have hnear := h.nearest p hp
    rw [abs_of_nonpos (sub_nonpos.mpr hle)] at hnear
    linarith [(abs_le.mp hnear).2]

/-- A value that a number has is kept. -/
theorem eq (h : Rounds x q) (hq : IsPoint q) : x.value = q := by
  have hnear := h.nearest q hq
  rw [sub_self, abs_zero, abs_nonpos_iff, sub_eq_zero] at hnear
  exact hnear

end Rounds

/-- A number below a power of two is off by half a unit of its grid at most. -/
theorem Rounds.near {x : Binary64} {q : ℚ} {k : Int} (h : Rounds x q) (hk : -1021 ≤ k)
    (hq : |q| ≤ 2 ^ k) : |x.value - q| ≤ 1 / 2 * 2 ^ (k - 53) := by
  have hunit : (0 : ℚ) < 2 ^ (k - 53) := zpow_pos two_pos _
  refine (h.nearest _ ⟨_, k - 53, ?_, ?_, rfl⟩).trans (abs_round_mul_sub hunit q)
  · refine abs_round_le ?_
    have hroom : ((2 ^ 53 : Int) : ℚ) * 2 ^ (k - 53) = 2 ^ k := by
      rw [Int.cast_pow, Int.cast_ofNat, ← zpow_natCast, ← zpow_add₀ two_ne_zero]
      exact congrArg _ (by omega)
    rwa [abs_div, abs_of_pos hunit, div_le_iff₀ hunit, hroom]
  · show (-1074 : Int) ≤ k - 53
    omega

end Binary64

end SheetActions
