import SheetActions.Proofs.Decimals
import SheetActions.Proofs.NumberTexts

/-! Numbers in a file.

A file keeps of a number the number nearest to its decimal of sixteen digits
(`exists_storedNumber`). -/
namespace SheetActions

namespace Decimal

theorem value_stripZeros {d : Decimal} (h : d.digits ≠ 0) : d.stripZeros.value = d.value := by
  obtain ⟨k, hdigits, hexponent⟩ := stripZeros_spec h
  rw [value, value, hexponent, ← hdigits, zpow_add₀ (by norm_num), zpow_natCast]
  push_cast
  ring

theorem ten_pow_lt_greatest : (10 : ℚ) ^ 16 < Binary64.greatest := by
  calc (10 : ℚ) ^ 16 < 2 ^ 64 := by norm_num
    _ < Binary64.greatest := Binary64.two_pow_lt_greatest (by norm_num)

theorem value_of_nonneg {d : Decimal} (h : 0 ≤ d.exponent) :
    d.value = (d.digits * 10 ^ d.exponent.toNat : Nat) := by
  obtain ⟨k, hk⟩ := Int.eq_ofNat_of_zero_le h
  rw [value, hk, Int.toNat_natCast, zpow_natCast]
  push_cast
  rfl

section Plain
variable {d : Decimal} (hexponent : 0 ≤ d.exponent)
  (h : d.exponent + (Nat.toDigits 10 d.digits).length - 1 < 16)
include hexponent h

/-- What is written without a point has sixteen digits at most. -/
theorem mul_ten_pow_lt : d.digits * 10 ^ d.exponent.toNat < 10 ^ 16 := by
  have hdigits := (Nat.length_toDigits_le_iff (b := 10) (n := d.digits) (by norm_num)
    Nat.length_toDigits_pos).mp le_rfl
  calc d.digits * 10 ^ d.exponent.toNat
      < 10 ^ (Nat.toDigits 10 d.digits).length * 10 ^ d.exponent.toNat :=
        Nat.mul_lt_mul_of_pos_right hdigits (by positivity)
    _ = 10 ^ ((Nat.toDigits 10 d.digits).length + d.exponent.toNat) := (pow_add ..).symm
    _ ≤ 10 ^ 16 := Nat.pow_le_pow_right (by norm_num) (by omega)

theorem rounds_plain (negative : Bool) :
    (Binary64.ofInt (if negative then -((d.digits * 10 ^ d.exponent.toNat : Nat) : Int)
      else (d.digits * 10 ^ d.exponent.toNat : Nat))).Rounds (signed negative d.value) := by
  have hvalue := value_of_nonneg hexponent
  have hlarge : ((d.digits * 10 ^ d.exponent.toNat : Nat) : ℚ) < 10 ^ 16 := by
    exact_mod_cast mul_ten_pow_lt hexponent h
  have hint : ((if negative then -((d.digits * 10 ^ d.exponent.toNat : Nat) : Int)
      else (d.digits * 10 ^ d.exponent.toNat : Nat) : Int) : ℚ) = signed negative d.value := by
    rw [hvalue]
    cases negative
    · simp [signed]
    · simp [signed]
  rw [← hint]
  refine Binary64.rounds_ofInt ?_
  rw [hint, Binary64.abs_signed, hvalue, abs_of_nonneg (by positivity)]
  exact hlarge.trans ten_pow_lt_greatest

end Plain

/-- The number of a decimal is one nearest to it, unless it is too large. -/
theorem number_spec (negative : Bool) (d : Decimal) :
    ∃ y, (d.number negative).toValue.toBinary64? = some y ∧
      (y.Rounds (signed negative d.value) ∨
        y = .infinity negative ∧ Binary64.greatest ≤ d.value) := by
  rw [number]
  simp only
  split
  · rename_i hplain
    exact ⟨_, rfl, .inl (rounds_plain hplain.2 hplain.1.2 negative)⟩
  · exact ⟨_, rfl, Binary64.ofDecimal_spec ..⟩

end Decimal

theorem Binary64.Fits.isFinite {x : Binary64} (h : x.Fits) : x.isFinite = true := by
  cases x with
  | finite => rfl
  | _ => exact h.elim

/-- A number that was read can be saved. -/
theorem Decimal.isStorable_number (negative : Bool) (d : Decimal) :
    (d.number negative).toValue.isStorable = true := by
  rw [number]
  simp only
  split
  · rename_i hplain
    exact (rounds_plain hplain.2 hplain.1.2 negative).fits.isFinite
  · rfl

/-- What a file keeps of a date or a time is what it keeps of its number. -/
theorem Value.stored_of_ofValue? {v : Value} {x : Binary64} (h : Serial.ofValue? v = some x) :
    v.stored = storedNumber x := by
  unfold stored
  rw [h]

namespace Binary64
variable {x y : Binary64}

/-- What a file keeps of a number: sixteen digits of it, and what they are read as. -/
structure Keeps (x : Binary64) (t : ℚ) (y : Binary64) : Prop where
  nearest : Decimal.Nearest t x.value
  read : y.Rounds t ∨ y.isFinite = false ∧ greatest ≤ |t|

theorem nearest_kept (negative : Bool) (m : Nat) (e : Int) :
    Decimal.Nearest (signed negative (kept m e).value) (Binary64.finite negative m e).value := by
  have hkept : Decimal.Nearest (kept m e).value (m * 2 ^ e) := by
    by_cases hm : m = 0
    · subst hm
      have hzero : (kept 0 e).value = 0 := by simp [kept, Decimal.stripZeros, Decimal.value]
      rw [hzero, Nat.cast_zero, zero_mul]
      exact .zero
    · have hshortens := shortens_significant hm e
      rw [kept, if_neg hm, Decimal.value_stripZeros hshortens.digits_ne_zero]
      exact hshortens.nearest
  cases negative
  · exact hkept
  · exact hkept.neg

/-- A number is kept, be it as an integer or as a floating-point number. -/
theorem exists_storedNumber (h : x.Fits) :
    ∃ t w y, Value.storedNumber x = some w ∧ w.toBinary64? = some y ∧ x.Keeps t y := by
  cases x with
  | finite negative m e =>
    obtain ⟨y, hy, hread⟩ := Decimal.number_spec negative (kept m e)
    refine ⟨_, _, y, Value.storedNumber_finite negative m e, hy, nearest_kept negative m e, ?_⟩
    refine hread.imp_right fun hlarge => ⟨by rw [hlarge.1]; rfl, ?_⟩
    rw [abs_signed]
    exact hlarge.2.trans (le_abs_self _)
  | _ => exact h.elim

theorem Keeps.rounds {t low high : ℚ} (h : x.Keeps t y) (hlow : IsBound low)
    (hhigh : IsBound high) (ge : low ≤ t) (le : t ≤ high) : y.Rounds t :=
  h.read.resolve_right fun hlarge =>
    absurd hlarge.2 (not_le.mpr (Within.abs_lt_greatest hlow hhigh ge le))

/-- Keeping a number stays within bounds that have sixteen digits between them and it. -/
theorem Keeps.within {t a b p q low high : ℚ} (h : x.Keeps t y) (hx : x.Within a b)
    (hp : Decimal.IsShort p) (hq : Decimal.IsShort q) (hlow : IsBound low) (hhigh : IsBound high)
    (ge : low ≤ p ∧ p ≤ a) (le : b ≤ q ∧ q ≤ high) : y.Within low high := by
  have hpt : p ≤ t := h.nearest.ge hp (ge.2.trans hx.ge)
  have htq : t ≤ q := h.nearest.le hq (hx.le.trans le.1)
  have hlt : low ≤ t := ge.1.trans hpt
  have hth : t ≤ high := htq.trans le.2
  exact .of_rounds (h.rounds hlow hhigh hlt hth) hlow hhigh hlt hth

/-- Keeping a number adds half a unit of its decimal grid and half a unit of its binary one. -/
theorem Keeps.near {t q a : ℚ} {i : Int} {k : Nat} (h : x.Keeps t y) (hx : x.Near q a)
    (hi : |q| + a ≤ 10 ^ i) (hk : k < 971)
    (hroom : |q| + (1 / 2 * 10 ^ (i - 16) + a) ≤ 2 ^ k) :
    y.Near q (1 / 2 * 10 ^ (i - 16) + a + 2 ^ k / 2 ^ 54) := by
  have hvalue := abs_sub_abs_le_abs_sub x.value q
  have ht := h.nearest.near (k := i) (by linarith [hx.near])
  have hoff : |t - q| ≤ 1 / 2 * 10 ^ (i - 16) + a :=
    (abs_sub_le t x.value q).trans (add_le_add ht hx.near)
  have hsize : |t| ≤ 2 ^ k := by
    linarith [abs_sub_abs_le_abs_sub t q]
  have hread : y.Rounds t := h.read.resolve_right fun hlarge =>
    absurd hlarge.2 (not_le.mpr (hsize.trans_lt (two_pow_lt_greatest hk)))
  exact .of_rounds hread hsize hoff

end Binary64

end SheetActions
