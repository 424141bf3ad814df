import SheetActions.Proofs.StoredNumbers

/-! Numbers that are saved again.

A file keeps sixteen digits of a number, and what these are read as need not be the number. But
then it is settled: saved again, it is kept as it is (`storedNumber_again`). The number that is
read is as near to the digits as the number that was saved, so the digits that it is shortened to
are the same (`stripZeros_eq`). Only below a power of ten it has finer digits, and those are
nearer to it than to any other number (`eq_of_lower`). Integers are kept from the first time on,
as far as there is room for them (`storedNumber_ofInt`). -/
namespace SheetActions

namespace Binary64
variable {x y : Binary64} {p q t : ℚ}

/-! ### Apart from other numbers -/

theorem signed_signed (negative : Bool) (q : ℚ) : signed negative (signed negative q) = q := by
  cases negative <;> simp [signed]

/-- Different multiples of a unit are a unit apart at least. -/
theorem le_abs_sub_mul {i j : Int} {unit : ℚ} (hunit : 0 < unit)
    (h : (i : ℚ) * unit ≠ j * unit) : unit ≤ |(i : ℚ) * unit - j * unit| := by
  have hne : i ≠ j := by
    rintro rfl
    exact h rfl
  have hone : (1 : ℚ) ≤ |(i : ℚ) - j| := by exact_mod_cast Int.one_le_abs (sub_ne_zero.mpr hne)
  rw [← sub_mul, abs_mul, abs_of_pos hunit]
  exact le_mul_of_one_le_left hunit.le hone

/-- A number of a finer grid is away from one of a full grid. -/
theorem le_mul_sub_of_finer {m : Nat} {e f j : Int} (hm : 2 ^ 52 ≤ m) (hm' : m < 2 ^ 53)
    (hj : |j| ≤ 2 ^ 53) (hf : f < e) (hne : (j : ℚ) * 2 ^ f ≠ m * 2 ^ e) :
    (m : ℚ) * 2 ^ e ≤ 2 ^ 53 * |(j : ℚ) * 2 ^ f - m * 2 ^ e| := by
  have hlow : (2 : ℚ) ^ 52 ≤ m := by exact_mod_cast hm
  have hhigh : (m : ℚ) < 2 ^ 53 := by exact_mod_cast hm'
  have hj' : (j : ℚ) ≤ 2 ^ 53 := by exact_mod_cast (le_abs_self j).trans hj
  have hfine : (0 : ℚ) < 2 ^ f := zpow_pos two_pos f
  have hhalf : (0 : ℚ) < 2 ^ (e - 1) := zpow_pos two_pos _
  have hunit : (2 : ℚ) ^ e = 2 * 2 ^ (e - 1) := by
    rw [zpow_sub_one₀ two_ne_zero]
    ring
  have hpoint : (j : ℚ) * 2 ^ f ≤ 2 ^ 53 * 2 ^ f := mul_le_mul_of_nonneg_right hj' hfine.le
  have hsub := neg_abs_le (j * 2 ^ f - m * 2 ^ e : ℚ)
  rcases Int.lt_or_eq_of_le (Int.le_sub_one_of_lt hf) with hfiner | rfl
  · have hquarter : (2 : ℚ) * 2 ^ f ≤ 2 ^ (e - 1) := by
      rw [← zpow_one_add₀ two_ne_zero]
      exact zpow_le_zpow_right₀ one_le_two (by omega)
    have hfull : (2 : ℚ) ^ 52 * 2 ^ (e - 1) ≤ m * 2 ^ (e - 1) :=
      mul_le_mul_of_nonneg_right hlow hhalf.le
    rw [hunit] at hsub ⊢
    linarith
  · rcases Nat.eq_or_lt_of_le hm with rfl | hmore
    · have hdouble : ((2 ^ 52 : Nat) : ℚ) * 2 ^ e = (2 ^ 53 : Int) * 2 ^ (e - 1) := by
        rw [hunit]
        push_cast
        ring
      rw [hdouble] at hne ⊢
      have hgap := le_abs_sub_mul hhalf hne
      push_cast at hgap ⊢
      linarith
    · have hmore' : (2 : ℚ) ^ 52 + 1 ≤ m := by exact_mod_cast hmore
      have hfull : ((2 : ℚ) ^ 52 + 1) * 2 ^ (e - 1) ≤ m * 2 ^ (e - 1) :=
        mul_le_mul_of_nonneg_right hmore' hhalf.le
      rw [hunit] at hsub ⊢
      linarith

/-- The other numbers are away from a number by a part of it. -/
theorem Fits.le_mul_abs_sub (h : x.Fits) (hp : IsPoint p) (hne : p ≠ x.value) :
    |x.value| ≤ 2 ^ 53 * |p - x.value| := by
  cases x with
  | finite negative m e =>
    obtain ⟨hm, hleast, _, hfull⟩ := h
    have hm' : (m : ℚ) < 2 ^ 53 := by exact_mod_cast hm
    have hunit : (0 : ℚ) < 2 ^ e := zpow_pos two_pos e
    rw [value] at hne ⊢
    rw [abs_signed, abs_of_nonneg (by positivity), ← signed_signed negative p, abs_signed_sub]
    have hne' : signed negative p ≠ m * 2 ^ e := by
      intro heq
      exact hne (by rw [← heq, signed_signed])
    obtain ⟨j, f, hj, hf, hpoint⟩ := isPoint_signed negative hp
    rw [hpoint] at hne' ⊢
    by_cases hle : e ≤ f
    · obtain ⟨k, hk⟩ := Int.le.dest hle
      have hgrid : (j : ℚ) * 2 ^ f = (j * 2 ^ k : Int) * 2 ^ e := by
        rw [← hk, zpow_add₀ two_ne_zero, zpow_natCast]
        push_cast
        ring
      rw [hgrid] at hne' ⊢
      have hgap := le_abs_sub_mul (j := m) hunit hne'
      calc (m : ℚ) * 2 ^ e ≤ 2 ^ 53 * 2 ^ e := mul_le_mul_of_nonneg_right hm'.le hunit.le
        _ ≤ _ := mul_le_mul_of_nonneg_left hgap (by positivity)
    · exact le_mul_sub_of_finer (hfull.resolve_left (by omega)) hm hj (by omega) hne'
  | _ => exact h.elim

/-- Of two ways to write a value, a greater exponent would leave a mantissa that is too small. -/
theorem exponent_le {m n : Nat} {e f : Int} (hm : m < 2 ^ 53) (he : leastExponent ≤ e)
    (hn : f = leastExponent ∨ 2 ^ 52 ≤ n) (h : (m : ℚ) * 2 ^ e = n * 2 ^ f) : f ≤ e := by
  by_contra hlt
  obtain ⟨k, hk⟩ := Int.le.dest (Int.add_one_le_of_lt (Int.lt_of_not_ge hlt))
  have hn' := hn.resolve_left (by omega)
  have hmul : m = n * 2 ^ (k + 1) := by
    have hcast : (m : ℚ) * 2 ^ e = (n * 2 ^ (k + 1) : Nat) * 2 ^ e := by
      rw [h, ← hk, zpow_add₀ two_ne_zero, zpow_add₀ two_ne_zero]
      push_cast
      rw [zpow_natCast]
      ring
    exact_mod_cast mul_right_cancel₀ (zpow_pos two_pos e).ne' hcast
  have htwo : 2 ≤ 2 ^ (k + 1) := Nat.le_self_pow (Nat.succ_ne_zero k) 2
  have hdouble : n * 2 ≤ n * 2 ^ (k + 1) := Nat.mul_le_mul_left n htwo
  omega

/-- A number is fixed by its value, if this is not zero. -/
theorem Fits.eq_of_value (hx : x.Fits) (hy : y.Fits) (h : x.value = y.value) (hne : x.value ≠ 0) :
    x = y := by
  cases x with
  | finite negative m e =>
    cases y with
    | finite negative' m' e' =>
      obtain ⟨hm, hleast, _, hfull⟩ := hx
      obtain ⟨hm', hleast', _, hfull'⟩ := hy
      have habs : (m : ℚ) * 2 ^ e = m' * 2 ^ e' := by
        have := congrArg abs h
        rwa [value, value, abs_signed, abs_signed, abs_of_nonneg (by positivity),
          abs_of_nonneg (by positivity)] at this
      obtain rfl : e = e' :=
        le_antisymm (exponent_le hm' hleast' hfull habs.symm) (exponent_le hm hleast hfull' habs)
      obtain rfl : m = m' := by exact_mod_cast mul_right_cancel₀ (zpow_pos two_pos e).ne' habs
      have hpos : (m : ℚ) * 2 ^ e ≠ 0 := by
        intro hzero
        rw [value, hzero] at hne
        cases negative <;> simp [signed] at hne
      have hsign : negative = negative' := by
        rw [value, value] at h
        cases negative <;> cases negative' <;>
          simp only [signed, Bool.false_eq_true, if_true, if_false] at h ⊢
        · exact absurd (self_eq_neg.mp h) hpos
        · exact absurd (neg_eq_self.mp h) hpos
      rw [hsign]
    | _ => exact hy.elim
  | _ => exact hx.elim

end Binary64

/-! ### Shortening twice -/

namespace Decimal

theorem toDigits_mul_ten_pow {n : Nat} (hn : n ≠ 0) (k : Nat) :
    Nat.toDigits 10 (n * 10 ^ k) = Nat.toDigits 10 n ++ List.replicate k '0' := by
  induction k with
  | zero => rw [Nat.pow_zero, Nat.mul_one, List.replicate_zero, List.append_nil]
  | succ k ih =>
    have happend := Nat.toDigits_append_toDigits (b := 10) (n := n * 10 ^ k) (d := 0) (by norm_num)
      (by positivity) (by norm_num)
    rw [Nat.pow_succ', Nat.mul_left_comm, ← Nat.add_zero (10 * (n * 10 ^ k)), ← happend, ih,
      List.replicate_succ', List.append_assoc]
    rfl

theorem toDigits_ten_pow (k : Nat) : Nat.toDigits 10 (10 ^ k) = '1' :: List.replicate k '0' := by
  have hdigits := toDigits_mul_ten_pow one_ne_zero k
  rwa [Nat.one_mul] at hdigits

/-- No zero is left at the end. -/
theorem stripZeros_mod_ten {d : Decimal} (h : d.digits ≠ 0) : d.stripZeros.digits % 10 ≠ 0 := by
  obtain ⟨k, hdigits, hexponent⟩ := stripZeros_spec h
  have hk : ((Nat.toDigits 10 d.digits).reverse.takeWhile (· = '0')).length = k := by
    simp only [stripZeros, if_neg h] at hexponent
    omega
  intro hten
  obtain ⟨n, hn⟩ := Nat.dvd_of_mod_eq_zero hten
  have hall : d.digits = n * 10 ^ (k + 1) := by
    rw [← hdigits, hn, Nat.pow_succ']
    ring
  have hne : n ≠ 0 := by
    rintro rfl
    exact h (by rw [hall, Nat.zero_mul])
  rw [hall, toDigits_mul_ten_pow hne, List.reverse_append, List.reverse_replicate,
    List.takeWhile_append_of_pos (by simp), List.length_append, List.length_replicate] at hk
  omega

theorem stripZeros_ten_pow (k : Nat) (e : Int) :
    (⟨10 ^ k, e⟩ : Decimal).stripZeros = ⟨1, e + k⟩ := by
  have hzeros : ((Nat.toDigits 10 (10 ^ k)).reverse.takeWhile (· = '0')).length = k := by
    rw [toDigits_ten_pow]
    simp
  simp only [stripZeros, hzeros]
  rw [if_neg (by positivity), Nat.pow_eq, Nat.div_self (by positivity)]

namespace Shortens
variable {d d' : Decimal} {q z : ℚ}

/-- What is nearer to a decimal than the value that it came from, and has the digits for it, is
shortened to the same decimal. -/
theorem digits_mul_eq (hd : d.Shortens q) (hd' : d'.Shortens z) {k : Nat}
    (hk : d'.exponent = d.exponent + k) (hnear : |z - d.value| ≤ |q - d.value|) :
    d'.digits * 10 ^ k = d.digits := by
  have hunit : (0 : ℚ) < 10 ^ d.exponent := zpow_pos (by norm_num) _
  have hvalue : d'.value = (d'.digits * 10 ^ k : Nat) * 10 ^ d.exponent := by
    rw [value, hk, zpow_add₀ (by norm_num), zpow_natCast]
    push_cast
    ring
  -- all in units of the first decimal
  have hfirst :
      |(d.digits : ℚ) - z / 10 ^ d.exponent| ≤ |(d.digits : ℚ) - q / 10 ^ d.exponent| := by
    rw [abs_sub_comm z, abs_sub_comm q, value, abs_mul_sub hunit, abs_mul_sub hunit] at hnear
    exact le_of_mul_le_mul_right hnear hunit
  have hsecond : |((d'.digits * 10 ^ k : Nat) : ℚ) - z / 10 ^ d.exponent| ≤
      |(d.digits : ℚ) - z / 10 ^ d.exponent| := by
    have := hd'.nearest.nearest d.value hd.nearest.isShort
    rw [hvalue, value, abs_mul_sub hunit, abs_mul_sub hunit] at this
    exact le_of_mul_le_mul_right this hunit
  by_contra hne
  have hone : (1 : ℚ) ≤ |((d'.digits * 10 ^ k : Nat) : ℚ) - d.digits| := by
    have := Int.one_le_abs (sub_ne_zero.mpr (Int.ofNat_inj.not.mpr hne))
    exact_mod_cast this
  have htriangle := abs_sub_le ((d'.digits * 10 ^ k : Nat) : ℚ) (z / 10 ^ d.exponent) d.digits
  rw [abs_sub_comm (z / 10 ^ d.exponent)] at htriangle
  have hhalf := hd.near
  -- they are equally near, so both are even
  have heven : d.digits % 2 = 0 := hd.even (by linarith)
  have heven' : d'.digits * 10 ^ k % 2 = 0 := by
    rcases Nat.eq_zero_or_pos k with rfl | hpos
    · rw [pow_zero, mul_one]
      refine hd'.even ?_
      rw [hk, Int.natCast_zero, Int.add_zero]
      rw [pow_zero, mul_one] at hsecond htriangle hone
      linarith
    · obtain ⟨j, rfl⟩ := Nat.exists_eq_add_one.mpr hpos
      rw [pow_succ, ← Nat.mul_assoc]
      omega
  have hclose : |((d'.digits * 10 ^ k : Nat) : ℚ) - d.digits| < 2 := by linarith
  obtain ⟨hlow, hhigh⟩ := abs_lt.mp hclose
  have hlow' : ((d.digits : Nat) : ℚ) < ((d'.digits * 10 ^ k + 2 : Nat) : ℚ) := by
    push_cast at hlow ⊢
    linarith
  have hhigh' : ((d'.digits * 10 ^ k : Nat) : ℚ) < ((d.digits + 2 : Nat) : ℚ) := by
    push_cast at hhigh ⊢
    linarith
  have h₁ := Nat.cast_lt.mp hlow'
  have h₂ := Nat.cast_lt.mp hhigh'
  omega

theorem stripZeros_eq (hd : d.Shortens q) (hd' : d'.Shortens z)
    (hleast : 10 ^ 15 * 10 ^ d.exponent ≤ z) (hnear : |z - d.value| ≤ |q - d.value|) :
    d'.stripZeros = d.stripZeros := by
  have hle : d.exponent ≤ d'.exponent := by
    have hlt : (10 : ℚ) ^ d.exponent < 10 ^ (d'.exponent + 1) := by
      have hroom := hd'.room
      rw [zpow_add_one₀ (by norm_num)]
      linarith
    have := (zpow_lt_zpow_iff_right₀ (by norm_num)).mp hlt
    omega
  obtain ⟨k, hk⟩ := Int.le.dest hle
  have hdigits := hd.digits_mul_eq hd' hk.symm hnear
  obtain ⟨digits, exponent⟩ := d
  obtain ⟨digits', exponent'⟩ := d'
  obtain rfl : digits = digits' * 10 ^ k := hdigits.symm
  obtain rfl : exponent' = exponent + k := hk.symm
  have hlow := hd'.digits_bounds.1
  have hhigh := hd.digits_bounds.2
  simp only at hlow hhigh
  match k with
  | 0 => simp
  | 1 =>
    obtain rfl : digits' = 10 ^ 15 := by omega
    rw [← pow_add, stripZeros_ten_pow, stripZeros_ten_pow]
    congr 1
    push_cast
    ring
  | k + 2 =>
    have : 10 ^ 2 ≤ 10 ^ (k + 2) := Nat.pow_le_pow_right (by norm_num) (by omega)
    have : digits' * 10 ^ 2 ≤ digits' * 10 ^ (k + 2) := Nat.mul_le_mul_left _ this
    omega

end Shortens

end Decimal

/-! ### Numbers beyond the plain ones -/

namespace Decimal

theorem stripZeros_ne_zero {d : Decimal} (h : d.digits ≠ 0) : d.stripZeros.digits ≠ 0 := by
  obtain ⟨k, hk, _⟩ := stripZeros_spec h
  intro hzero
  rw [hzero, Nat.zero_mul] at hk
  exact h hk.symm

/-- Only integers of sixteen digits are kept as integers. -/
theorem number_eq_float {d : Decimal} (negative : Bool) (hd : d.digits ≠ 0)
    (h : d.value < 1 ∨ 10 ^ 16 ≤ d.value) :
    d.number negative = .float (Binary64.ofDecimal negative d.digits d.exponent) := by
  rw [number]
  simp only
  split
  · rename_i hplain
    obtain ⟨⟨_, hlength⟩, hinteger⟩ := hplain
    obtain ⟨hlow, hhigh⟩ := Binary64.ten_pow_length hd
    have hpow : (1 : ℚ) ≤ 10 ^ d.exponent := one_le_zpow₀ (by norm_num) hinteger
    have hone : (1 : ℚ) ≤ d.digits := by exact_mod_cast Nat.one_le_iff_ne_zero.mpr hd
    have hge : 1 ≤ d.value := one_le_mul_of_one_le_of_one_le hone hpow
    have hlt : d.value < 10 ^ (16 : Int) := by
      calc d.value < 10 ^ ((Nat.toDigits 10 d.digits).length : Int) * 10 ^ d.exponent :=
            mul_lt_mul_of_pos_right hhigh (by linarith)
        _ = 10 ^ ((Nat.toDigits 10 d.digits).length + d.exponent) :=
          (zpow_add₀ (by norm_num) ..).symm
        _ ≤ 10 ^ (16 : Int) := zpow_le_zpow_right₀ (by norm_num) (by omega)
    rw [zpow_ofNat] at hlt
    rcases h with h | h <;> linarith
  · rfl

/-- An integer of sixteen digits at most is kept as an integer. -/
theorem number_eq_integer {d : Decimal} (negative : Bool) (hd : d.digits % 10 ≠ 0) {n : Nat}
    (hn : n < 10 ^ 16) (h : d.value = n) :
    d.number negative = .integer (if negative then -(n : Int) else n) := by
  have hinteger : 0 ≤ d.exponent := by
    by_contra hneg
    obtain ⟨k, hk⟩ : ∃ k : Nat, d.exponent = -(k + 1 : Nat) := ⟨(-d.exponent - 1).toNat, by omega⟩
    have hdigits : d.digits = n * 10 ^ (k + 1) := by
      rw [value, hk, zpow_neg, zpow_natCast, mul_inv_eq_iff_eq_mul₀ (by positivity)] at h
      exact_mod_cast h
    rw [hdigits, Nat.pow_succ', Nat.mul_left_comm, Nat.mul_mod_right] at hd
    exact hd rfl
  have hvalue : d.digits * 10 ^ d.exponent.toNat = n := by
    rw [value_of_nonneg hinteger] at h
    exact_mod_cast h
  have hpos : 0 < d.digits := Nat.pos_of_ne_zero fun hzero => hd (by rw [hzero])
  have hexponent : d.exponent.toNat < 16 := by
    refine (Nat.pow_lt_pow_iff_right (by norm_num : 1 < 10)).mp (lt_of_le_of_lt ?_ hn)
    rw [← hvalue]
    exact Nat.le_mul_of_pos_left _ hpos
  have hlength : (Nat.toDigits 10 d.digits).length ≤ 16 - d.exponent.toNat := by
    refine (Nat.length_toDigits_le_iff (by norm_num) (by omega)).mpr ?_
    refine Nat.lt_of_mul_lt_mul_right (a := 10 ^ d.exponent.toNat) ?_
    rwa [hvalue, ← Nat.pow_add, Nat.sub_add_cancel hexponent.le]
  rw [number]
  simp only
  rw [if_pos ⟨⟨by omega, by omega⟩, hinteger⟩, hvalue]

/-- And its sign is kept with it. -/
theorem number_eq_of_signed {d : Decimal} {negative : Bool} {n : Int} (hd : d.digits % 10 ≠ 0)
    (hn : |n| < 10 ^ 16) (h : signed negative d.value = n) :
    d.number negative = .integer n := by
  have hnonneg : 0 ≤ d.value := by
    rw [value]
    positivity
  have hvalue : d.value = (n.natAbs : Nat) := by
    rw [Nat.cast_natAbs, Int.cast_abs, ← h, Binary64.abs_signed, abs_of_nonneg hnonneg]
  rw [number_eq_integer negative hd (by have := abs_lt.mp hn; omega) hvalue]
  rw [hvalue] at h
  cases negative
  · have hpos : ((n.natAbs : Int) : ℚ) = n := h
    exact congrArg Number.integer (Int.cast_injective hpos)
  · have hneg : ((-n.natAbs : Int) : ℚ) = n := by
      rw [Int.cast_neg]
      exact h
    exact congrArg Number.integer (Int.cast_injective hneg)

end Decimal

namespace Binary64
variable {x y : Binary64} {p q t : ℚ} {d d' : Decimal} {negative : Bool} {m : Nat} {e : Int}

theorem isPoint_ten_pow {k : Nat} (hk : k ≤ 22) : IsPoint (10 ^ k) := by
  refine ⟨5 ^ k, k, ?_, ?_, ?_⟩
  · rw [abs_of_nonneg (by positivity)]
    calc (5 : Int) ^ k ≤ 5 ^ 22 := pow_le_pow_right₀ (by norm_num) hk
      _ ≤ 2 ^ 53 := by norm_num
  · show (-1074 : Int) ≤ k
    omega
  · push_cast
    rw [zpow_natCast, ← mul_pow]
    norm_num

theorem Fits.abs_le_greatest (h : x.Fits) : |x.value| ≤ greatest := by
  cases x with
  | finite negative m e =>
    obtain ⟨hm, _, he, _⟩ := h
    have hm' : (m : ℚ) ≤ 2 ^ 53 - 1 := by
      rw [le_sub_iff_add_le]
      exact_mod_cast hm
    rw [value, abs_signed, abs_of_nonneg (by positivity)]
    exact mul_le_mul hm' (zpow_le_zpow_right₀ one_le_two he) (zpow_pos two_pos e).le (by norm_num)
  | _ => exact h.elim

/-- What a value is rounded to has its sign, if there is a number that is nearer than zero. -/
theorem Rounds.exists_positive (h : y.Rounds (signed negative t)) (hp : IsPoint p)
    (hlt : |p - t| < t) :
    ∃ m e, y = .finite negative m e ∧ m ≠ 0 ∧ (Binary64.finite false m e).Rounds t := by
  cases y with
  | finite negative' m e =>
    have hclose := h.nearest _ (isPoint_signed negative hp)
    rw [abs_signed_sub] at hclose
    have hm : (0 : ℚ) ≤ m * 2 ^ e := by positivity
    have hsign : negative' = negative := by
      by_contra hne
      obtain rfl : negative' = !negative := by
        cases negative <;> cases negative' <;> first | rfl | exact absurd rfl hne
      have hother : signed (!negative) (m * 2 ^ e : ℚ) = signed negative (-(m * 2 ^ e)) := by
        cases negative <;> simp [signed]
      rw [value, hother, abs_signed_sub] at hclose
      have := neg_abs_le (-(m * 2 ^ e) - t : ℚ)
      linarith
    subst hsign
    refine ⟨m, e, rfl, ?_, h.fits, fun r hr => ?_⟩
    · rintro rfl
      rw [value, abs_signed_sub, Nat.cast_zero, zero_mul, zero_sub, abs_neg] at hclose
      have := le_abs_self t
      linarith
    · have hnearest := h.nearest _ (isPoint_signed negative' hr)
      rwa [value, abs_signed_sub, abs_signed_sub] at hnearest
  | _ => exact h.fits.elim

theorem greatest_bounds : (10 : ℚ) ^ (308 : Int) < greatest ∧ 2 * greatest < 10 ^ (309 : Int) := by
  have hgreatest : greatest = ((2 ^ 53 - 1) * 2 ^ 971 : Nat) := by
    rw [greatest, greatestExponent, zpow_ofNat, Nat.cast_mul, Nat.cast_pow]
    norm_num only [Nat.cast_ofNat]
  have hlow : 10 ^ 308 < (2 ^ 53 - 1) * 2 ^ 971 := by decide +kernel
  have hhigh : 2 * ((2 ^ 53 - 1) * 2 ^ 971) < 10 ^ 309 := by decide +kernel
  rw [hgreatest, zpow_ofNat, zpow_ofNat]
  exact ⟨by exact_mod_cast hlow, by exact_mod_cast hhigh⟩

section Lower
variable (hd : d.Shortens q) (h : (Binary64.finite false m e).Rounds d.value)
  (hnear : |(m * 2 ^ e : ℚ) - d.value| ≤ |q - d.value|)
  (hlower : (m * 2 ^ e : ℚ) < 10 ^ 15 * 10 ^ d.exponent)
include hd h hnear hlower

/-- A decimal from which rounding leads below its digits is a power of ten, and not one of those
that are numbers. -/
theorem digits_of_lower :
    d.digits = 10 ^ 15 ∧ (d.exponent + 15 < 0 ∨ 22 < d.exponent + 15) := by
  have hunit : (0 : ℚ) < 10 ^ d.exponent := zpow_pos (by norm_num) _
  have hdigits : d.digits = 10 ^ 15 := by
    refine le_antisymm ?_ hd.digits_bounds.1
    have hlow := (abs_le.mp (hnear.trans hd.abs_sub_value_le)).1
    have hlt : (d.digits : ℚ) * 10 ^ d.exponent < (10 ^ 15 + 1 : Nat) * 10 ^ d.exponent := by
      rw [Decimal.value] at hlow
      push_cast
      linarith
    exact Nat.lt_succ_iff.mp (Nat.cast_lt.mp (lt_of_mul_lt_mul_right hlt hunit.le))
  refine ⟨hdigits, ?_⟩
  -- rounding would not go below the power of ten if it were a number
  by_contra hmiddle
  obtain ⟨k, hk⟩ := Int.eq_ofNat_of_zero_le (by omega : 0 ≤ d.exponent + 15)
  have hpower : (10 : ℚ) ^ 15 * 10 ^ d.exponent = 10 ^ k := by
    rw [← zpow_natCast, ← zpow_natCast, ← zpow_add₀ (by norm_num), add_comm]
    exact congrArg _ hk
  have hpoint : IsPoint (10 ^ 15 * 10 ^ d.exponent) := by
    rw [hpower]
    exact isPoint_ten_pow (by omega)
  have hge := h.ge hpoint (by rw [Decimal.value, hdigits]; push_cast; rfl)
  exact absurd hlower (not_lt.mpr hge)

theorem value_of_lower : d.value = 10 ^ 15 * 10 ^ d.exponent := by
  rw [Decimal.value, (digits_of_lower hd h hnear hlower).1]
  push_cast
  rfl

/-- Values that are so large at most, and half as large at least, are no plain integers. -/
theorem far_of_lower {x : ℚ} (hle : x ≤ d.value) (hge : d.value ≤ 2 * x) : x < 1 ∨ 10 ^ 16 ≤ x := by
  have hpower : d.value = 10 ^ (d.exponent + 15) := by
    rw [value_of_lower hd h hnear hlower, zpow_add₀ (by norm_num), mul_comm]
    rfl
  rw [hpower] at hle hge
  rcases (digits_of_lower hd h hnear hlower).2 with hsmall | hlarge
  · have hpow : (10 : ℚ) ^ (d.exponent + 15) ≤ 10 ^ (-1 : Int) :=
      zpow_le_zpow_right₀ (by norm_num) (by omega)
    refine .inl ?_
    norm_num at hpow
    linarith
  · have hpow : (10 : ℚ) ^ (23 : Int) ≤ 10 ^ (d.exponent + 15) :=
      zpow_le_zpow_right₀ (by norm_num) (by omega)
    refine .inr ?_
    norm_num at hpow ⊢
    linarith

section Again
variable (hd' : d'.Shortens (m * 2 ^ e))
include hd'

omit hd h hnear in
/-- The digits are finer then. -/
theorem close_of_lower : |(m * 2 ^ e : ℚ) - d'.value| ≤ 10 ^ d.exponent / 20 := by
  have hlt : (10 : ℚ) ^ d'.exponent < 10 ^ d.exponent := by
    have := hd'.least
    linarith
  have hfiner : (10 : ℚ) ^ d'.exponent ≤ 10 ^ (d.exponent - 1) :=
    zpow_le_zpow_right₀ (by norm_num)
      (Int.le_sub_one_of_lt ((zpow_lt_zpow_iff_right₀ (by norm_num)).mp hlt))
  rw [zpow_sub_one₀ (by norm_num)] at hfiner
  have := hd'.abs_sub_value_le
  linarith

theorem value_le_of_lower : d'.value ≤ d.value ∧ d.value ≤ 2 * d'.value := by
  have hunit : (0 : ℚ) < 10 ^ d.exponent := zpow_pos (by norm_num) _
  have hvalue := value_of_lower hd h hnear hlower
  refine ⟨hd'.nearest.le hd.nearest.isShort (hvalue ▸ hlower.le), ?_⟩
  have hbelow := (abs_le.mp (hnear.trans hd.abs_sub_value_le)).1
  have hclose := (abs_le.mp (close_of_lower hlower hd')).2
  linarith

/-- No other number is as near to the finer digits. -/
theorem eq_of_lower {y : Binary64} (hy : y.Rounds (signed negative d'.value)) :
    y = .finite negative m e := by
  have hunit : (0 : ℚ) < 10 ^ d.exponent := zpow_pos (by norm_num) _
  have hfits : (Binary64.finite negative m e).Fits := h.fits
  have hbelow := (abs_le.mp (hnear.trans hd.abs_sub_value_le)).1
  rw [value_of_lower hd h hnear hlower] at hbelow
  have hlarge : (10 ^ 15 - 1) * (10 : ℚ) ^ d.exponent ≤ |(Binary64.finite negative m e).value| := by
    rw [value, abs_signed, abs_of_nonneg (by positivity)]
    linarith
  have hvalue : y.value = (Binary64.finite negative m e).value := by
    by_contra hne
    have hgap := hfits.le_mul_abs_sub hy.fits.isPoint hne
    have hclose := close_of_lower hlower hd'
    have hsame : |(Binary64.finite negative m e).value - signed negative d'.value| =
        |(m * 2 ^ e : ℚ) - d'.value| := abs_signed_sub ..
    have hnearest := hy.nearest _ hfits.isPoint
    have htriangle := abs_sub_le y.value (signed negative d'.value)
      (Binary64.finite negative m e).value
    rw [abs_sub_comm (signed negative d'.value)] at htriangle
    linarith
  refine hy.fits.eq_of_value hfits hvalue fun hzero => ?_
  rw [← hvalue, hzero, abs_zero] at hlarge
  linarith

/-- The finer digits are not too large for a number. -/
theorem lt_greatest_of_lower : d'.value < greatest := by
  obtain ⟨hlow, hhigh⟩ := greatest_bounds
  have hvalue := value_of_lower hd h hnear hlower
  have hpower : d.value = 10 ^ (d.exponent + 15) := by
    rw [hvalue, zpow_add₀ (by norm_num), mul_comm]
    rfl
  have hunit : (0 : ℚ) < 10 ^ d.exponent := zpow_pos (by norm_num) _
  have hbelow := (abs_le.mp (hnear.trans hd.abs_sub_value_le)).1
  have hfits := h.fits.abs_le_greatest
  rw [value, abs_signed, abs_of_nonneg (by positivity)] at hfits
  by_contra hinfinite
  have hlarge := (not_lt.mp hinfinite).trans (value_le_of_lower hd h hnear hlower hd').1
  rw [hpower] at hlarge
  have hexponent : 308 < d.exponent + 15 :=
    (zpow_lt_zpow_iff_right₀ (by norm_num)).mp (hlow.trans_le hlarge)
  have hmore : 2 * greatest < d.value := by
    rw [hpower]
    exact hhigh.trans_le (zpow_le_zpow_right₀ (by norm_num) (by omega))
  linarith only [hmore, hfits, hbelow, hvalue, hunit]

/-- What it is rounded to is shortened to other digits, but these are rounded to it again. -/
theorem number_of_lower : d'.stripZeros.number negative = .float (.finite negative m e) := by
  have hdigits := hd'.digits_ne_zero
  have hstripped := Decimal.stripZeros_ne_zero hdigits
  have hvalue := Decimal.value_stripZeros hdigits
  obtain ⟨hle, hge⟩ := value_le_of_lower hd h hnear hlower hd'
  rw [Decimal.number_eq_float negative hstripped
    (hvalue ▸ far_of_lower hd h hnear hlower hle hge)]
  rcases ofDecimal_spec negative d'.stripZeros.digits d'.stripZeros.exponent with hread | hread
  · congr 1
    refine eq_of_lower hd h hnear hlower hd' ?_
    rw [← hvalue]
    exact hread
  · have : greatest ≤ d'.value := hvalue ▸ hread.2
    exact absurd (lt_greatest_of_lower hd h hnear hlower hd') (not_lt.mpr this)

end Again

end Lower

/-- **Saving a number again.** What a file keeps of a number stays as it is when it is saved once
more, unless it is infinite. -/
theorem storedNumber_again {w : Value} (hx : x.Fits) (hw : Value.storedNumber x = some w)
    (hy : w.toBinary64? = some y) (hfinite : y.isFinite = true) :
    Value.storedNumber y = some w := by
  cases x with
  | finite negative m e =>
    rw [Value.storedNumber_finite] at hw
    cases hw
    by_cases hm : m = 0
    · subst hm
      have hzero : (kept 0 e).number negative = .integer 0 := by
        rw [kept, if_pos rfl]
        cases negative <;> decide +kernel
      rw [hzero] at hy ⊢
      cases hy
      rfl
    have hd := shortens_significant hm e
    have hkept : kept m e = (significant 16 m e).stripZeros := by rw [kept, if_neg hm]
    rw [hkept] at hy ⊢
    generalize significant 16 m e = d at hd hy
    have hdigits := hd.digits_ne_zero
    obtain ⟨y', hy', hread⟩ := d.stripZeros.number_spec negative
    cases hy.symm.trans hy'
    rw [Decimal.value_stripZeros hdigits] at hread
    have hrounds := hread.resolve_right fun hinfinite => by
      rw [hinfinite.1] at hfinite
      cases hfinite
    -- the number itself is nearer than zero, so what is read is positive too
    have hpoint : IsPoint (m * 2 ^ e) := Fits.isPoint (x := .finite false m e) hx
    obtain ⟨m', e', rfl, hm', hpositive⟩ := hrounds.exists_positive hpoint hd.abs_sub_value_lt
    have hnear : |(m' * 2 ^ e' : ℚ) - d.value| ≤ |(m * 2 ^ e : ℚ) - d.value| :=
      hpositive.nearest _ hpoint
    have hd' := shortens_significant hm' e'
    rw [Value.storedNumber_finite, kept, if_neg hm']
    by_cases hleast : (10 : ℚ) ^ 15 * 10 ^ d.exponent ≤ m' * 2 ^ e'
    · rw [hd.stripZeros_eq hd' hleast hnear]
    · have hlower := not_le.mp hleast
      have hfar := far_of_lower hd hpositive hnear hlower le_rfl
        (by linarith [abs_nonneg (m * 2 ^ e - d.value : ℚ), hd.abs_sub_value_lt])
      rw [Decimal.number_eq_float negative (Decimal.stripZeros_ne_zero hdigits)
        ((Decimal.value_stripZeros hdigits).symm ▸ hfar)] at hy ⊢
      rw [number_of_lower hd hpositive hnear hlower hd', ← Option.some.inj hy]
  | _ => exact hx.elim

end Binary64

/-! ### Integers -/

/-- An integer that a floating-point number has room for is kept. -/
theorem Value.storedNumber_ofInt {n : Int} (h : |n| ≤ 2 ^ 53) :
    storedNumber (Binary64.ofInt n) = some (.integer n) := by
  have hwithin := Binary64.within_ofInt h
  have hvalue : (Binary64.ofInt n).value = n := le_antisymm hwithin.le hwithin.ge
  have hfits := hwithin.fits
  by_cases hzero : n = 0
  · rw [hzero]
    decide +kernel
  generalize Binary64.ofInt n = x at hvalue hfits
  cases x with
  | finite negative m e =>
    have hm : m ≠ 0 := by
      rintro rfl
      refine hzero (Int.cast_eq_zero.mp (hvalue.symm.trans ?_))
      cases negative <;> simp [Binary64.value, signed]
    have hshort : Decimal.IsShort n :=
      ⟨n, 0, h.trans (by norm_num), by rw [zpow_zero, mul_one]⟩
    have hnear := Binary64.nearest_kept negative m e
    rw [hvalue] at hnear
    have hsigned := le_antisymm (hnear.le hshort le_rfl) (hnear.ge hshort le_rfl)
    have hdigits := (Binary64.shortens_significant hm e).digits_ne_zero
    have hstripped : (Binary64.kept m e).digits % 10 ≠ 0 := by
      rw [Binary64.kept, if_neg hm]
      exact Decimal.stripZeros_mod_ten hdigits
    rw [storedNumber_finite,
      Decimal.number_eq_of_signed hstripped (h.trans_lt (by norm_num)) hsigned]
    rfl
  | _ => exact hfits.elim

end SheetActions
