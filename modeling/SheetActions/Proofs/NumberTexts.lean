import Mathlib.Algebra.Ring.Nat
import Mathlib.Data.List.TakeWhile
import SheetActions.Proofs.Spelled
import SheetActions.Workbook.Stored

/-! Numbers written as decimals and read again.

However a decimal is laid out, its text is a numeral again, and the number that it is read as
depends on the decimal only, once its trailing zeros are gone: an integer if it is written
without point and exponent, and else the floating-point number nearest to it
(`value_read?_layout`). So much is kept of a number in a file (`storedNumber_finite`). -/
namespace SheetActions

/-! ### Digits -/

theorem natOfDigits_append (l m : List Char) :
    natOfDigits (l ++ m) = 10 ^ m.length * natOfDigits l + natOfDigits m := by
  rw [natOfDigits, Nat.ofDigitChars_append, Nat.ofDigitChars_eq_ofDigitChars_zero]
  rfl

theorem natOfDigits_zeros (k : Nat) : natOfDigits (List.replicate k '0') = 0 := by
  rw [natOfDigits, Nat.ofDigitChars_replicate_zero, Nat.mul_zero]

namespace Numeral

/-! ### Reading -/

theorem isDigit_zeros {k : Nat} : ∀ c ∈ List.replicate k '0', c.isDigit = true := by
  intro c hc
  rw [List.eq_of_mem_replicate hc]
  rfl

/-- The sign in front of a numeral. -/
def minus (negative : Bool) : List Char :=
  if negative then ['-'] else []

theorem splitSign_append {l : List Char} (negative : Bool) (hl : l ≠ [])
    (h : ∀ c ∈ l.head?, c.isDigit = true) :
    splitSign (minus negative ++ l) = (negative, l) := by
  cases negative
  · cases l with
    | nil => exact absurd rfl hl
    | cons c l =>
      have hc := h c rfl
      show splitSign (c :: l) = _
      unfold splitSign
      split
      · rename_i heq
        cases heq
        cases hc
      · rename_i heq
        cases heq
        cases hc
      · rfl
  · rfl

theorem dropFinalNewline_of_not_mem {l : List Char} (h : '\n' ∉ l) : dropFinalNewline l = l := by
  rw [dropFinalNewline, if_neg]
  intro hlast
  exact h (List.mem_of_getLast? hlast)

section Parts
variable {negative : Bool} {whole part rest tail : List Char}

theorem not_mem_of_digits (h : ∀ c ∈ whole, c.isDigit = true) : '\n' ∉ whole :=
  fun hc => absurd (h _ hc) (by decide)

theorem not_mem_signed (h : '\n' ∉ rest) : '\n' ∉ minus negative ++ rest := by
  cases negative
  · exact h
  · simpa [minus] using h

/-- Digits alone are an integer numeral. -/
theorem read?_digits (hne : whole ≠ []) (h : ∀ c ∈ whole, c.isDigit = true) :
    read? (minus negative ++ whole) = some (.integer negative whole) := by
  have hempty : whole.isEmpty = false := by simpa using hne
  rw [read?, dropFinalNewline_of_not_mem (not_mem_signed (not_mem_of_digits h)),
    splitSign_append negative hne fun c hc => h c (List.mem_of_head? hc)]
  simp only [List.takeWhile_eq_self_iff.mpr h, List.dropWhile_eq_nil_iff.mpr h, List.isEmpty_nil,
    if_true, hempty, Bool.false_eq_true, if_false]

/-- With more behind the digits a numeral is a decimal one. -/
theorem read?_rest (hne : whole ≠ []) (h : ∀ c ∈ whole, c.isDigit = true) (hrest : rest ≠ [])
    (hstart : ∀ c ∈ rest.head?, c.isDigit = false) (hline : '\n' ∉ rest) :
    read? (minus negative ++ (whole ++ rest)) =
      (exponent? (fraction rest).2).map fun e =>
        .decimal negative (whole ++ (fraction rest).1) (e - (fraction rest).1.length) := by
  have hwhole : whole.isEmpty = false := by simpa using hne
  have hempty : rest.isEmpty = false := by simpa using hrest
  have hline' : '\n' ∉ whole ++ rest := by
    simp only [List.mem_append, not_or]
    exact ⟨not_mem_of_digits h, hline⟩
  obtain ⟨c, r, rfl⟩ := List.exists_cons_of_ne_nil hrest
  have hc : c.isDigit = false := hstart c rfl
  rw [read?, dropFinalNewline_of_not_mem (not_mem_signed hline'), splitSign_append negative]
  · simp only [List.takeWhile_append_of_pos h, List.dropWhile_append_of_pos h, List.takeWhile_cons,
      List.dropWhile_cons, hc, Bool.false_eq_true, if_false, List.append_nil, hwhole, hempty,
      Bool.false_and]
  · simp [hne]
  · intro d hd
    obtain ⟨a, l, rfl⟩ := List.exists_cons_of_ne_nil hne
    cases hd
    exact h d (List.mem_cons_self ..)

theorem fraction_point (h : ∀ c ∈ part, c.isDigit = true)
    (hstart : ∀ c ∈ tail.head?, c.isDigit = false) :
    fraction ('.' :: (part ++ tail)) = (part, tail) := by
  have htake : tail.takeWhile Char.isDigit = [] := by
    cases tail with
    | nil => rfl
    | cons c r => simp [hstart c rfl]
  have hdrop : tail.dropWhile Char.isDigit = tail := by
    cases tail with
    | nil => rfl
    | cons c r => simp [hstart c rfl]
  simp only [fraction, List.takeWhile_append_of_pos h, List.dropWhile_append_of_pos h, htake, hdrop,
    List.append_nil]

theorem exponent?_exponentText (e : Int) : exponent? (Decimal.exponentText e) = some e := by
  let digits :=
    List.replicate (2 - (Nat.toDigits 10 e.natAbs).length) '0' ++ Nat.toDigits 10 e.natAbs
  have hne : digits ≠ [] := by simp [digits]
  have hdigits : ∀ c ∈ digits, c.isDigit = true := by
    intro c hc
    rcases List.mem_append.mp hc with hc | hc
    · exact isDigit_zeros c hc
    · exact isDigit_of_mem hc
  have hvalue : natOfDigits digits = e.natAbs := by
    rw [natOfDigits_append, natOfDigits_zeros, natOfDigits_toDigits, Nat.mul_zero, Nat.zero_add]
  have hsplit : splitSign ((if e < 0 then '-' else '+') :: digits) = (decide (e < 0), digits) := by
    split
    · rename_i hneg
      simp [splitSign, hneg]
    · rename_i hneg
      simp [splitSign, hneg]
  show exponent? ('e' :: (if e < 0 then '-' else '+') :: digits) = some e
  simp only [exponent?, hsplit]
  rw [if_pos ⟨.inl trivial, hne, List.all_eq_true.mpr hdigits⟩, hvalue]
  split
  · rename_i hneg
    have : e < 0 := by simpa using hneg
    congr 1
    omega
  · rename_i hneg
    have : ¬ e < 0 := by simpa using hneg
    congr 1
    omega

/-- Digits with a point between them and an exponent behind them are a decimal numeral. -/
theorem read?_point {e : Int} (hne : whole ≠ []) (h : ∀ c ∈ whole, c.isDigit = true)
    (hpart : ∀ c ∈ part, c.isDigit = true) (hstart : ∀ c ∈ tail.head?, c.isDigit = false)
    (hline : '\n' ∉ tail) (he : exponent? tail = some e) :
    read? (minus negative ++ (whole ++ '.' :: (part ++ tail))) =
      some (.decimal negative (whole ++ part) (e - part.length)) := by
  rw [read?_rest hne h (List.cons_ne_nil _ _), fraction_point hpart hstart, he]
  · rfl
  · intro c hc
    cases hc
    rfl
  · simp only [List.mem_cons, List.mem_append, not_or]
    exact ⟨by decide, not_mem_of_digits hpart, hline⟩

theorem not_mem_exponentText (e : Int) : '\n' ∉ Decimal.exponentText e := by
  simp only [Decimal.exponentText, List.mem_cons, List.mem_append, not_or]
  refine ⟨by decide, ?_, not_mem_of_digits isDigit_zeros, not_mem_toDigits (by decide)⟩
  split <;> decide

theorem head_exponentText {e : Int} : ∀ c ∈ (Decimal.exponentText e).head?, c.isDigit = false := by
  intro c hc
  cases hc
  rfl

theorem read?_exponent (hne : whole ≠ []) (h : ∀ c ∈ whole, c.isDigit = true) (e : Int) :
    read? (minus negative ++ (whole ++ Decimal.exponentText e)) =
      some (.decimal negative whole e) := by
  have hfraction : fraction (Decimal.exponentText e) = ([], Decimal.exponentText e) := rfl
  have hsome : Decimal.exponentText e ≠ [] := List.cons_ne_nil _ _
  rw [read?_rest hne h hsome head_exponentText (not_mem_exponentText e), hfraction,
    exponent?_exponentText]
  simp

end Parts

end Numeral

/-! ### Layouts -/

namespace Decimal
variable {d : Decimal}

/-- A decimal without zeros at its end. -/
theorem stripZeros_spec (h : d.digits ≠ 0) :
    ∃ k : Nat, d.stripZeros.digits * 10 ^ k = d.digits ∧
      d.stripZeros.exponent = d.exponent + k := by
  let l := Nat.toDigits 10 d.digits
  let zeros := l.reverse.takeWhile (· = '0')
  let others := (l.reverse.dropWhile (· = '0')).reverse
  refine ⟨zeros.length, ?_, by simp only [stripZeros, if_neg h, zeros, l]⟩
  have hzeros : zeros.reverse = List.replicate zeros.length '0' := by
    refine List.eq_replicate_iff.mpr ⟨List.length_reverse, fun c hc => ?_⟩
    simpa using List.mem_takeWhile_imp (List.mem_reverse.mp hc)
  have hsplit : others ++ zeros.reverse = l := by
    rw [← List.reverse_append, List.takeWhile_append_dropWhile, List.reverse_reverse]
  have hvalue : d.digits = 10 ^ zeros.length * natOfDigits others := by
    calc d.digits = natOfDigits l := (natOfDigits_toDigits _).symm
      _ = natOfDigits (others ++ List.replicate zeros.length '0') := by rw [← hzeros, hsplit]
      _ = 10 ^ zeros.length * natOfDigits others := by
          rw [natOfDigits_append, natOfDigits_zeros, List.length_replicate, Nat.add_zero]
  show d.stripZeros.digits * 10 ^ zeros.length = d.digits
  have hdigits : d.stripZeros.digits = d.digits / 10 ^ zeros.length := by
    simp only [stripZeros, if_neg h, zeros, l, Nat.pow_eq]
  rw [hdigits]
  exact Nat.div_mul_cancel ⟨_, hvalue⟩

/-- The number that the text of a decimal is read as, where it has no zeros at its end. -/
def number (negative : Bool) (d : Decimal) : Number :=
  let leading : Int := d.exponent + (Nat.toDigits 10 d.digits).length - 1
  if (-4 ≤ leading ∧ leading < 16) ∧ 0 ≤ d.exponent then
    let n : Nat := d.digits * 10 ^ d.exponent.toNat
    .integer (if negative then -(n : Int) else n)
  else .float (Binary64.ofDecimal negative d.digits d.exponent)

section Texts
variable {l : List Char} (negative : Bool) (hne : l ≠ []) (h : ∀ c ∈ l, c.isDigit = true)
include h

/-- Zeros between the point and the digits only count in the exponent. -/
theorem value_read?_zeros (k : Nat) :
    (Numeral.read? (Numeral.minus negative ++ ('0' :: '.' :: (List.replicate k '0' ++ l)))).map
      Numeral.value =
        some (.float (Binary64.ofDecimal negative (natOfDigits l) (-(k + l.length : Nat)))) := by
  have hread : Numeral.read? (Numeral.minus negative ++
      (['0'] ++ '.' :: ((List.replicate k '0' ++ l) ++ []))) =
      some (.decimal negative (['0'] ++ (List.replicate k '0' ++ l))
        (0 - (List.replicate k '0' ++ l).length)) := by
    refine Numeral.read?_point (List.cons_ne_nil _ _) (by simp) (fun c hc => ?_) (by simp)
      (by simp) rfl
    rcases List.mem_append.mp hc with hc | hc
    · exact Numeral.isDigit_zeros c hc
    · exact h c hc
  have hzero : natOfDigits ['0'] = 0 := rfl
  rw [List.append_nil] at hread
  show (Numeral.read? (Numeral.minus negative ++ (['0'] ++ '.' :: _))).map _ = _
  rw [hread, Option.map_some, Numeral.value, natOfDigits_append, natOfDigits_append,
    natOfDigits_zeros, hzero, Nat.mul_zero, Nat.mul_zero, Nat.zero_add, Nat.zero_add,
    List.length_append, List.length_replicate, Int.zero_sub]

include hne

/-- The exponent counts from the point on. -/
theorem value_read?_point {k : Nat} (hk : 0 < k) :
    (Numeral.read? (Numeral.minus negative ++ (l.take k ++ '.' :: l.drop k))).map Numeral.value =
      some (.float (Binary64.ofDecimal negative (natOfDigits l) (-(l.length - k : Nat)))) := by
  have hread : Numeral.read? (Numeral.minus negative ++ (l.take k ++ '.' :: (l.drop k ++ []))) =
      some (.decimal negative (l.take k ++ l.drop k) (0 - (l.drop k).length)) := by
    refine Numeral.read?_point ?_ (fun c hc => h c (List.mem_of_mem_take hc))
      (fun c hc => h c (List.mem_of_mem_drop hc)) (by simp) (by simp) rfl
    simp only [ne_eq, List.take_eq_nil_iff, hne, or_false]
    omega
  rw [List.append_nil, List.take_append_drop] at hread
  rw [hread, Option.map_some, Numeral.value, List.length_drop, Int.zero_sub]

/-- With an exponent behind them the digits have their point behind the first one. -/
theorem value_read?_exponent (e : Int) :
    (Numeral.read? (Numeral.minus negative ++
      (l.take 1 ++ (if l.length = 1 then [] else '.' :: l.drop 1) ++ exponentText e))).map
        Numeral.value =
      some (.float (Binary64.ofDecimal negative (natOfDigits l) (e - (l.length - 1 : Nat)))) := by
  by_cases hone : l.length = 1
  · have htake : l.take 1 = l := List.take_of_length_le (Nat.le_of_eq hone)
    rw [if_pos hone, List.append_nil, htake, Numeral.read?_exponent hne h, Option.map_some,
      Numeral.value, hone, Nat.sub_self, Int.natCast_zero, Int.sub_zero]
  · have hread : Numeral.read? (Numeral.minus negative ++
        (l.take 1 ++ '.' :: (l.drop 1 ++ exponentText e))) =
        some (.decimal negative (l.take 1 ++ l.drop 1) (e - (l.drop 1).length)) := by
      refine Numeral.read?_point ?_ (fun c hc => h c (List.mem_of_mem_take hc))
        (fun c hc => h c (List.mem_of_mem_drop hc)) Numeral.head_exponentText
        (Numeral.not_mem_exponentText _) (Numeral.exponent?_exponentText _)
      simp [hne]
    rw [List.take_append_drop] at hread
    rw [if_neg hone, List.append_assoc, List.cons_append, hread, Option.map_some, Numeral.value,
      List.length_drop]

end Texts

/-- The text of a decimal is a numeral for its number. -/
theorem value_read?_layout (negative : Bool) (d : Decimal) :
    (Numeral.read? (Numeral.minus negative ++ d.layout false)).map Numeral.value =
      some (d.stripZeros.number negative) := by
  rw [layout, number]
  generalize d.stripZeros = d
  have hne : Nat.toDigits 10 d.digits ≠ [] := Nat.toDigits_ne_nil
  have hdigits : ∀ c ∈ Nat.toDigits 10 d.digits, c.isDigit = true := fun c hc => isDigit_of_mem hc
  have hvalue := natOfDigits_toDigits d.digits
  have hpos : 0 < (Nat.toDigits 10 d.digits).length := Nat.length_toDigits_pos
  generalize Nat.toDigits 10 d.digits = l at hne hdigits hvalue hpos
  simp only [Bool.false_eq_true, if_false, List.append_nil]
  by_cases hplain : -4 ≤ d.exponent + (l.length : Int) - 1 ∧ d.exponent + (l.length : Int) - 1 < 16
  · rw [if_pos hplain]
    by_cases hinteger : 0 ≤ d.exponent
    · -- with zeros behind the digits and nothing else it is an integer
      have hall : ∀ c ∈ l ++ List.replicate d.exponent.toNat '0', c.isDigit = true := by
        intro c hc
        rcases List.mem_append.mp hc with hc | hc
        · exact hdigits c hc
        · exact Numeral.isDigit_zeros c hc
      rw [if_pos hinteger, if_pos (And.intro hplain hinteger),
        Numeral.read?_digits (List.append_ne_nil_of_left_ne_nil hne _) hall, Option.map_some,
        Numeral.value, natOfDigits_append, natOfDigits_zeros, Nat.add_zero, List.length_replicate,
        hvalue, Nat.mul_comm]
    · rw [if_neg hinteger, if_neg (not_and_of_not_right _ hinteger)]
      by_cases hsmall : d.exponent + (l.length : Int) - 1 < 0
      · rw [if_pos hsmall, value_read?_zeros negative hdigits, hvalue]
        congr
        omega
      · rw [if_neg hsmall, value_read?_point negative hne hdigits (Nat.succ_pos _), hvalue]
        congr
        omega
  · rw [if_neg hplain, if_neg (not_and_of_not_left _ hplain),
      value_read?_exponent negative hne hdigits, hvalue]
    congr
    omega

end Decimal

/-! ### Stored numbers -/

/-- The decimal of a number in a file. -/
def Binary64.kept (m : Nat) (e : Int) : Decimal :=
  (if m = 0 then ⟨0, 0⟩ else Binary64.significant 16 m e).stripZeros

/-- A file keeps of a number what its decimal of sixteen digits is read as. -/
theorem Value.storedNumber_finite (negative : Bool) (m : Nat) (e : Int) :
    storedNumber (.finite negative m e) =
      some ((Binary64.kept m e).number negative).toValue := by
  have hread := Decimal.value_read?_layout negative
    (if m = 0 then ⟨0, 0⟩ else Binary64.significant 16 m e)
  rw [storedNumber]
  have htext : (Binary64.finite negative m e).storedText.toList = Numeral.minus negative ++
      (if m = 0 then (⟨0, 0⟩ : Decimal) else Binary64.significant 16 m e).layout false :=
    String.toList_ofList
  rw [htext]
  obtain ⟨n, hn, hvalue⟩ := Option.map_eq_some_iff.mp hread
  rw [hn, Option.map_some, hvalue]
  rfl

end SheetActions
