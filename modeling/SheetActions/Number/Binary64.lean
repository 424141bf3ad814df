/-! Binary floating-point numbers of 64 bits, as exact values.

A finite number is a signed natural mantissa times a power of two. `ofRatio`
rounds a quotient to the nearest such number, a tie to the even mantissa, and is
the only source of finite numbers: a mantissa has at most 53 bits, and it has
fewer only at the least exponent. No machine arithmetic is used, so each
function can be reasoned about as arithmetic on integers. Powers are written
`Nat.pow`: what `^` stands for depends on the instances in scope. -/
namespace SheetActions

/-- A finite number has the value `mantissa * 2 ^ exponent`, negated if `negative`. -/
inductive Binary64 where
  | finite (negative : Bool) (mantissa : Nat) (exponent : Int)
  | infinity (negative : Bool)
  | nan
deriving DecidableEq, Repr

/-- The quotient rounded to the nearest integer, a tie to the even one. -/
def roundQuotient (num den : Nat) : Nat :=
  let q := num / den
  match compare (2 * (num % den)) den with
  | .lt => q
  | .gt => q + 1
  | .eq => if q % 2 = 0 then q else q + 1

/-- The rounded quotient is within half a unit of the exact one. -/
theorem roundQuotient_near (num : Nat) {den : Nat} (h : 0 < den) :
    2 * (roundQuotient num den * den) ≤ 2 * num + den ∧
      2 * num ≤ 2 * (roundQuotient num den * den) + den := by
  have e : den * (num / den) + num % den = num := Nat.div_add_mod num den
  have l : num % den < den := Nat.mod_lt _ h
  have hs : (num / den + 1) * den = den * (num / den) + den := by
    rw [Nat.add_mul, Nat.mul_comm]
    simp
  have hq : num / den * den = den * (num / den) := Nat.mul_comm ..
  simp only [roundQuotient]
  split
  · rename_i hc; rw [Nat.compare_eq_lt] at hc; omega
  · rename_i hc; rw [Nat.compare_eq_gt] at hc; omega
  · rename_i hc; rw [Nat.compare_eq_eq] at hc; split <;> omega

namespace Binary64

/-- The least exponent of a finite number. -/
def leastExponent : Int := -1074

/-- The greatest exponent of a finite number. -/
def greatestExponent : Int := 971

def zero : Binary64 := .finite false 0 leastExponent

/-- `num * 2 ^ (-e) / den` as numerator and denominator. -/
def scaledRatio (num den : Nat) (e : Int) : Nat × Nat :=
  (num * Nat.pow 2 (-e).toNat, den * Nat.pow 2 e.toNat)

/-- The exponent at which a positive quotient has an integer part of 53 bits, or the
least exponent. -/
def exponentOf (num den : Nat) : Int :=
  let low : Int := (num.log2 : Int) - den.log2 - 53
  let (n, d) := scaledRatio num den low
  max leastExponent (if n / d < Nat.pow 2 53 then low else low + 1)

/-- The number nearest to `num / den`, a tie to the even mantissa; infinite when it is
too large. -/
def ofRatio (negative : Bool) (num den : Nat) : Binary64 :=
  if num = 0 then .finite negative 0 leastExponent
  else
    let e := exponentOf num den
    let (n, d) := scaledRatio num den e
    let m := roundQuotient n d
    let (m, e) := if m = Nat.pow 2 53 then (Nat.pow 2 52, e + 1) else (m, e)
    if e > greatestExponent then .infinity negative else .finite negative m e

/-- The number nearest to `digits * 10 ^ exponent`. Beyond the range of finite numbers
the powers of ten are not formed. -/
def ofDecimal (negative : Bool) (digits : Nat) (exponent : Int) : Binary64 :=
  let magnitude : Int := digits.log2 * 3 / 10 + exponent
  if digits = 0 then .finite negative 0 leastExponent
  else if magnitude > 400 then .infinity negative
  else if (digits.log2 : Int) / 3 + 1 + exponent < -400 then .finite negative 0 leastExponent
  else ofRatio negative (digits * Nat.pow 10 exponent.toNat)
    (Nat.pow 10 (-exponent).toNat)

/-- The number nearest to an integer. -/
def ofInt (n : Int) : Binary64 :=
  ofRatio (n < 0) n.natAbs 1

def isFinite : Binary64 → Bool
  | .finite .. => true
  | _ => false

/-- The integer that a number equals, if there is one. -/
def toInt? : Binary64 → Option Int
  | .finite negative m e =>
    let n := m * Nat.pow 2 e.toNat
    let d := Nat.pow 2 (-e).toNat
    if n % d = 0 then some (if negative then -(n / d : Nat) else (n / d : Nat)) else none
  | _ => none

end Binary64

end SheetActions
