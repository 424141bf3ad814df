import SheetActions.Number.Binary64

/-! Arithmetic on floating-point numbers.

Each operation gives the floating-point number nearest to the exact result, so a
result is off by no more than its own rounding. Where an operand is infinite or no
number, sums follow the usual rules. -/
namespace SheetActions.Binary64

/-- The exact value of a finite number as a fraction. -/
def fraction? : Binary64 → Option (Int × Nat)
  | .finite negative m e =>
    let n := m * Nat.pow 2 e.toNat
    some (if negative then -(n : Int) else n, Nat.pow 2 (-e).toNat)
  | _ => none

/-- The number nearest to a fraction. -/
def ofFraction (num : Int) (den : Nat) : Binary64 :=
  ofRatio (num < 0) num.natAbs den

def add : Binary64 → Binary64 → Binary64
  | .nan, _ | _, .nan => .nan
  | .infinity a, .infinity b => if a = b then .infinity a else .nan
  | .infinity a, _ | _, .infinity a => .infinity a
  | x@(.finite ..), y@(.finite ..) =>
    match x.fraction?, y.fraction? with
    | some (n, d), some (n', d') => ofFraction (n * d' + n' * d) (d * d')
    | _, _ => .nan

/-- The number nearest to an integer multiple. -/
def scale (x : Binary64) (k : Nat) : Binary64 :=
  match x.fraction? with
  | some (n, d) => ofFraction (n * k) d
  | none => x

/-- The number nearest to a part of a number. -/
def divide (x : Binary64) (k : Nat) : Binary64 :=
  match x.fraction? with
  | some (n, d) => ofFraction n (d * k)
  | none => x

/-- The greatest integer that is not greater than a number. -/
def floor? (x : Binary64) : Option Int :=
  x.fraction?.map fun (n, d) => Int.fdiv n d

/-- The integer nearest to a number, a tie to the even one. -/
def round? (x : Binary64) : Option Int :=
  x.fraction?.map fun (n, d) =>
    if n < 0 then -(roundQuotient n.natAbs d : Int) else roundQuotient n.natAbs d

/-- The integer nearest to a number, a tie away from zero. -/
def roundAway? (x : Binary64) : Option Int :=
  x.fraction?.map fun (n, d) =>
    let r : Nat := (2 * n.natAbs + d) / (2 * d)
    if n < 0 then -(r : Int) else r

end SheetActions.Binary64
