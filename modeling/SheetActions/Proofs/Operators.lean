import Mathlib.Order.WithBot
import Mathlib.Order.Compare
import SheetActions.Proofs.Decimals
import SheetActions.Proofs.Searching

/-! The operators of a condition, together.

Searches that differ only in their operator find rows that fit together (`comparisons_agree`).
Of equality and inequality one finds a row of data and the other does not. With a numeral as the
value, each row with a number is found by one of less, equal and greater, and no other row is.

This rests on two facts. Numbers are compared exactly, as points of the line of rational numbers
and its two ends (`Number.compare?_compares`). And where the cell is no number, its text is not
that of a numeral either (`Criterion.judged`). -/
namespace SheetActions

/-! ### The line of numbers -/

namespace Number

/-- Where a number stands on the line of rational numbers with an end on each side. What is not a
number is put to the lower end. -/
def place : Number → WithBot (WithTop ℚ)
  | .integer n => ((n : ℚ) : WithTop ℚ)
  | .float (.infinity false) => (⊤ : WithTop ℚ)
  | .float (.infinity true) | .float .nan => ⊥
  | .float x => (x.value : WithTop ℚ)

/-- The same for the form in which numbers are compared. -/
def Extended.place : Extended → WithBot (WithTop ℚ)
  | .least => ⊥
  | .scaled m e => ((m * 2 ^ e : ℚ) : WithTop ℚ)
  | .greatest => (⊤ : WithTop ℚ)

theorem exists_extended? {n : Number} (h : n ≠ .float .nan) :
    ∃ x, n.extended? = some x ∧ x.place = n.place := by
  cases n with
  | integer n => exact ⟨_, rfl, by simp [place, Extended.place]⟩
  | float x =>
    cases x with
    | nan => exact absurd rfl h
    | infinity negative => cases negative <;> exact ⟨_, rfl, rfl⟩
    | finite negative m e =>
      refine ⟨_, rfl, ?_⟩
      cases negative <;> simp [place, Extended.place, Binary64.value, signed]

/-- Scaling by a power of two keeps the order. -/
theorem compareScaled_compares (m e n f : Int) :
    (compareScaled m e n f).Compares ((m : ℚ) * 2 ^ e) (n * 2 ^ f) := by
  have hunit : (0 : ℚ) < 2 ^ min e f := by positivity
  have hmono : StrictMono fun i : Int => (i : ℚ) * 2 ^ min e f := by
    intro i j h
    exact mul_lt_mul_of_pos_right (by exact_mod_cast h) hunit
  have hscale : ∀ i g : Int, min e f ≤ g →
      ((i * Nat.pow 2 (g - min e f).toNat : Int) : ℚ) * 2 ^ min e f = i * 2 ^ g := by
    intro i g hg
    have hsplit : (2 : ℚ) ^ g = 2 ^ (g - min e f).toNat * 2 ^ min e f := by
      rw [← zpow_natCast, Int.toNat_of_nonneg (by omega), ← zpow_add₀ (by norm_num)]
      congr 1
      omega
    rw [hsplit, Nat.pow_eq]
    push_cast
    ring
  rw [← hscale m e (min_le_left e f), ← hscale n f (min_le_right e f)]
  refine hmono.compares.mpr ?_
  rw [compareScaled, ← cmp_eq_compare]
  exact cmp_compares _ _

theorem Extended.compare_compares (x y : Extended) : (x.compare y).Compares x.place y.place := by
  cases x with
  | least =>
    cases y with
    | least => rfl
    | scaled => exact WithBot.bot_lt_coe _
    | greatest => exact WithBot.bot_lt_coe _
  | greatest =>
    cases y with
    | least => exact WithBot.bot_lt_coe _
    | scaled => exact WithBot.coe_lt_coe.mpr (WithTop.coe_lt_top _)
    | greatest => rfl
  | scaled m e =>
    cases y with
    | least => exact WithBot.bot_lt_coe _
    | greatest => exact WithBot.coe_lt_coe.mpr (WithTop.coe_lt_top _)
    | scaled n f =>
      exact (WithBot.coe_strictMono.comp WithTop.coe_strictMono).compares.mpr
        (compareScaled_compares m e n f)

/-- Numbers are compared exactly. -/
theorem compare?_compares {a b : Number} (ha : a ≠ .float .nan) (hb : b ≠ .float .nan) :
    ∃ o, a.compare? b = some o ∧ o.Compares a.place b.place := by
  obtain ⟨x, hx, hplace⟩ := exists_extended? ha
  obtain ⟨y, hy, hplace'⟩ := exists_extended? hb
  rw [← hplace, ← hplace']
  exact ⟨x.compare y, by rw [compare?, hx, hy], x.compare_compares y⟩

end Number

/-- A numeral denotes a number. -/
theorem Numeral.value_ne_nan (numeral : Numeral) : numeral.value ≠ .float .nan := by
  cases numeral with
  | integer => exact Number.noConfusion
  | decimal negative digits exponent =>
    intro h
    have hnan : Binary64.ofDecimal negative (natOfDigits digits) exponent = .nan :=
      Number.float.inj h
    rcases Binary64.ofDecimal_spec negative (natOfDigits digits) exponent with hrounds | ⟨hinf, _⟩
    · have hfits := hrounds.fits
      rw [hnan] at hfits
      exact hfits
    · rw [hnan] at hinf
      cases hinf

/-! ### One cell -/

namespace Criterion
variable {cell : Option Value} {k : Criterion} {value : String}

theorem number?_of_ofText (h : ofText value = .ok k) :
    k.number? = (Numeral.read? (Text.trim value).toList).map Numeral.value := by
  rw [(ofText_eq_ok_iff.mp h).2]

theorem read?_of_cellNumber (h : cellNumber cell = .ok none) :
    Numeral.read? (Text.trim (renderCell cell)).toList = none := by
  have hnumber : numberOf (Text.trim (renderCell cell)) = .ok none := by
    unfold cellNumber at h
    split at h
    · cases h
    · exact h
  rcases numberOf_cases (Text.trim (renderCell cell)) with
    ⟨hread, _⟩ | ⟨_, _, _, hsome⟩ | ⟨_, _, herror⟩
  · exact hread
  · cases hnumber.symm.trans hsome
  · cases hnumber.symm.trans herror

/-- The number of a cell is one, unless the cell holds what is not a number. -/
theorem ne_nan_of_cellNumber {n : Number} (h : cellNumber cell = .ok (some n))
    (hcell : cell ≠ some (.float .nan)) : n ≠ .float .nan := by
  unfold cellNumber at h
  split at h
  · rename_i m hm
    cases h
    obtain ⟨v, rfl, hv⟩ := Option.bind_eq_some_iff.mp hm
    rintro rfl
    cases v with
    | float x =>
      cases hv
      exact hcell rfl
    | _ => cases hv
  · rcases numberOf_cases (Text.trim (renderCell cell)) with
      ⟨_, hnone⟩ | ⟨numeral, _, _, hsome⟩ | ⟨_, _, herror⟩
    · cases h.symm.trans hnone
    · cases h.symm.trans hsome
      exact numeral.value_ne_nan
    · cases h.symm.trans herror

/-- How a cell is compared with a value, whatever the comparison: as two numbers, or as two texts,
which then differ if the value is a numeral. -/
inductive Judged (k : Criterion) (value : String) (cell : Option Value) : Prop where
  | numbers {a b : Number} {o : Ordering} : HoldsNumber cell → Text.IsNumeric value →
      cellNumber cell = .ok (some a) → numberOf (Text.trim value) = .ok (some b) →
      o.Compares a.place b.place → (∀ c, k.admits c cell = .ok (c.holds (some o))) →
      Judged k value cell
  | texts {s t : String} : ¬ (HoldsNumber cell ∧ Text.IsNumeric value) →
      (Text.IsNumeric value → s ≠ t) → (∀ c, k.admits c cell = .ok (c.holdsText s t)) →
      Judged k value cell

/-- Every cell that can be compared is judged. -/
theorem judged (hcell : ∀ s, cell ≠ some (.other s)) (hshort : ¬ HoldsOverlong cell)
    (hnan : cell ≠ some (.float .nan)) (hof : ofText value = .ok k) : Judged k value cell := by
  obtain ⟨hvalue, rfl⟩ := ofText_eq_ok_iff.mp hof
  rcases cellNumber_cases hcell with
    ⟨hnone, _, hnumber⟩ | ⟨hsome, _, a, hnumber⟩ | ⟨hlong, _⟩
  · refine .texts (fun h => hnone h.1) (fun hnumeric heq => ?_)
      fun c => admits_of_text hnumber (.inl rfl)
    have hread := read?_of_cellNumber hnumber
    rw [heq] at hread
    rw [Text.IsNumeric, hread] at hnumeric
    cases hnumeric
  · rcases numberOf_cases (Text.trim value) with
      ⟨hread, _⟩ | ⟨numeral, hread, _, hb⟩ | ⟨hlong, _⟩
    · have hnumeric : ¬ Text.IsNumeric value := by
        rw [Text.IsNumeric, hread]
        exact Bool.false_ne_true
      exact .texts (fun h => hnumeric h.2) (fun h => absurd h hnumeric)
        fun c => admits_of_text hnumber (.inr (by rw [hread]; rfl))
    · have hnumeric : Text.IsNumeric value := by
        rw [Text.IsNumeric, hread]
        rfl
      obtain ⟨o, ho, hcompares⟩ := Number.compare?_compares (ne_nan_of_cellNumber hnumber hnan)
        numeral.value_ne_nan
      refine .numbers hsome hnumeric hnumber hb hcompares fun c => ?_
      rw [admits_of_number hnumber (by rw [hread]; rfl), ho]
    · exact absurd hlong hvalue
  · exact absurd hlong hshort

/-- Whatever is not found by equality is found by inequality. -/
theorem Judged.admits_notEqual_iff (h : Judged k value cell) :
    k.admits .notEqual cell = .ok true ↔ ¬ k.admits .equal cell = .ok true := by
  cases h with
  | numbers _ _ _ _ _ hadmits => simp [hadmits, Comparison.holds]
  | texts _ _ hadmits => simp [hadmits, Comparison.holdsText]

/-- With a numeral as the value, a cell with a number stands in one order to it, and any other
cell in none. -/
theorem Judged.admits_of_numeric (h : Judged k value cell) (hnumeric : Text.IsNumeric value) :
    (HoldsNumber cell ∧
        ∃ o : Ordering, ∀ c, k.admits c cell = .ok true ↔ c.holds (some o) = true) ∨
      (¬ HoldsNumber cell ∧ ∀ c, k.admits c cell = .ok true → c = .notEqual) := by
  cases h with
  | @numbers _ _ o hsome _ _ _ _ hadmits =>
    exact .inl ⟨hsome, o, fun c => by simp [hadmits]⟩
  | texts hnot hne hadmits =>
    refine .inr ⟨fun hsome => hnot ⟨hsome, hnumeric⟩, fun c hc => ?_⟩
    rw [hadmits] at hc
    cases c <;> simp_all [Comparison.holdsText]

/-- Two numbers are compared as the points that they are. -/
theorem Judged.admits_iff_place {a b : Number} (h : Judged k value cell)
    (hcell : ∀ s, cell ≠ some (.other s)) (ha : cellNumber cell = .ok (some a))
    (hb : numberOf (Text.trim value) = .ok (some b)) :
    (k.admits .less cell = .ok true ↔ a.place < b.place) ∧
      (k.admits .equal cell = .ok true ↔ a.place = b.place) ∧
      (k.admits .greater cell = .ok true ↔ b.place < a.place) := by
  cases h with
  | numbers _ _ ha' hb' hcompares hadmits =>
    cases ha.symm.trans ha'
    cases hb.symm.trans hb'
    simp only [hadmits, Comparison.holds, Except.ok.injEq, decide_eq_true_eq]
    exact ⟨hcompares.eq_lt, hcompares.eq_eq, hcompares.eq_gt⟩
  | texts hnot _ _ =>
    refine absurd ⟨?_, ?_⟩ hnot
    · rcases cellNumber_cases hcell with ⟨_, _, hnone⟩ | ⟨hsome, _⟩ | ⟨_, _, herror⟩
      · cases ha.symm.trans hnone
      · exact hsome
      · cases ha.symm.trans herror
    · rcases numberOf_cases (Text.trim value) with ⟨_, hnone⟩ | ⟨_, hread, _⟩ | ⟨_, _, herror⟩
      · cases hb.symm.trans hnone
      · rw [Text.IsNumeric, hread]
        rfl
      · cases hb.symm.trans herror

end Criterion

/-! ### All rows -/

/-- The rows found by equality and by inequality share out the rows of data. -/
structure Splits (R : Comparison → List Nat) (data : Nat → Prop) : Prop where
  disjoint : (R .equal).Disjoint (R .notEqual)
  union : ∀ i, i ∈ R .equal ∨ i ∈ R .notEqual ↔ data i

/-- The rows found by the orderings are in three parts, which share out the rows with numbers. -/
structure Trichotomy (R : Comparison → List Nat) (numbers : Nat → Prop) : Prop where
  less_equal : (R .less).Disjoint (R .equal)
  less_greater : (R .less).Disjoint (R .greater)
  equal_greater : (R .equal).Disjoint (R .greater)
  lessOrEqual : ∀ i, i ∈ R .lessOrEqual ↔ i ∈ R .less ∨ i ∈ R .equal
  greaterOrEqual : ∀ i, i ∈ R .greaterOrEqual ↔ i ∈ R .greater ∨ i ∈ R .equal
  union : ∀ i, i ∈ R .less ∨ i ∈ R .equal ∨ i ∈ R .greater ↔ numbers i

namespace Reading
variable {v : Reading} {k : Criterion} {value : String} {column : Nat} {rows : List Nat}

section Judged
variable (judged : ∀ i ∈ rows, Criterion.Judged k value (v.cell i column))
include judged

theorem splits_admitted : Splits (fun c => v.admitted k c column rows) (· ∈ rows) where
  disjoint := by
    intro i hequal hnotEqual
    obtain ⟨hi, hequal⟩ := mem_admitted.mp hequal
    exact (judged i hi).admits_notEqual_iff.mp (mem_admitted.mp hnotEqual).2 hequal
  union := by
    intro i
    simp only [mem_admitted, ← and_or_left]
    exact and_iff_left_of_imp fun hi => by
      rw [(judged i hi).admits_notEqual_iff]
      exact Classical.em _

variable (hnumeric : Text.IsNumeric value) {a b c : Comparison}
include hnumeric

/-- Comparisons that exclude each other in every order find different rows. -/
theorem disjoint_admitted (ha : a ≠ .notEqual)
    (h : ∀ o : Ordering, (a.holds (some o) && b.holds (some o)) = false) :
    (v.admitted k a column rows).Disjoint (v.admitted k b column rows) := by
  intro i hia hib
  obtain ⟨hi, hia⟩ := mem_admitted.mp hia
  obtain ⟨_, hib⟩ := mem_admitted.mp hib
  rcases (judged i hi).admits_of_numeric hnumeric with ⟨_, o, ho⟩ | ⟨_, honly⟩
  · have hboth := h o
    rw [(ho a).mp hia, (ho b).mp hib] at hboth
    cases hboth
  · exact ha (honly a hia)

/-- A comparison that in every order says the same as one or the other of two finds what both
find. -/
theorem mem_admitted_iff_or (ha : a ≠ .notEqual) (hb : b ≠ .notEqual) (hc : c ≠ .notEqual)
    (h : ∀ o : Ordering, a.holds (some o) = (b.holds (some o) || c.holds (some o))) (i : Nat) :
    i ∈ v.admitted k a column rows ↔
      i ∈ v.admitted k b column rows ∨ i ∈ v.admitted k c column rows := by
  simp only [mem_admitted, ← and_or_left]
  refine and_congr_right fun hi => ?_
  rcases (judged i hi).admits_of_numeric hnumeric with ⟨_, o, ho⟩ | ⟨_, honly⟩
  · rw [ho, ho, ho, h o, Bool.or_eq_true]
  · have hnot : ∀ c : Comparison, c ≠ .notEqual → ¬ k.admits c (v.cell i column) = .ok true :=
      fun c hc hadmits => hc (honly c hadmits)
    simp only [hnot a ha, hnot b hb, hnot c hc, or_self]

/-- In every order one of three comparisons holds, so they find all numbers. -/
theorem mem_admitted_iff_holdsNumber (i : Nat) :
    (i ∈ v.admitted k .less column rows ∨ i ∈ v.admitted k .equal column rows ∨
      i ∈ v.admitted k .greater column rows) ↔
        i ∈ rows ∧ Criterion.HoldsNumber (v.cell i column) := by
  simp only [mem_admitted, ← and_or_left]
  refine and_congr_right fun hi => ?_
  rcases (judged i hi).admits_of_numeric hnumeric with ⟨hsome, o, ho⟩ | ⟨hnone, honly⟩
  · refine iff_of_true ?_ hsome
    rw [ho, ho, ho]
    cases o <;> decide
  · refine iff_of_false ?_ hnone
    rintro (h | h | h) <;> cases honly _ h

theorem trichotomy_admitted :
    Trichotomy (fun c => v.admitted k c column rows)
      fun i => i ∈ rows ∧ Criterion.HoldsNumber (v.cell i column) where
  less_equal := disjoint_admitted judged hnumeric (by decide) fun o => by cases o <;> rfl
  less_greater := disjoint_admitted judged hnumeric (by decide) fun o => by cases o <;> rfl
  equal_greater := disjoint_admitted judged hnumeric (by decide) fun o => by cases o <;> rfl
  lessOrEqual := mem_admitted_iff_or judged hnumeric (by decide) (by decide) (by decide)
    fun o => by cases o <;> rfl
  greaterOrEqual := mem_admitted_iff_or judged hnumeric (by decide) (by decide) (by decide)
    fun o => by cases o <;> rfl
  union := mem_admitted_iff_holdsNumber judged hnumeric

end Judged

end Reading

namespace SearchRequest
variable {r : SearchRequest} {d : Directory} {column : Nat} {k : Criterion} {v : Reading}

/-- An answer that lists rows: their indices in decimal digits with commas between them, and how
many they are. -/
structure Lists (o : Outcome) (rows : List Nat) : Prop where
  success : o.returnCode = "0"
  result : o.returnResult = ",".intercalate (rows.map toString)
  count : o.outputs = [("rowsCount", toString rows.length)]

theorem lists_outcome (rows : List Nat) : Lists (outcome rows) rows := ⟨rfl, rfl, rfl⟩

/-- The same request with another operator. -/
def comparing (r : SearchRequest) (c : Comparison) : SearchRequest :=
  { r with comparison := c }

theorem isNumeric_iff (h : Criterion.ofText r.value = .ok k) :
    Text.IsNumeric r.value ↔ k.number?.isSome = true := by
  rw [Criterion.number?_of_ofText h, Option.isSome_map]
  rfl

theorem Ready.comparing {c : Comparison} (ready : r.Ready d column k v)
    (h : c.isOrdering = true → Text.IsNumeric r.value) : (r.comparing c).Ready d column k v :=
  { ready with numeric := fun ho => (isNumeric_iff ready.value).mp (h ho) }

/-- **Operators.** A search succeeds in a column where no cell holds what is not a number. Then it
succeeds with every other operator too, an ordering only if the value is a numeral, and each answer
lists its rows in ascending order and counts them. The rows found by equality and by inequality
share out the rows of data. If the value is a numeral, then those found by less, equal and greater
share out the rows of data with numbers, the other two orderings find what they say, and numbers are
compared exactly. -/
theorem comparisons_agree (r : SearchRequest) (d : Directory) (v : Reading) (column : Nat)
    (hread : d.read (Text.trim r.file) (Text.trim r.sheet) = .ok v)
    (hcolumn : r.column = some column) (noNan : ∀ i, v.cell i column ≠ some (.float .nan))
    (success : (r.run d).isSuccess = true) :
    let data (i : Nat) := r.firstRow + (if r.hasHeader then 1 else 0) ≤ i ∧ i < v.rowCount
    ∃ R : Comparison → List Nat,
      (∀ c, (c.isOrdering = true → Text.IsNumeric r.value) →
        Lists ((r.comparing c).run d) (R c)) ∧
      (∀ c, (R c).Pairwise (· < ·)) ∧ Splits R data ∧
      (Text.IsNumeric r.value →
        Trichotomy R (fun i => data i ∧ Criterion.HoldsNumber (v.cell i column)) ∧
        ∀ i a b, data i → Criterion.cellNumber (v.cell i column) = .ok (some a) →
          numberOf (Text.trim r.value) = .ok (some b) →
          (i ∈ R .less ↔ a.place < b.place) ∧ (i ∈ R .equal ↔ a.place = b.place) ∧
            (i ∈ R .greater ↔ b.place < a.place)) := by
  intro data
  obtain ⟨found, hfound⟩ := isSuccess_iff_found.mp success
  obtain ⟨column', k, v', ready, hsearch⟩ := found_eq_ok_iff.mp hfound
  cases hread.symm.trans ready.read
  cases hcolumn.symm.trans ready.column
  have hdata : (· ∈ v.dataRows r.firstRow r.hasHeader) = data := by
    funext i
    exact propext Reading.mem_dataRows
  have hshort := ((ready.search_eq_ok_iff _).mp hsearch).1
  have judged : ∀ i ∈ v.dataRows r.firstRow r.hasHeader,
      Criterion.Judged k r.value (v.cell i column) := fun i hi =>
    Criterion.judged (ready.ne_other i) (hshort i hi) (noNan i) ready.value
  refine ⟨fun c => v.admitted k c column (v.dataRows r.firstRow r.hasHeader), fun c hc => ?_,
    fun c => ?_, ?_, fun hnumeric => ⟨?_, fun i a b hi ha hb => ?_⟩⟩
  · have hfound' := found_eq_ok_iff.mpr ⟨column, k, v, ready.comparing hc,
      (ready.search_eq_ok_iff c).mpr ⟨hshort, rfl⟩⟩
    rw [run, hfound']
    exact lists_outcome _
  · exact List.Pairwise.filter _ List.pairwise_lt_range'
  · rw [← hdata]
    exact Reading.splits_admitted judged
  · rw [← hdata]
    exact Reading.trichotomy_admitted judged hnumeric
  · have hrow : i ∈ v.dataRows r.firstRow r.hasHeader := by
      rw [← hdata] at hi
      exact hi
    simp only [Reading.mem_admitted, hrow, true_and]
    exact (judged i hrow).admits_iff_place (ready.ne_other i) ha hb

/-! ### A column of three values -/

/-- A worksheet with a number, a numeral and a truth value under a header. -/
def mixedSheet : Sheet :=
  ((((∅ : Sheet).put 0 0 (some (.text "h"))).put 1 0 (some (.integer 1))).put 2 0
    (some (.text "2"))).put 3 0 (some (.boolean true))

def mixed : Directory :=
  .ofFile "b.xlsx" ⟨[("S", mixedSheet)]⟩

/-- The request for the rows that hold a two. -/
def forTwo : SearchRequest :=
  ⟨"b.xlsx", "S", some 0, .equal, "2", true, 0⟩

theorem read_mixed : mixed.read "b.xlsx" "S" = .ok mixedSheet.reading :=
  Directory.read_of_sheet? rfl rfl (by decide)

theorem noNan_mixed (i : Nat) : mixedSheet.reading.cell i 0 ≠ some (.float .nan) := by
  have hall : ∀ e ∈ mixedSheet.reading.values.toList, e.2.2 ≠ .float .nan := by decide
  exact fun h => hall _ (Grid.mem_toList_iff.mpr h) rfl

/-- The rows of `mixed` that the six searches for a two find. -/
def foundInMixed : Comparison → String
  | .equal => "2"
  | .notEqual => "1,3"
  | .less => "1"
  | .lessOrEqual => "1,2"
  | .greater => ""
  | .greaterOrEqual => "2"

/-- They fit together. -/
theorem comparisons_agree_mixed :
    (forTwo.run mixed).isSuccess = true ∧
      (∀ c, ((forTwo.comparing c).run mixed).returnResult = foundInMixed c) ∧
      ∃ R : Comparison → List Nat, (∀ c, Lists ((forTwo.comparing c).run mixed) (R c)) ∧
        Splits R (fun i => 1 ≤ i ∧ i < 4) ∧
        Trichotomy R fun i =>
          (1 ≤ i ∧ i < 4) ∧ Criterion.HoldsNumber (mixedSheet.reading.cell i 0) := by
  have success : (forTwo.run mixed).isSuccess = true := by decide +kernel
  have hnumeric : Text.IsNumeric forTwo.value := by decide
  obtain ⟨R, hrun, _, hsplits, hordered⟩ := comparisons_agree forTwo mixed mixedSheet.reading 0
    read_mixed rfl noNan_mixed success
  have hresults : ∀ c, ((forTwo.comparing c).run mixed).returnResult = foundInMixed c := by
    intro c
    cases c <;> decide +kernel
  exact ⟨success, hresults, R, fun c => hrun c fun _ => hnumeric, hsplits, (hordered hnumeric).1⟩

end SearchRequest

end SheetActions
