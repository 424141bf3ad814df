import SheetActions.Proofs.Operators

/-! Numbers that are written otherwise.

A numeral as the value of a condition stands for its number. Numbers at the same place compare alike
with all numbers (`Number.compare?_congr`), and where a cell holds none, its text is not that of any
numeral. So a condition cannot tell two numerals of equal numbers apart
(`Criterion.admits_of_sameNumber`), nor, if its value is a numeral, two cells with equal numbers
(`Criterion.SameNumber.admits`), and searches find the same rows (`SearchRequest.run_respelled`). -/
namespace SheetActions

/-! ### Equal numbers -/

namespace Number
variable {a a' b b' : Number}

theorem compare?_nan_left (a : Number) : compare? (.float .nan) a = none := rfl

theorem compare?_nan_right (a : Number) : a.compare? (.float .nan) = none := by
  unfold compare?
  cases a.extended? <;> rfl

/-- Two numbers at the same place, or two that are none. -/
structure SamePlace (a b : Number) : Prop where
  nan : a = .float .nan ↔ b = .float .nan
  place : a.place = b.place

theorem SamePlace.refl (a : Number) : SamePlace a a := ⟨Iff.rfl, rfl⟩

theorem samePlace_of_equal (h : a.compare? b = some .eq) : SamePlace a b := by
  by_cases ha : a = .float .nan
  · rw [ha, compare?_nan_left] at h
    cases h
  by_cases hb : b = .float .nan
  · rw [hb, compare?_nan_right] at h
    cases h
  obtain ⟨o, ho, hcompares⟩ := compare?_compares ha hb
  cases ho.symm.trans h
  exact ⟨iff_of_false ha hb, hcompares⟩

/-- How numbers compare is a matter of their places. -/
theorem compare?_congr (ha : SamePlace a a') (hb : SamePlace b b') :
    a.compare? b = a'.compare? b' := by
  by_cases hna : a = .float .nan
  · rw [hna, ha.nan.mp hna, compare?_nan_left, compare?_nan_left]
  by_cases hnb : b = .float .nan
  · rw [hnb, hb.nan.mp hnb, compare?_nan_right, compare?_nan_right]
  obtain ⟨o, ho, hcompares⟩ := compare?_compares hna hnb
  obtain ⟨o', ho', hcompares'⟩ := compare?_compares (mt ha.nan.mpr hna) (mt hb.nan.mpr hnb)
  rw [← ha.place, ← hb.place] at hcompares'
  rw [ho, ho', hcompares.inj hcompares']

end Number

/-! ### One cell -/

theorem Comparison.holdsText_of_ne {s t : String} (h : s ≠ t) (c : Comparison) :
    c.holdsText s t = decide (c = .notEqual) := by
  cases c <;> simp [holdsText, h]

namespace Criterion
variable {k k' : Criterion} {value value' : String} {a b : Number} {x y : Option Value}

theorem ofText_of_number (h : numberOf (Text.trim value) = .ok (some a)) :
    ofText value = .ok ⟨Text.trim value, some a⟩ := by
  simp only [ofText, h, bind, Except.bind]
  rfl

/-- The text of a cell without a number is not that of a numeral. -/
theorem ne_of_cellNumber (hx : cellNumber x = .ok none)
    (ha : numberOf (Text.trim value) = .ok (some a)) :
    Text.trim (renderCell x) ≠ Text.trim value := by
  intro heq
  have hread := read?_of_cellNumber hx
  rw [heq] at hread
  cases (numberOf_of_read? hread).symm.trans ha

/-- Numerals of equal numbers are the same value for a condition. -/
theorem admits_of_sameNumber (ha : numberOf (Text.trim value) = .ok (some a))
    (hb : numberOf (Text.trim value') = .ok (some b)) (h : a.compare? b = some .eq)
    (c : Comparison) (x : Option Value) :
    admits ⟨Text.trim value, some a⟩ c x = admits ⟨Text.trim value', some b⟩ c x := by
  cases hx : cellNumber x with
  | error f => rw [admits_of_error hx, admits_of_error hx]
  | ok n =>
    cases n with
    | none =>
      rw [admits_of_text hx (.inl rfl), admits_of_text hx (.inl rfl),
        Comparison.holdsText_of_ne (ne_of_cellNumber hx ha),
        Comparison.holdsText_of_ne (ne_of_cellNumber hx hb)]
    | some n =>
      have heq := Number.compare?_congr (.refl n) (Number.samePlace_of_equal h)
      rw [admits_of_number hx rfl, admits_of_number hx rfl, heq]

/-- Two cells hold equal numbers, or texts that are numerals of them. -/
def SameNumber (x y : Option Value) : Prop :=
  ∃ m n, cellNumber x = .ok (some m) ∧ cellNumber y = .ok (some n) ∧ m.compare? n = some .eq

instance (x y : Option Value) : Decidable (SameNumber x y) :=
  let numbers := (cellNumber x).toOption.join.bind fun m =>
    (cellNumber y).toOption.join.bind fun n => m.compare? n
  decidable_of_iff (numbers = some .eq) (by
    simp only [numbers, SameNumber, Option.bind_eq_some_iff, Option.join_eq_some_iff,
      toOption_eq_some]
    constructor
    · rintro ⟨m, hm, n, hn, h⟩
      exact ⟨m, n, hm, hn, h⟩
    · rintro ⟨m, n, hm, hn, h⟩
      exact ⟨m, hm, n, hn, h⟩)

/-- A condition with a numeral as its value does not tell such cells apart. -/
theorem SameNumber.admits (h : SameNumber x y) (hk : k.number? = some a) (c : Comparison) :
    k.admits c y = k.admits c x := by
  obtain ⟨m, n, hx, hy, heq⟩ := h
  have hsame := Number.compare?_congr (Number.samePlace_of_equal heq) (.refl a)
  rw [admits_of_number hx hk, admits_of_number hy hk, hsame]

theorem SameNumber.ne_none (h : SameNumber x y) : x ≠ none ∧ y ≠ none := by
  obtain ⟨m, n, hx, hy, _⟩ := h
  constructor
  · rintro rfl
    cases hx
  · rintro rfl
    cases hy

end Criterion

/-! ### Searches -/

namespace Reading
variable {v w : Reading} {column : Nat} {a : Number}

/-- Two worksheets with the same cells, but for equal numbers in one column. -/
def Respelled (v w : Reading) (column : Nat) : Prop :=
  ∀ i c, w.cell i c = v.cell i c ∨
    c = column ∧ Criterion.SameNumber (v.cell i c) (w.cell i c)

theorem Respelled.cell_eq_none_iff (h : v.Respelled w column) (i c : Nat) :
    v.cell i c = none ↔ w.cell i c = none := by
  rcases h i c with heq | ⟨_, hsame⟩
  · rw [heq]
  · exact iff_of_false hsame.ne_none.1 hsame.ne_none.2

theorem Respelled.rowCount_eq (h : v.Respelled w column) : v.rowCount = w.rowCount := by
  have hcell : ∀ i c, v.values.get? i c = none ↔ w.values.get? i c = none := h.cell_eq_none_iff
  exact eq_of_forall_ge_iff fun n => by simp only [rowCount, Grid.usedRows_le_iff, hcell]

theorem Respelled.admits {k : Criterion} (h : v.Respelled w column) (hk : k.number? = some a)
    (c : Comparison) (i : Nat) :
    k.admits c (w.cell i column) = k.admits c (v.cell i column) := by
  rcases h i column with heq | ⟨_, hsame⟩
  · rw [heq]
  · exact hsame.admits hk c

/-- A search is a matter of what the conditions say of the cells. -/
theorem search_congr {k k' : Criterion} {c : Comparison}
    (h : ∀ i, k.admits c (v.cell i column) = k'.admits c (w.cell i column)) (rows : List Nat) :
    v.search k c column rows = w.search k' c column rows := by
  simp only [search, h]

end Reading

namespace SearchRequest
variable {r : SearchRequest} {d d' : Directory} {v w : Reading} {value : String} {a b : Number}

theorem criterion_of_number (h : numberOf (Text.trim r.value) = .ok (some a)) :
    r.criterion = .ok ⟨Text.trim r.value, some a⟩ :=
  criterion_eq_ok_iff.mpr ⟨Criterion.ofText_of_number h, fun _ => rfl⟩

theorem found_of_criterion {k : Criterion} (hk : r.criterion = .ok k) (d : Directory) :
    r.found d = (do
      let file ← Input.fileName r.file
      let sheet ← Input.sheetName r.sheet
      let column ← r.requiredColumn
      let v ← d.read file sheet
      v.search k r.comparison column (v.dataRows r.firstRow r.hasHeader)) := by
  simp only [found, hk, ok_bind]

/-- A search for a numeral that is written otherwise finds the same rows. -/
theorem found_of_equal (ha : numberOf (Text.trim r.value) = .ok (some a))
    (hb : numberOf (Text.trim value) = .ok (some b)) (h : a.compare? b = some .eq) :
    { r with value }.found d = r.found d := by
  have hcriterion : { r with value }.criterion = .ok ⟨Text.trim value, some b⟩ :=
    criterion_of_number hb
  rw [found_of_criterion hcriterion, found_of_criterion (criterion_of_number ha)]
  refine bind_congr fun file => bind_congr fun sheet => bind_congr fun column => ?_
  refine bind_congr fun v => ?_
  exact Reading.search_congr (fun i => (Criterion.admits_of_sameNumber ha hb h _ _).symm) _

/-- A search for a numeral finds the same rows where the numbers of the column are written
otherwise. -/
theorem found_of_respelled {column : Nat} (ha : numberOf (Text.trim r.value) = .ok (some a))
    (hcolumn : r.column = some column)
    (hv : d.read (Text.trim r.file) (Text.trim r.sheet) = .ok v)
    (hw : d'.read (Text.trim r.file) (Text.trim r.sheet) = .ok w)
    (h : v.Respelled w column) : r.found d' = r.found d := by
  rw [found_of_criterion (criterion_of_number ha), found_of_criterion (criterion_of_number ha)]
  refine bind_congr_ok fun file hfile => bind_congr_ok fun sheet hsheet => ?_
  obtain ⟨_, rfl⟩ := Input.required_eq_ok_iff.mp hfile
  obtain ⟨_, rfl⟩ := Input.required_eq_ok_iff.mp hsheet
  refine bind_congr_ok fun c hc => ?_
  rw [requiredColumn, hcolumn] at hc
  cases hc
  rw [hv, hw, ok_bind, ok_bind, Reading.dataRows, Reading.dataRows, h.rowCount_eq]
  exact Reading.search_congr (h.admits rfl _) _

/-- **Spellings.** Two values are numerals of equal numbers. On every worksheet a search for the
one ends as a search for the other does. And to a condition with a numeral as its value, cells with
equal numbers, or texts that are numerals of them, are the same: it is satisfied by both or by none,
and a search in a column where some of them take the place of others ends as before. -/
theorem run_respelled (r : SearchRequest) (value : String) (a b : Number)
    (ha : numberOf (Text.trim r.value) = .ok (some a))
    (hb : numberOf (Text.trim value) = .ok (some b)) (equal : a.compare? b = some .eq) :
    (∀ d, { r with value }.run d = r.run d) ∧
    (∀ k c x y m n, Criterion.ofText r.value = .ok k →
      Criterion.cellNumber x = .ok (some m) → Criterion.cellNumber y = .ok (some n) →
      m.compare? n = some .eq → k.admits c x = k.admits c y) ∧
    ∀ (d d' : Directory) (v w : Reading) (column : Nat), r.column = some column →
      d.read (Text.trim r.file) (Text.trim r.sheet) = .ok v →
      d'.read (Text.trim r.file) (Text.trim r.sheet) = .ok w →
      (∀ i j, w.cell i j = v.cell i j ∨ j = column ∧ ∃ m n,
        Criterion.cellNumber (v.cell i j) = .ok (some m) ∧
        Criterion.cellNumber (w.cell i j) = .ok (some n) ∧ m.compare? n = some .eq) →
      r.run d' = r.run d := by
  refine ⟨fun d => ?_, fun k c x y m n hk hx hy heq => ?_, ?_⟩
  · rw [run, run, found_of_equal ha hb equal]
  · cases (Criterion.ofText_of_number ha).symm.trans hk
    exact (Criterion.SameNumber.admits ⟨m, n, hx, hy, heq⟩ rfl c).symm
  · intro d d' v w column hcolumn hv hw h
    rw [run, run, found_of_respelled ha hcolumn hv hw h]

/-- `mixedSheet` with its numeral written otherwise. -/
def respelledSheet : Sheet :=
  mixedSheet.put 2 0 (some (.text " 2.0"))

def respelled : Directory :=
  .ofFile "b.xlsx" ⟨[("S", respelledSheet)]⟩

theorem read_respelled : respelled.read "b.xlsx" "S" = .ok respelledSheet.reading :=
  Directory.read_of_sheet? rfl rfl (by decide)

theorem respelled_mixed : mixedSheet.reading.Respelled respelledSheet.reading 0 := by
  intro i c
  by_cases hat : i = 2 ∧ c = 0
  · obtain ⟨rfl, rfl⟩ := hat
    have hsame : Criterion.SameNumber (mixedSheet.reading.cell 2 0)
        (respelledSheet.reading.cell 2 0) := by decide +kernel
    exact .inr ⟨rfl, hsame⟩
  · left
    have hcell : respelledSheet.cell i c = mixedSheet.cell i c :=
      (mixedSheet.cell_put 2 0 _ i c).trans (if_neg hat)
    have hstyle : respelledSheet.style i c = mixedSheet.style i c := rfl
    rw [Sheet.cell_reading, Sheet.cell_reading, hcell, hstyle]

/-- A search for a two finds the same row for other spellings of the value and of the cell. -/
theorem run_respelled_mixed :
    ∃ a b, numberOf (Text.trim forTwo.value) = .ok (some a) ∧
      numberOf (Text.trim " +20e-1 ") = .ok (some b) ∧ a.compare? b = some .eq ∧
      (forTwo.run mixed).returnResult = "2" ∧
      { forTwo with value := " +20e-1 " }.run mixed = forTwo.run mixed ∧
      (∀ k c, Criterion.ofText forTwo.value = .ok k →
        k.admits c (some (.text "2")) = k.admits c (some (.text " +20e-1 "))) ∧
      forTwo.run respelled = forTwo.run mixed := by
  have hsame : Criterion.SameNumber (some (.text "2")) (some (.text " +20e-1 ")) := by
    decide +kernel
  have hfound : (forTwo.run mixed).returnResult = "2" := by decide +kernel
  obtain ⟨a, b, ha, hb, equal⟩ := hsame
  obtain ⟨hvalue, hcell, hcolumn⟩ := run_respelled forTwo " +20e-1 " a b ha hb equal
  refine ⟨a, b, ha, hb, equal, hfound, hvalue mixed, fun k c hk => ?_, ?_⟩
  · exact hcell k c _ _ a b hk ha hb equal
  · exact hcolumn mixed respelled _ _ 0 rfl read_mixed read_respelled respelled_mixed

end SearchRequest

end SheetActions
