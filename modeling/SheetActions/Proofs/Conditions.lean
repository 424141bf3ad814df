import SheetActions.Action.Selection
import SheetActions.Proofs.Breakdowns
import SheetActions.Proofs.TimeTexts

/-! Comparing cells with a value.

A cell counts as a number if it holds one, or a text that is a numeral once it is trimmed
(`Criterion.HoldsNumber`). No other cell that a reader sees does, so there are three cases
(`Criterion.cellNumber_cases`): a cell is a number, it is not, or its text is an integer with
more digits than are read. Only a cell of the last kind ends a search, which otherwise keeps
the rows that satisfy the condition (`Reading.search_eq_ok_iff`). -/
namespace SheetActions

/-! ### Numbers of texts -/

theorem Number.number?_toValue (n : Number) : n.toValue.number? = some n := by
  cases n <;> rfl

/-- A text is no numeral, it is the numeral of a number, or it is one with more digits than are
read. -/
theorem numberOf_cases (s : String) :
    (Numeral.read? s.toList = none ∧ numberOf s = .ok none) ∨
      (∃ numeral, Numeral.read? s.toList = some numeral ∧ ¬ AddRequest.IsOverlong s ∧
        numberOf s = .ok (some numeral.value)) ∨
      AddRequest.IsOverlong s ∧
        ∃ count, numberOf s = .error (.breakdown (.numeralTooLong count)) := by
  cases hread : Numeral.read? s.toList with
  | none => exact .inl ⟨rfl, numberOf_of_read? hread⟩
  | some numeral =>
    refine .inr ?_
    simp only [numberOf, coerce, hread, AddRequest.IsOverlong]
    cases hexcess : numeral.excess? with
    | none =>
      refine .inl ⟨numeral, rfl, ?_, congrArg Except.ok (Number.number?_toValue _)⟩
      rintro ⟨negative, digits, heq, hlong⟩
      cases heq
      rw [Numeral.excess?, if_pos hlong] at hexcess
      cases hexcess
    | some count =>
      refine .inr ⟨?_, count, rfl⟩
      cases numeral with
      | decimal => cases hexcess
      | integer negative digits =>
        rw [Numeral.excess?] at hexcess
        split at hexcess
        · exact ⟨negative, digits, rfl, by assumption⟩
        · cases hexcess

/-! ### Long texts -/

theorem Text.length_trim_le (s : String) : (trim s).toList.length ≤ s.toList.length := by
  have hdrop : ∀ l : List Char, (l.dropWhile isBlank).length ≤ l.length := fun l =>
    (List.dropWhile_sublist _).length_le
  rw [trim, String.toList_ofList, trimBy, List.length_reverse]
  refine Nat.le_trans (hdrop _) ?_
  rw [List.length_reverse]
  exact hdrop _

namespace Numeral

theorem length_dropFinalNewline_le (l : List Char) : (dropFinalNewline l).length ≤ l.length := by
  unfold dropFinalNewline
  split
  · rw [List.length_dropLast]
    exact Nat.sub_le ..
  · exact Nat.le_refl _

theorem length_splitSign_le (l : List Char) : (splitSign l).2.length ≤ l.length := by
  unfold splitSign
  split <;> simp

/-- The digits of an integer are part of its text. -/
theorem length_le_of_read? {l digits : List Char} {negative : Bool}
    (h : read? l = some (.integer negative digits)) : digits.length ≤ l.length := by
  have hdigits : digits = (splitSign (dropFinalNewline l)).2.takeWhile Char.isDigit := by
    simp only [read?] at h
    split at h
    · split at h
      · cases h
      · cases h
        rfl
    · split at h
      · cases h
      · obtain ⟨_, _, heq⟩ := Option.map_eq_some_iff.mp h
        cases heq
  calc digits.length
      = ((splitSign (dropFinalNewline l)).2.takeWhile Char.isDigit).length := by rw [hdigits]
    _ ≤ (splitSign (dropFinalNewline l)).2.length := (List.takeWhile_sublist _).length_le
    _ ≤ (dropFinalNewline l).length := length_splitSign_le _
    _ ≤ l.length := length_dropFinalNewline_le l

end Numeral

/-- A text with no more characters than digits are read is not overlong. -/
theorem not_isOverlong_of_length {s : String} (h : s.length ≤ Numeral.digitLimit) :
    ¬ AddRequest.IsOverlong (Text.trim s) := by
  rintro ⟨_, digits, hread, hlong⟩
  have hle := Nat.le_trans (Numeral.length_le_of_read? hread) (Text.length_trim_le s)
  rw [String.length_toList] at hle
  omega

/-! ### Criteria -/

/-- Whether a text is a numeral once it is trimmed. -/
def Text.IsNumeric (s : String) : Prop :=
  (Numeral.read? (trim s).toList).isSome = true

instance (s : String) : Decidable (Text.IsNumeric s) :=
  inferInstanceAs (Decidable (_ = _))

namespace Criterion
variable {cell : Option Value} {k : Criterion} {c : Comparison} {value : String}

/-- Whether a cell holds a number, or a text that is a numeral once it is trimmed. -/
def HoldsNumber : Option Value → Prop
  | some (.integer _) | some (.float _) => True
  | some (.text s) => Text.IsNumeric s
  | _ => False

/-- Whether a cell holds a text that is, once it is trimmed, an integer with more digits than are
read. -/
def HoldsOverlong : Option Value → Prop
  | some (.text s) => AddRequest.IsOverlong (Text.trim s)
  | _ => False

/-- A cell that a reader sees is no number, it is one, or it has more digits than are read. -/
theorem cellNumber_cases (h : ∀ s, cell ≠ some (.other s)) :
    (¬ HoldsNumber cell ∧ ¬ HoldsOverlong cell ∧ cellNumber cell = .ok none) ∨
      (HoldsNumber cell ∧ ¬ HoldsOverlong cell ∧ ∃ n, cellNumber cell = .ok (some n)) ∨
      HoldsOverlong cell ∧
        ∃ count, cellNumber cell = .error (.breakdown (.numeralTooLong count)) := by
  have hother : ∀ v : Value, (v.timeStyle?.isSome = true ∨ ∃ b, v = .boolean b) →
      v.number? = none → cellNumber (some v) = .ok none := by
    intro v hv hnumber
    simp only [cellNumber, Option.bind_some, hnumber]
    exact Value.numberOf_rendered hv
  cases cell with
  | none => exact .inl ⟨id, id, rfl⟩
  | some v =>
    cases v with
    | integer n => exact .inr (.inl ⟨trivial, id, _, rfl⟩)
    | float x => exact .inr (.inl ⟨trivial, id, _, rfl⟩)
    | text s =>
      have htext : cellNumber (some (.text s)) = numberOf (Text.trim s) := rfl
      rw [htext]
      rcases numberOf_cases (Text.trim s) with
        ⟨hread, hnumber⟩ | ⟨_, hread, hshort, hnumber⟩ | hlong
      · refine .inl ⟨?_, ?_, hnumber⟩
        · show ¬ Text.IsNumeric s
          rw [Text.IsNumeric, hread]
          exact Bool.false_ne_true
        · rintro ⟨_, _, heq, _⟩
          cases hread.symm.trans heq
      · refine .inr (.inl ⟨?_, hshort, _, hnumber⟩)
        show Text.IsNumeric s
        rw [Text.IsNumeric, hread]
        rfl
      · exact .inr (.inr hlong)
    | boolean b => exact .inl ⟨id, id, hother _ (.inr ⟨b, rfl⟩) rfl⟩
    | dateTime d t => exact .inl ⟨id, id, hother _ (.inl rfl) rfl⟩
    | date d => exact .inl ⟨id, id, hother _ (.inl rfl) rfl⟩
    | clock t => exact .inl ⟨id, id, hother _ (.inl rfl) rfl⟩
    | span microseconds => exact .inl ⟨id, id, hother _ (.inl rfl) rfl⟩
    | other s => exact absurd rfl (h s)

/-- A value is read unless it has too many digits, and its number is that of its numeral. -/
theorem ofText_eq_ok_iff : ofText value = .ok k ↔
    ¬ AddRequest.IsOverlong (Text.trim value) ∧
      k = ⟨Text.trim value, (Numeral.read? (Text.trim value).toList).map Numeral.value⟩ := by
  have hof : ∀ n, numberOf (Text.trim value) = .ok n →
      ofText value = .ok ⟨Text.trim value, n⟩ := by
    intro n hn
    simp only [ofText, hn, bind, Except.bind]
    rfl
  rcases numberOf_cases (Text.trim value) with
    ⟨hread, hnumber⟩ | ⟨numeral, hread, hshort, hnumber⟩ | ⟨hlong, count, hnumber⟩
  · have hshort : ¬ AddRequest.IsOverlong (Text.trim value) := by
      rintro ⟨_, _, heq, _⟩
      cases hread.symm.trans heq
    rw [hof _ hnumber, hread, and_iff_right hshort, Except.ok.injEq]
    exact eq_comm
  · rw [hof _ hnumber, hread, and_iff_right hshort, Except.ok.injEq]
    exact eq_comm
  · have herror : ofText value = .error (.breakdown (.numeralTooLong count)) := by
      simp only [ofText, hnumber, bind, Except.bind]
    rw [herror]
    exact iff_of_false (fun h => nomatch h) fun h => h.1 hlong

/-- Two numbers are compared as numbers. -/
theorem admits_of_number {a b : Number} (hcell : cellNumber cell = .ok (some a))
    (hvalue : k.number? = some b) : k.admits c cell = .ok (c.holds (a.compare? b)) := by
  simp only [admits, hcell, bind, Except.bind, hvalue]
  rfl

/-- Where one of the two is no number, the texts are compared. -/
theorem admits_of_text {n : Option Number} (hcell : cellNumber cell = .ok n)
    (hnone : n = none ∨ k.number? = none) :
    k.admits c cell = .ok (c.holdsText (Text.trim (renderCell cell)) k.text) := by
  simp only [admits, hcell, bind, Except.bind]
  rcases hnone with rfl | hnone
  · rfl
  · rw [hnone]
    cases n <;> rfl

theorem admits_of_error {f : Fault} (hcell : cellNumber cell = .error f) :
    k.admits c cell = .error f := by
  simp only [admits, hcell, bind, Except.bind]

/-- A cell is compared unless it has too many digits. -/
theorem admits_cases (h : ∀ s, cell ≠ some (.other s)) :
    (¬ HoldsOverlong cell ∧ ∃ b, k.admits c cell = .ok b) ∨
      HoldsOverlong cell ∧
        ∃ count, k.admits c cell = .error (.breakdown (.numeralTooLong count)) := by
  rcases cellNumber_cases h with
    ⟨_, hshort, hnumber⟩ | ⟨_, hshort, n, hnumber⟩ | ⟨hlong, count, hnumber⟩
  · exact .inl ⟨hshort, _, admits_of_text hnumber (.inl rfl)⟩
  · cases hvalue : k.number? with
    | none => exact .inl ⟨hshort, _, admits_of_text hnumber (.inr hvalue)⟩
    | some b => exact .inl ⟨hshort, _, admits_of_number hnumber hvalue⟩
  · exact .inr ⟨hlong, count, admits_of_error hnumber⟩

end Criterion

/-! ### What is seen -/

/-- A text is seen as one unless it is a formula or an error value, whatever the style. -/
theorem Value.seen_text (style : Option TimeStyle) (s : String) : (text s).seen style =
    if isFormula s || errorTexts.contains s then none else (text (seenText s)).normalized := by
  cases style <;> rfl

theorem Value.normalized_ne_other {v : Value} {s : String} : v.normalized ≠ some (.other s) := by
  cases v with
  | text t =>
    rw [normalized]
    split <;> simp
  | float x =>
    rw [normalized]
    cases x.toInt? <;> simp
  | boolean | integer | dateTime | date | clock | span | other => simp [normalized]

theorem Value.seen_ne_other {style : Option TimeStyle} {v : Value} {s : String} :
    v.seen style ≠ some (.other s) := by
  unfold seen
  split
  · exact normalized_ne_other
  · split
    · simp
    · exact normalized_ne_other
  · exact normalized_ne_other

/-- A reader sees values of known kinds only. -/
theorem Sheet.reading_ne_other (s : Sheet) (r c : Nat) (text : String) :
    s.reading.cell r c ≠ some (.other text) := by
  rw [cell_reading]
  intro h
  obtain ⟨v, _, hseen⟩ := Option.bind_eq_some_iff.mp h
  exact Value.seen_ne_other hseen

/-! ### Searches -/

namespace Reading

/-- The rows of data go on to the last row. -/
theorem mem_dataRows {v : Reading} {firstRow i : Nat} {hasHeader : Bool} :
    i ∈ v.dataRows firstRow hasHeader ↔
      firstRow + (if hasHeader then 1 else 0) ≤ i ∧ i < v.rowCount := by
  rw [dataRows, List.mem_range'_1]
  omega

variable {v : Reading} {k : Criterion} {c : Comparison} {column : Nat} {rows : List Nat}

/-- The rows that satisfy a condition. -/
def admitted (v : Reading) (k : Criterion) (c : Comparison) (column : Nat) (rows : List Nat) :
    List Nat :=
  rows.filter fun r => (k.admits c (v.cell r column)).toOption = some true

theorem mem_admitted {i : Nat} : i ∈ v.admitted k c column rows ↔
    i ∈ rows ∧ k.admits c (v.cell i column) = .ok true := by
  rw [admitted, List.mem_filter, decide_eq_true_eq]
  refine and_congr_right fun _ => ?_
  cases k.admits c (v.cell i column) <;> simp [Except.toOption]

/-- A search keeps the rows that satisfy the condition, or it ends at a cell with too many
digits. -/
theorem search_cases (k : Criterion) (c : Comparison) (rows : List Nat)
    (h : ∀ r s, v.cell r column ≠ some (.other s)) :
    ((∀ r ∈ rows, ¬ Criterion.HoldsOverlong (v.cell r column)) ∧
        v.search k c column rows = .ok (v.admitted k c column rows)) ∨
      (∃ r ∈ rows, Criterion.HoldsOverlong (v.cell r column)) ∧
        ∃ count, v.search k c column rows = .error (.breakdown (.numeralTooLong count)) := by
  simp only [search]
  split
  · rename_i f hfound
    obtain ⟨r, hr, hfault⟩ := List.exists_of_findSome?_eq_some hfound
    rcases Criterion.admits_cases (k := k) (c := c) (h r) with
      ⟨_, b, hadmits⟩ | ⟨hlong, count, hadmits⟩
    · rw [hadmits] at hfault
      cases hfault
    · rw [hadmits] at hfault
      cases hfault
      exact .inr ⟨⟨r, hr, hlong⟩, count, rfl⟩
  · rename_i hnone
    refine .inl ⟨fun r hr => ?_, rfl⟩
    rcases Criterion.admits_cases (k := k) (c := c) (h r) with
      ⟨hshort, _⟩ | ⟨_, count, hadmits⟩
    · exact hshort
    · have hfault := List.findSome?_eq_none_iff.mp hnone r hr
      rw [hadmits] at hfault
      cases hfault

end Reading

end SheetActions
