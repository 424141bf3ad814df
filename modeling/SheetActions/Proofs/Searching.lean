import SheetActions.Action.Search
import SheetActions.Proofs.Conditions
import SheetActions.Proofs.ReadingBack

/-! Searches that fail.

A search of a worksheet that is there can still fail in two ways, and both are due to what the
cells hold (`isSuccess_iff`). The readers refuse a worksheet with a date or a span that they
cannot take over. And a text in the column that is searched can be an integer with more digits
than are read: then the search breaks down, although such a text could be compared as a text. -/
namespace SheetActions

namespace Directory
variable {d : Directory} {file name : String} {w : Workbook} {s : Sheet} {v : Reading}

/-- A worksheet of a workbook is read unless it has a flaw. -/
theorem read_eq (hw : d.openForReading file = .ok w) (hs : w.sheet? name = some s) :
    d.read file name =
      match s.reading.flaw? with
      | some flaw => .error (.refusal (.readFailure file "read sheet" flaw.message))
      | none => .ok s.reading := by
  have hsheet : w.sheet name = .ok s := by rw [Workbook.sheet, hs]
  simp only [read, hw, hsheet, bind, Except.bind]
  rfl

/-- What was read is what a reader sees of a worksheet. -/
theorem exists_sheet_of_read (h : d.read file name = .ok v) :
    ∃ w s, d.openForReading file = .ok w ∧ w.sheet? name = some s ∧ s.reading.flaw? = none ∧
      v = s.reading := by
  obtain ⟨w, hw, h⟩ := bind_eq_ok.mp h
  obtain ⟨s, hs, h⟩ := bind_eq_ok.mp h
  rw [Workbook.sheet] at hs
  split at hs
  · rename_i s' hs'
    cases hs
    refine ⟨w, s, hw, hs', ?_⟩
    simp only at h
    split at h
    · cases h
    · rename_i hnone
      cases h
      exact ⟨hnone, rfl⟩
  · cases hs

end Directory

theorem Input.required_eq_ok_iff {value message field trimmed : String} :
    required value message field = .ok trimmed ↔
      Text.isBlankText value = false ∧ trimmed = Text.trim value := by
  have hempty : (Text.trim value).isEmpty = Text.isBlankText value := by
    rw [Bool.eq_iff_iff, String.isEmpty_iff, ← Text.isBlankText_iff]
  simp only [required, hempty]
  split
  · rename_i hblank
    simp [hblank]
  · rename_i hfilled
    simp [hfilled, eq_comm]

namespace SearchRequest
variable {r : SearchRequest} {d : Directory} {w : Workbook} {s : Sheet} {column : Nat}

/-! ### Stages -/

theorem isSuccess_iff_found : (r.run d).isSuccess = true ↔ ∃ rows, r.found d = .ok rows := by
  unfold run
  cases r.found d with
  | ok rows => exact iff_of_true rfl ⟨rows, rfl⟩
  | error f => exact iff_of_false (by rw [Outcome.isSuccess_ofFault]; simp) (by simp)

theorem errorCode_eq_iff {k : Option FailureKind} :
    (r.run d).errorCode = some (FailureKind.codeOf k) ↔ FailsAs (r.found d) k := by
  unfold run
  cases r.found d with
  | ok rows => exact iff_of_false (fun h => nomatch h) not_failsAs_ok
  | error f =>
    simp only [Outcome.errorCode_ofFault, Option.some.injEq, failsAs_error_iff]
    exact ⟨fun h => FailureKind.codeOf_injective h, fun h => congrArg _ h⟩

/-- A value is accepted if it can be read and, for an ordering, is a numeral. -/
theorem criterion_eq_ok_iff {k : Criterion} : r.criterion = .ok k ↔
    Criterion.ofText r.value = .ok k ∧
      (r.comparison.isOrdering = true → k.number?.isSome = true) := by
  simp only [criterion, bind_eq_ok]
  constructor
  · rintro ⟨k', hof, h⟩
    split at h
    · cases h
    · rename_i hordering
      cases h
      refine ⟨hof, fun ho => ?_⟩
      simpa [ho, Option.isNone_iff_eq_none, Option.isSome_iff_ne_none] using hordering
  · rintro ⟨hof, hordering⟩
    refine ⟨k, hof, ?_⟩
    split
    · rename_i h
      obtain ⟨ho, hnone⟩ := Bool.and_eq_true_iff.mp h
      have hsome := hordering ho
      rw [Option.isNone_iff_eq_none.mp hnone] at hsome
      cases hsome
    · rfl

/-- What is known before the rows are looked at. -/
structure Ready (r : SearchRequest) (d : Directory) (column : Nat) (k : Criterion) (v : Reading) :
    Prop where
  file : Text.isBlankText r.file = false
  sheet : Text.isBlankText r.sheet = false
  column : r.column = some column
  value : Criterion.ofText r.value = .ok k
  numeric : r.comparison.isOrdering = true → k.number?.isSome = true
  read : d.read (Text.trim r.file) (Text.trim r.sheet) = .ok v

/-- A request with a result has found the column, the value and the worksheet. -/
theorem found_eq_ok_iff {found : List Nat} : r.found d = .ok found ↔
    ∃ column k v, r.Ready d column k v ∧
      v.search k r.comparison column (v.dataRows r.firstRow r.hasHeader) = .ok found := by
  simp only [SearchRequest.found, bind_eq_ok, Input.fileName, Input.sheetName,
    Input.required_eq_ok_iff, criterion_eq_ok_iff]
  constructor
  · rintro ⟨_, ⟨hfile, rfl⟩, _, ⟨hsheet, rfl⟩, column, hcolumn, k, ⟨hvalue, hnumeric⟩, v, hread,
      hsearch⟩
    refine ⟨column, k, v, ⟨hfile, hsheet, ?_, hvalue, hnumeric, hread⟩, hsearch⟩
    unfold requiredColumn at hcolumn
    split at hcolumn
    · rename_i heq
      cases hcolumn
      exact heq
    · cases hcolumn
  · rintro ⟨column, k, v, ready, hsearch⟩
    exact ⟨_, ⟨ready.file, rfl⟩, _, ⟨ready.sheet, rfl⟩, column,
      by rw [requiredColumn, ready.column], k, ⟨ready.value, ready.numeric⟩, v, ready.read, hsearch⟩

theorem Ready.ne_other {k : Criterion} {v : Reading} (ready : r.Ready d column k v) (i : Nat)
    (text : String) : v.cell i column ≠ some (.other text) := by
  obtain ⟨_, s, _, _, _, rfl⟩ := Directory.exists_sheet_of_read ready.read
  exact s.reading_ne_other i column text

/-- The rows that are found are those that satisfy the condition, and no cell has too many
digits. -/
theorem Ready.search_eq_ok_iff {k : Criterion} {v : Reading} {rows found : List Nat}
    (ready : r.Ready d column k v) (c : Comparison) : v.search k c column rows = .ok found ↔
      (∀ i ∈ rows, ¬ Criterion.HoldsOverlong (v.cell i column)) ∧
        found = v.admitted k c column rows := by
  rcases Reading.search_cases k c rows ready.ne_other with
    ⟨hshort, hok⟩ | ⟨⟨i, hi, hlong⟩, count, herror⟩
  · rw [hok, and_iff_right hshort, Except.ok.injEq]
    exact eq_comm
  · rw [herror]
    exact iff_of_false (fun h => nomatch h) fun h => h.1 i hi hlong

/-- A request that gives all that a search needs. -/
structure Proper (r : SearchRequest) (column : Nat) : Prop where
  file : Text.isBlankText r.file = false
  sheet : Text.isBlankText r.sheet = false
  column : r.column = some column
  short : r.value.length ≤ Numeral.digitLimit
  numeric : r.comparison.isOrdering = true → Text.IsNumeric r.value

/-- A proper request reads the worksheet and searches the column. -/
theorem Proper.found_eq (proper : r.Proper column) (d : Directory) :
    ∃ k, r.found d = (do
      let v ← d.read (Text.trim r.file) (Text.trim r.sheet)
      v.search k r.comparison column (v.dataRows r.firstRow r.hasHeader)) := by
  have hof := Criterion.ofText_eq_ok_iff.mpr ⟨not_isOverlong_of_length proper.short, rfl⟩
  have hcriterion := criterion_eq_ok_iff.mpr ⟨hof, fun ho => by
    rw [Option.isSome_map]
    exact proper.numeric ho⟩
  have hfile : Input.fileName r.file = .ok (Text.trim r.file) :=
    Input.required_eq_ok_iff.mpr ⟨proper.file, rfl⟩
  have hsheet : Input.sheetName r.sheet = .ok (Text.trim r.sheet) :=
    Input.required_eq_ok_iff.mpr ⟨proper.sheet, rfl⟩
  refine ⟨⟨Text.trim r.value, (Numeral.read? (Text.trim r.value).toList).map Numeral.value⟩, ?_⟩
  simp only [found, hfile, hsheet, requiredColumn, proper.column, hcriterion, bind, Except.bind]

/-- Once the worksheet is read, only too many digits end a proper search. -/
theorem Proper.found_cases (proper : r.Proper column)
    (hread : d.read (Text.trim r.file) (Text.trim r.sheet) = .ok s.reading) :
    let rows := s.reading.dataRows r.firstRow r.hasHeader
    ((∀ i ∈ rows, ¬ Criterion.HoldsOverlong (s.reading.cell i column)) ∧
        ∃ found, r.found d = .ok found) ∨
      (∃ i ∈ rows, Criterion.HoldsOverlong (s.reading.cell i column)) ∧
        ∃ count, r.found d = .error (.breakdown (.numeralTooLong count)) := by
  intro rows
  obtain ⟨k, hfound⟩ := proper.found_eq d
  have hsearch : r.found d = s.reading.search k r.comparison column rows := by
    rw [hfound, hread]
    rfl
  rw [hsearch]
  rcases Reading.search_cases k r.comparison rows (fun i => s.reading_ne_other i column) with
    ⟨hshort, hok⟩ | hlong
  · exact .inl ⟨hshort, _, hok⟩
  · exact .inr hlong

/-- **Searching.** In a worksheet of a workbook that can be read, a proper search succeeds unless
the readers refuse the worksheet for a value in it, or a row of data has in the column a text that
is an integer with too many digits. In the first case the search fails as reading does, in the
second it breaks down. -/
theorem run_proper (r : SearchRequest) (d : Directory) (w : Workbook) (s : Sheet) (column : Nat)
    (proper : r.Proper column) (hw : d.openForReading (Text.trim r.file) = .ok w)
    (hs : w.sheet? (Text.trim r.sheet) = some s) :
    let rows := s.reading.dataRows r.firstRow r.hasHeader
    ((r.run d).isSuccess = true ↔ s.reading.flaw? = none ∧
        ∀ i ∈ rows, ¬ Criterion.HoldsOverlong (s.reading.cell i column)) ∧
      ((r.run d).errorCode = some FailureKind.readFailure.code ↔ s.reading.flaw? ≠ none) ∧
      ((r.run d).errorCode = some Outcome.internalCode ↔ s.reading.flaw? = none ∧
        ∃ i ∈ rows, Criterion.HoldsOverlong (s.reading.cell i column)) := by
  intro rows
  have hrefused : (r.run d).errorCode = some FailureKind.readFailure.code ↔
      FailsAs (r.found d) (some .readFailure) := errorCode_eq_iff (k := some .readFailure)
  have hinternal : (r.run d).errorCode = some Outcome.internalCode ↔
      FailsAs (r.found d) none := errorCode_eq_iff (k := none)
  rw [isSuccess_iff_found, hrefused, hinternal]
  cases hflaw : s.reading.flaw? with
  | some flaw =>
    obtain ⟨k, hfound⟩ := proper.found_eq d
    have herror : r.found d =
        .error (.refusal (.readFailure (Text.trim r.file) "read sheet" flaw.message)) := by
      rw [hfound, Directory.read_eq hw hs, hflaw]
      rfl
    simp [herror, failsAs_error_iff, Fault.kind?, Refusal.kind]
  | none =>
    rcases proper.found_cases (Directory.read_of_sheet? hw hs hflaw) with
      ⟨hshort, found, hok⟩ | ⟨hlong, count, herror⟩
    · simpa [hok, not_failsAs_ok] using hshort
    · simpa [herror, failsAs_error_iff, Fault.kind?] using hlong

end SearchRequest

/-! ### A cell of digits -/

theorem Text.decodeCoded_of_not_mem {l : List Char} (h : '_' ∉ l) : decodeCoded l = l := by
  induction l with
  | nil => rfl
  | cons c r ih =>
    obtain ⟨hc, hr⟩ := List.ne_and_not_mem_of_not_mem_cons h
    unfold decodeCoded
    split
    · rename_i heq
      exact absurd (List.cons.inj heq).1.symm hc
    · rename_i heq
      cases heq
      rw [ih hr]
    · rename_i heq
      cases heq

/-- A worksheet of one cell, which holds a text. -/
def textCell (l : List Char) : Sheet :=
  (∅ : Sheet).put 0 0 (some (.text (String.ofList l)))

/-- One file with such a worksheet. -/
def oneText (l : List Char) : Directory :=
  .ofFile "b.xlsx" ⟨[("S", textCell l)]⟩

section Digits
variable {l : List Char} (hne : l ≠ []) (h : ∀ c ∈ l, c.isDigit = true)
include hne h

/-- Digits are seen as they are. -/
theorem Value.seen_digits :
    (text (String.ofList l)).seen none = some (text (String.ofList l)) := by
  obtain ⟨c, r, rfl⟩ := List.exists_cons_of_ne_nil hne
  have hc : c.isDigit = true := h c (List.mem_cons_self ..)
  have hcode : '_' ∉ c :: r := fun hmem => absurd (h _ hmem) (by decide)
  have hformula : isFormula (String.ofList (c :: r)) = false := by
    unfold isFormula
    rw [String.toList_ofList]
    split
    · rename_i heq
      cases heq
      cases hc
    · rfl
  have herror : errorTexts.contains (String.ofList (c :: r)) = false := by
    have hmark : ∀ s ∈ errorTexts, s.toList.head? = some '#' := by decide
    rw [List.contains_eq_mem, decide_eq_false_iff_not]
    intro hmem
    have hhead := hmark _ hmem
    rw [String.toList_ofList] at hhead
    cases hhead
    cases hc
  have hfilled : Text.isBlankText (String.ofList (c :: r)) = false :=
    Text.isBlankText_eq_false_iff.mpr ⟨c, by simp, Text.isBlank_of_isDigit hc⟩
  have hseen : seenText (String.ofList (c :: r)) = String.ofList (c :: r) := by
    rw [seenText, hfilled]
    simp only [Bool.false_eq_true, if_false, String.toList_ofList,
      Text.decodeCoded_of_not_mem hcode]
  have hsome : (String.ofList (c :: r)).isEmpty = false := by
    rw [String.isEmpty_eq_false_iff, ← String.toList_inj.ne, String.toList_ofList]
    exact List.cons_ne_nil c r
  rw [seen_text, hformula, herror, hseen, normalized, hsome]
  rfl

theorem Criterion.holdsOverlong_digits_iff :
    HoldsOverlong (some (.text (String.ofList l))) ↔ Numeral.digitLimit < l.length := by
  have htrim : Text.trim (String.ofList l) = String.ofList l := by
    rw [Text.trim, String.toList_ofList,
      Text.trimBy_of_none fun c hc => Text.isBlank_of_isDigit (h c hc)]
  have hread : Numeral.read? (Numeral.minus false ++ l) = some (.integer false l) :=
    Numeral.read?_digits hne h
  show AddRequest.IsOverlong (Text.trim (String.ofList l)) ↔ _
  rw [htrim, AddRequest.IsOverlong, String.toList_ofList]
  constructor
  · rintro ⟨_, _, heq, hlong⟩
    cases hread.symm.trans heq
    exact hlong
  · exact fun hlong => ⟨false, l, hread, hlong⟩

theorem cell_reading_textCell (i : Nat) : (textCell l).reading.cell i 0 =
    if i = 0 then some (.text (String.ofList l)) else none := by
  have hcell : (textCell l).cell i 0 = if i = 0 then some (.text (String.ofList l)) else none := by
    simp only [textCell, Sheet.cell_put, and_true]
    rfl
  have hstyle : (textCell l).style i 0 = none := rfl
  rw [Sheet.cell_reading, hcell, hstyle]
  split
  · exact Value.seen_digits hne h
  · rfl

theorem flaw?_textCell : (textCell l).reading.flaw? = none := by
  refine Reading.flaw?_eq_none_iff.mpr fun i j u hu => ?_
  rw [Sheet.cell_reading, textCell, Sheet.cell_put] at hu
  split at hu
  · rename_i hplace
    obtain ⟨rfl, rfl⟩ := hplace
    have hseen : (Value.text (String.ofList l)).seen none = some u := hu
    rw [Value.seen_digits hne h] at hseen
    cases hseen
    rfl
  · cases hu

end Digits

namespace SearchRequest

/-- The request for the rows that hold a text in the first column. -/
def forText (value : String) : SearchRequest :=
  ⟨"b.xlsx", "S", some 0, .equal, value, false, 0⟩

theorem proper_forText : (forText "x").Proper 0 where
  file := by decide
  sheet := by decide
  column := rfl
  short := by decide
  numeric := fun h => nomatch h

section Runs
variable (l : List Char)

theorem openForReading_oneText :
    (oneText l).openForReading "b.xlsx" = .ok ⟨[("S", textCell l)]⟩ := rfl

theorem sheet?_oneText : Workbook.sheet? ⟨[("S", textCell l)]⟩ "S" = some (textCell l) := rfl

end Runs

/-- A search in a column of one digit succeeds. -/
theorem run_proper_digit :
    let l := ['1']
    (forText "x").Proper 0 ∧
      (oneText l).openForReading "b.xlsx" = .ok ⟨[("S", textCell l)]⟩ ∧
      Workbook.sheet? ⟨[("S", textCell l)]⟩ "S" = some (textCell l) ∧
      ((forText "x").run (oneText l)).isSuccess = true := by
  intro l
  refine ⟨proper_forText, openForReading_oneText l, sheet?_oneText l, ?_⟩
  have hrun := run_proper (forText "x") (oneText l) ⟨[("S", textCell l)]⟩ (textCell l) 0
    proper_forText (openForReading_oneText l) (sheet?_oneText l)
  have hdigit : ∀ c ∈ l, c.isDigit = true := List.forall_mem_singleton.mpr rfl
  refine hrun.1.mpr ⟨flaw?_textCell (by decide) hdigit, fun i _ => ?_⟩
  rw [cell_reading_textCell (by decide) hdigit]
  split
  · rw [Criterion.holdsOverlong_digits_iff (by decide) hdigit]
    decide
  · exact id

/-- A text of too many digits breaks the search down. -/
theorem run_oneText_of_overlong {l : List Char} (hdigits : ∀ c ∈ l, c.isDigit = true)
    (hlength : Numeral.digitLimit < l.length) :
    (textCell l).reading.flaw? = none ∧ ((forText "x").run (oneText l)).isSuccess = false ∧
      ((forText "x").run (oneText l)).errorCode = some Outcome.internalCode := by
  have hne : l ≠ [] := List.length_pos_iff.mp (Nat.zero_lt_of_lt hlength)
  have hflaw := flaw?_textCell hne hdigits
  have hcell : (textCell l).reading.cell 0 0 = some (.text (String.ofList l)) := by
    rw [cell_reading_textCell hne hdigits, if_pos rfl]
  have hlong : Criterion.HoldsOverlong ((textCell l).reading.cell 0 0) := by
    rw [hcell, Criterion.holdsOverlong_digits_iff hne hdigits]
    exact hlength
  have hrow : 0 ∈ (textCell l).reading.dataRows 0 false :=
    Reading.mem_dataRows.mpr ⟨Nat.le_refl 0, Reading.lt_rowCount (by rw [hcell]; simp)⟩
  have hread : (oneText l).read "b.xlsx" "S" = .ok (textCell l).reading :=
    Directory.read_of_sheet? (openForReading_oneText l) (sheet?_oneText l) hflaw
  rcases proper_forText.found_cases hread with ⟨hshort, _⟩ | ⟨_, count, herror⟩
  · exact absurd hlong (hshort 0 hrow)
  · have hrun : (forText "x").run (oneText l) =
        .ofFault "" (.breakdown (.numeralTooLong count)) := by
      rw [run, herror]
    rw [hrun]
    exact ⟨hflaw, rfl, rfl⟩

/-- A search in a column of 4301 digits breaks down. -/
theorem internalCode_digits :
    let l := List.replicate 4301 '1'
    (forText "x").Proper 0 ∧
      (oneText l).openForReading "b.xlsx" = .ok ⟨[("S", textCell l)]⟩ ∧
      Workbook.sheet? ⟨[("S", textCell l)]⟩ "S" = some (textCell l) ∧
      (textCell l).reading.flaw? = none ∧
      ((forText "x").run (oneText l)).isSuccess = false ∧
      ((forText "x").run (oneText l)).errorCode = some Outcome.internalCode := by
  refine ⟨proper_forText, openForReading_oneText _, sheet?_oneText _,
    run_oneText_of_overlong (fun c hc => ?_) ?_⟩
  · rw [List.eq_of_mem_replicate hc]
    decide
  · rw [List.length_replicate]
    decide

end SearchRequest

end SheetActions
