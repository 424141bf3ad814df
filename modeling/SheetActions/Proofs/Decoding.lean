import SheetActions.Proofs.Selecting

/-! Lines that are taken apart again.

A request to read gives its cells as delimited text, and data to be added comes as delimited text
too. Between two characters as delimiters, which no cell shows, the one undoes the other: rows are
split before tokens are trimmed, so neither blank cells nor delimiters that are blank themselves
are lost (`parse_intercalate`). The data has a row for each line and a token for each cell, which is
the text of the cell without the blanks around it (`parse_result`). -/
namespace SheetActions

/-- A character of a joint text is one of the delimiter or of a part. -/
theorem Text.mem_intercalate {c : Char} {delimiter : List Char} {parts : List (List Char)}
    (h : c ∈ delimiter.intercalate parts) : c ∈ delimiter ∨ ∃ p ∈ parts, c ∈ p := by
  induction parts with
  | nil => cases h
  | cons p parts ih =>
    cases parts with
    | nil =>
      rw [List.intercalate_singleton] at h
      exact .inr ⟨p, List.mem_cons_self .., h⟩
    | cons q parts =>
      rw [List.intercalate_cons_cons, List.mem_append, List.mem_append] at h
      rcases h with (h | h) | h
      · exact .inr ⟨p, List.mem_cons_self .., h⟩
      · exact .inl h
      · refine (ih h).imp_right fun ⟨q, hq, hc⟩ => ?_
        exact ⟨q, List.mem_cons_of_mem _ hq, hc⟩

namespace Payload
variable {rowMark columnMark : Char}

/-- The tokens of texts that were joined are the texts, trimmed. -/
theorem tokens_intercalate {texts : List String} (hne : texts ≠ [])
    (h : ∀ s ∈ texts, columnMark ∉ s.toList) :
    tokens (String.singleton columnMark) ((String.singleton columnMark).intercalate texts) =
      .ok (texts.map Text.trim) := by
  rw [tokens, split_intercalate hne h]
  rfl

/-- Rows of texts that hold neither delimiter are the rows of their joint text, trimmed. -/
theorem parse_intercalate (rows : List (List String)) (apart : rowMark ≠ columnMark)
    (hne : rows ≠ []) (filled : ∀ row ∈ rows, row ≠ [])
    (free : ∀ row ∈ rows, ∀ s ∈ row, rowMark ∉ s.toList ∧ columnMark ∉ s.toList) :
    parse (String.singleton rowMark) (String.singleton columnMark)
        ((String.singleton rowMark).intercalate
          (rows.map (String.singleton columnMark).intercalate)) =
      .ok ⟨rows.map (List.map Text.trim)⟩ := by
  have hlines : ∀ line ∈ rows.map (String.singleton columnMark).intercalate,
      rowMark ∉ line.toList := by
    intro line hline hmem
    obtain ⟨row, hrow, rfl⟩ := List.mem_map.mp hline
    rw [String.toList_intercalate, String.toList_singleton] at hmem
    rcases Text.mem_intercalate hmem with hmark | ⟨_, hp, hc⟩
    · exact apart (List.mem_singleton.mp hmark)
    · obtain ⟨s, hs, rfl⟩ := List.mem_map.mp hp
      exact (free row hrow s hs).1 hc
  refine parse_eq_ok.mpr ⟨_, split_intercalate (by simpa using hne) hlines, ?_⟩
  exact mapM_map_eq_ok fun row hrow =>
    tokens_intercalate (filled row hrow) fun s hs => (free row hrow s hs).2

end Payload

namespace ReadRequest
variable {q : ReadRequest} {d : Directory}

/-- A request to read succeeds when the worksheet is read and both specifications are accepted. -/
theorem isSuccess_iff : (q.run d).isSuccess = true ↔
    ∃ v rows columns, q.reading d = .ok v ∧ q.selectedRows v = .ok rows ∧
      q.selectedColumns v = .ok columns := by
  constructor
  · intro h
    cases hanswer : q.reading d >>= q.answer with
    | error f =>
      have hrun : q.run d = .ofFault "" f := by simp only [run, hanswer]
      rw [hrun, Outcome.isSuccess_ofFault] at h
      cases h
    | ok o =>
      obtain ⟨v, hv, ho⟩ := bind_eq_ok.mp hanswer
      obtain ⟨rows, hrows, ho⟩ := bind_eq_ok.mp ho
      obtain ⟨columns, hcolumns, _⟩ := bind_eq_ok.mp ho
      exact ⟨v, rows, columns, hv, hrows, hcolumns⟩
  · rintro ⟨v, rows, columns, hv, hrows, hcolumns⟩
    rw [run_of_answer hv (answer_eq hrows hcolumns)]
    rfl

/-- **Decoding.** A request to read succeeds, and its delimiters are two different characters. Its
result tells how many rows and columns were selected. If there are some, and no selected cell shows
a delimiter, the result is split into data again that has a row for each selected row, with a token
for each selected column: the text of the cell, trimmed. -/
theorem parse_result (q : ReadRequest) (d : Directory) (rowMark columnMark : Char)
    (apart : rowMark ≠ columnMark) (hrow : q.rowDelimiter = String.singleton rowMark)
    (hcolumn : q.columnDelimiter = String.singleton columnMark)
    (success : (q.run d).isSuccess = true) :
    ∃ v rows columns, q.reading d = .ok v ∧ q.selectedRows v = .ok rows ∧
      q.selectedColumns v = .ok columns ∧
      (q.run d).outputs.lookup "rowsCount" = some (toString rows.length) ∧
      (q.run d).outputs.lookup "columnsCount" = some (toString columns.length) ∧
      (1 ≤ rows.length → 1 ≤ columns.length →
        (∀ i ∈ rows, ∀ text ∈ v.renderedCells columns i,
          rowMark ∉ text.toList ∧ columnMark ∉ text.toList) →
        ∃ data, Payload.parse q.rowDelimiter q.columnDelimiter (q.run d).returnResult = .ok data ∧
          data.rows = rows.map (fun i => (v.renderedCells columns i).map Text.trim) ∧
          data.rowCount = rows.length ∧ ∀ row ∈ data.rows, row.length = columns.length) := by
  obtain ⟨v, rows, columns, hv, hrows, hcolumns⟩ := isSuccess_iff.mp success
  have hrun := run_of_answer hv (answer_eq hrows hcolumns)
  refine ⟨v, rows, columns, hv, hrows, hcolumns, by rw [hrun]; rfl, by rw [hrun]; rfl, ?_⟩
  intro someRows someColumns free
  have hlines : rows.map (v.line columns q.columnDelimiter) =
      (rows.map (v.renderedCells columns)).map q.columnDelimiter.intercalate := by
    rw [List.map_map]
    rfl
  have hwidth : ∀ i, (v.renderedCells columns i).length = columns.length := fun i =>
    List.length_map _
  have hparse := Payload.parse_intercalate (rows.map (v.renderedCells columns)) apart
    (by simpa using List.length_pos_iff.mp someRows)
    (List.forall_mem_map.mpr fun i _ => List.length_pos_iff.mp (by rw [hwidth]; exact someColumns))
    (List.forall_mem_map.mpr free)
  refine ⟨_, ?_, List.map_map, ?_, ?_⟩
  · rw [hrun]
    show Payload.parse _ _ (q.rowDelimiter.intercalate _) = _
    rw [hlines, hrow, hcolumn]
    exact hparse
  · simp only [Payload.rowCount, List.length_map]
  · simp only [List.forall_mem_map, List.length_map, hwidth, implies_true]

/-- Three rows with a blank one between them. -/
def spacedRows : Directory :=
  .ofFile "b.xlsx" ⟨[("S",
    ((∅ : Sheet).put 0 0 (some (.text " x "))).put 2 1 (some (.integer 5)))]⟩

/-- They are read with delimiters that are blanks, and all of the blank cells are found again. -/
theorem parse_result_spacedRows :
    let q : ReadRequest := ⟨"b.xlsx", "S", false, 0, "", "", "\n", "\t"⟩
    (q.run spacedRows).returnResult = " x \t\n\t\n\t5" ∧
      Payload.parse "\n" "\t" (q.run spacedRows).returnResult =
        .ok ⟨[["x", ""], ["", ""], ["", "5"]]⟩ := by
  intro q
  have success : (q.run spacedRows).isSuccess = true := by decide +kernel
  obtain ⟨v, rows, columns, hv, hrows, hcolumns, _, _, hback⟩ :=
    parse_result q spacedRows '\n' '\t' (by decide) (by decide) (by decide) success
  have hselected : ((q.reading spacedRows).toOption.bind fun v =>
      (q.selectedRows v).toOption.bind fun rows =>
        (q.selectedColumns v).toOption.map fun columns =>
          (rows.length, columns.length, rows.map (v.renderedCells columns))) =
      some (3, 2, [[" x ", ""], ["", ""], ["", "5"]]) := by decide +kernel
  rw [hv, toOption_eq_some.mpr rfl, Option.bind_some, hrows, hcolumns] at hselected
  obtain ⟨hcount, hselected⟩ := Prod.mk.inj (Option.some.inj hselected)
  obtain ⟨hwidth, hcells⟩ := Prod.mk.inj hselected
  have free : ∀ row ∈ rows.map (v.renderedCells columns), ∀ text ∈ row,
      '\n' ∉ text.toList ∧ '\t' ∉ text.toList := by
    rw [hcells]
    decide
  obtain ⟨data, hdata, htokens, _⟩ :=
    hback (by omega) (by omega) fun i hi => free _ (List.mem_map_of_mem hi)
  have htrimmed : data.rows = [["x", ""], ["", ""], ["", "5"]] := by
    have hmap := congrArg (List.map (List.map Text.trim)) hcells
    rw [List.map_map] at hmap
    exact (htokens.trans hmap).trans (by decide +kernel)
  refine ⟨by decide +kernel, hdata.trans ?_⟩
  rw [← htrimmed]

end ReadRequest

end SheetActions
