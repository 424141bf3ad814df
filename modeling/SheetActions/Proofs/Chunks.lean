import SheetActions.Proofs.Appending
import SheetActions.Proofs.Reopening

/-! Appending in chunks.

Data that is appended ends with its last row, as long as that row is not blank
(`usedRows_changed`). So what is appended next follows it without a gap, and a text of rows
may be cut into two at a row delimiter and appended in two goes (`append_in_chunks`). -/
namespace SheetActions

/-- The rows of data that is appended are those behind the used ones. -/
theorem Placement.places_iff_of_blank {spec : String} (h : Text.isBlankText spec = true)
    {used count : Nat} (pos : 0 < count) {rows : IndexSet} :
    Places spec used count rows ↔
      used + count ≤ maxRowIndex + 1 ∧ rows = .interval used count := by
  have hstart : appendStart used false = used := rfl
  have hresolved : resolveRows spec used count false false = .ok rows ↔
      used + count ≤ maxRowIndex + 1 ∧ rows = .interval used count := by
    rw [resolveRows_of_blank h, hstart]
    split
    · exact iff_of_false nofun fun h => by omega
    · rw [Except.ok.injEq, eq_comm]
      exact (and_iff_right (by omega)).symm
  rw [← hresolved]
  refine ⟨Places.resolved, fun h => ⟨h, ?_⟩⟩
  rw [(hresolved.mp h).2, size_interval]

namespace AddRequest
variable {r : AddRequest} {d : Directory} {s e : Sheet} {p : Plan}

/-- A request that has data finds the worksheet whatever the data is. -/
theorem subject_congr {r' : AddRequest} (hfile : r.file = r'.file) (hsheet : r.sheet = r'.sheet)
    (h : Text.isBlankText r.data = false) (h' : Text.isBlankText r'.data = false) (d : Directory) :
    r.subject d = r'.subject d := by
  simp only [subject, hfile, hsheet, h, h']

theorem isBlankText_append {first middle last : String} (h : Text.isBlankText first = false) :
    Text.isBlankText (first ++ middle ++ last) = false := by
  obtain ⟨c, hc, hvisible⟩ := Text.isBlankText_eq_false_iff.mp h
  refine Text.isBlankText_eq_false_iff.mpr ⟨c, ?_, hvisible⟩
  rw [String.toList_append, String.toList_append]
  exact List.mem_append_left _ (List.mem_append_left _ hc)

theorem plan_iff_of_blank_rows (plain : r.Plain) (appending : Text.isBlankText r.rows = true) :
    r.plan s = .ok p ↔
      Payload.parse r.rowDelimiter r.columnDelimiter r.data = .ok p.data ∧
        s.usedRows + p.data.rowCount ≤ maxRowIndex + 1 ∧
        p.rows = .interval s.usedRows p.data.rowCount ∧
        Placement.Serves r.columns p.data p.columns := by
  rw [plan_iff_of_plain plain]
  refine and_congr_right fun hdata => ?_
  rw [Placement.places_iff_of_blank appending (Payload.rowCount_pos hdata), and_assoc]

/-! ### Where the used rows end -/

/-- The last row has a token that is not blank. -/
def EndsFilled (data : Payload) : Prop :=
  ∃ row ∈ data.rows.getLast?, ∃ token ∈ row, token ≠ ""

section Changed
variable (plain : r.Plain) (appending : Text.isBlankText r.rows = true) (hp : r.plan s = .ok p)
  (he : r.changed s = some e)
include plain appending hp he

/-- No rows need to be opened for data that is appended. -/
theorem run_of_changed : Progress.run (Sheet.writeToken false) s p.targets = .done e := by
  obtain ⟨_, _, hrows, _⟩ := (plan_iff_of_blank_rows plain appending).mp hp
  have hbehind : ∀ i ∈ p.rows, s.usedRows ≤ i := by
    rw [hrows]
    exact fun i hi => (IndexSet.mem_interval.mp hi).1
  rw [changed_of_plan plain hp, Sheet.fill, Sheet.openRows_of_usedRows_le hbehind] at he
  exact Progress.end?_eq_some.mp he

theorem usedRows_changed_le : e.usedRows ≤ s.usedRows + p.data.rowCount := by
  obtain ⟨_, _, hrows, _⟩ := (plan_iff_of_blank_rows plain appending).mp hp
  refine Sheet.usedRows_le_iff.mpr fun i c hi => ?_
  rw [Sheet.cell_of_run (run_of_changed plain appending hp he),
    Sheet.cell_of_usedRows_le (by omega)]
  rintro a ha ⟨⟩
  obtain ⟨k, _, _, _, _, hk, _⟩ := Sheet.mem_targets.mp ha
  have hin : a.row ∈ p.rows := List.mem_of_getElem? hk
  rw [hrows] at hin
  have := (IndexSet.mem_interval.mp hin).2
  omega

/-- After appending the used rows end with the data. -/
theorem usedRows_changed (filled : EndsFilled p.data) :
    e.usedRows = s.usedRows + p.data.rowCount := by
  refine Nat.le_antisymm (usedRows_changed_le plain appending hp he) ?_
  obtain ⟨hdata, _, hrows, hserves⟩ := (plan_iff_of_blank_rows plain appending).mp hp
  have hpos := Payload.rowCount_pos hdata
  obtain ⟨row, hrow, token, htoken, hne⟩ := filled
  obtain ⟨j, hj⟩ := List.mem_iff_getElem?.mp htoken
  have hlast : p.data.rows[p.data.rowCount - 1]? = some row := by
    rw [← hrow, List.getLast?_eq_getElem?]
    rfl
  have htarget : p.rows.toList[p.data.rowCount - 1]? =
      some (s.usedRows + p.data.rowCount - 1) := by
    rw [hrows]
    show (List.range' _ _)[_]? = _
    rw [List.getElem?_range' (by omega)]
    congr 1
    omega
  have hrowsFit : p.data.rowCount ≤ p.rows.size := by
    rw [hrows]
    exact Nat.le_of_eq (List.length_range' ..).symm
  obtain ⟨r, c, hr, _, ha⟩ := Sheet.exists_place_of_token hrowsFit hserves.fits hlast hj
  obtain rfl : s.usedRows + p.data.rowCount - 1 = r := Option.some.inj (htarget.symm.trans hr)
  obtain ⟨_, v, kept, hv, hkept, hcell⟩ := Sheet.content_of_run (Sheet.nodup_targets ..)
    (run_of_changed plain appending hp he) _ ha
  -- if the used rows ended before, the token would be blank
  refine Nat.le_of_not_lt fun hlt => hne ?_
  have hbehind : e.usedRows ≤ s.usedRows + p.data.rowCount - 1 := by omega
  obtain rfl : kept = none := hcell.symm.trans (Sheet.cell_of_usedRows_le hbehind _)
  refine Sheet.eq_empty_of_contentOf? (toOption_eq_some.mpr ?_)
  exact bind_eq_ok.mpr ⟨v, hv, hkept⟩

end Changed

/-! ### Two chunks -/

section Chunks
variable {delimiter : Char} {first second : String} (plain : r.Plain)
  (appending : Text.isBlankText r.rows = true)
  (delimited : r.rowDelimiter = String.singleton delimiter)
include plain delimited

theorem parts_chunks (first second : String) :
    Parts { r with data := first ++ r.rowDelimiter ++ second }
      { r with data := first } { r with data := second } where
  plain := ⟨plain.inserting, plain.noHeader⟩
  plainFront := ⟨plain.inserting, plain.noHeader⟩
  plainBack := ⟨plain.inserting, plain.noHeader⟩
  data := by
    rw [delimited]
    exact Payload.parse_append_iff
  columnsFront := rfl
  columnsBack := rfl

include appending

/-- A sheet to which both chunks are appended gets what is appended at once. -/
theorem agree_changed_chunks
    (ends : ∀ data, Payload.parse r.rowDelimiter r.columnDelimiter first = .ok data →
      EndsFilled data) (s : Sheet) :
    Sheet.Agree ({ r with data := first ++ r.rowDelimiter ++ second }.changed s)
      (({ r with data := first }.changed s).bind { r with data := second }.changed) := by
  have parts := parts_chunks plain delimited first second
  have hused : ∀ {a e}, Payload.parse r.rowDelimiter r.columnDelimiter first = .ok a →
      { r with data := first }.changed s = some e → e.usedRows = s.usedRows + a.rowCount := by
    intro a e ha he
    obtain ⟨p, hp, _⟩ := changed_eq_some.mp he
    obtain ⟨hdata, _⟩ := (plan_iff_of_plain parts.plainFront).mp hp
    cases ha.symm.trans hdata
    exact usedRows_changed parts.plainFront appending hp he (ends _ ha)
  refine parts.agree_changed ?_ ?_
  · intro a b rows ha hb places
    have hpos := Payload.rowCount_pos ha
    have hpos' := Payload.rowCount_pos hb
    obtain ⟨hgrid, rfl⟩ := (Placement.places_iff_of_blank appending (by omega)).mp places
    refine ⟨.interval s.usedRows a.rowCount, .interval (s.usedRows + a.rowCount) b.rowCount,
      List.range'_append_1.symm, (Placement.size_interval ..).symm, ?_, fun e he => ?_⟩
    · exact (Placement.places_iff_of_blank appending hpos).mpr ⟨by omega, rfl⟩
    · refine (Placement.places_iff_of_blank appending hpos').mpr ?_
      rw [hused ha he]
      exact ⟨by omega, rfl⟩
  · intro a b rows₁ rows₂ e ha hb _ he hback
    have hpos := Payload.rowCount_pos hb
    obtain ⟨hgrid, _⟩ := (Placement.places_iff_of_blank appending hpos).mp hback
    rw [hused ha he] at hgrid
    exact ⟨_, (Placement.places_iff_of_blank appending (by omega)).mpr ⟨by omega, rfl⟩⟩

/-- With both chunks filled, appending them is appending the text that joins them. -/
theorem splits_chunks (filled : Text.isBlankText first = false)
    (filled' : Text.isBlankText second = false)
    (ends : ∀ data, Payload.parse r.rowDelimiter r.columnDelimiter first = .ok data →
      EndsFilled data) :
    Splits { r with data := first ++ r.rowDelimiter ++ second } { r with data := first }
      { r with data := second } where
  subjectFront := subject_congr rfl rfl filled (isBlankText_append filled)
  subjectBack := subject_congr rfl rfl filled' (isBlankText_append filled)
  plainBack := (parts_chunks plain delimited first second).plainBack
  changed := agree_changed_chunks plain appending delimited ends

end Chunks

/-- **Appending in chunks.** Without a header and with rows that are told apart by a single
character, a text of rows is appended just when its two parts are, the second to what the first
left, and the file then holds the same cells and heights. The last row of the first part must
not be blank, and what is saved with it must be there when it is loaded again (`Lasting`); the
file is `Covered` as all files are. -/
theorem append_in_chunks (r : AddRequest) (d : Directory) (delimiter : Char) (first second : String)
    (appending : Text.isBlankText r.rows = true) (noHeader : Text.isBlankText r.header = true)
    (delimited : r.rowDelimiter = String.singleton delimiter)
    (filled : Text.isBlankText first = false) (filled' : Text.isBlankText second = false)
    (ends : ∀ data, Payload.parse r.rowDelimiter r.columnDelimiter first = .ok data →
      EndsFilled data)
    (covered : d.Covered) (lasting : { r with data := first }.Lasting d) :
    let whole := { r with data := first ++ r.rowDelimiter ++ second }
    let front := { r with data := first }
    let back := { r with data := second }
    ((whole.run d).1.isSuccess = true ↔
      (front.run d).1.isSuccess = true ∧ (back.run (front.run d).2).1.isSuccess = true) ∧
    ((whole.run d).1.isSuccess = true →
      Directory.SameSheet (Text.trim r.file) (Text.trim r.sheet) (whole.run d).2
        (back.run (front.run d).2).2) := by
  -- overwriting makes no difference, so the request is taken to insert
  have hrun : ∀ data d, { r with data, overwrite := false }.run d = { r with data }.run d :=
    fun data d => run_of_blank_rows (r := { r with data }) appending false
  have hlasting : { r with data := first, overwrite := false }.Lasting d := by
    intro t ht
    rw [draft_of_blank_rows (r := { r with data := first }) appending false] at ht
    exact lasting t ht
  have hsplits := splits_chunks (r := { r with overwrite := false }) ⟨rfl, noHeader⟩ appending
    delimited filled filled' ends
  have hresult := hsplits.run covered hlasting
  simp only [hrun] at hresult
  exact hresult

theorem covered_twoRows : twoRows.Covered := by
  refine Directory.all_ofFile fun e he => ?_
  obtain rfl := List.mem_singleton.mp he
  exact (Sheet.covered_empty.put ..).put ..

/-- A row and then another one are appended as if they had come together. -/
theorem append_in_chunks_twoMore :
    let whole := { twoMore with data := "x,1" ++ twoMore.rowDelimiter ++ "y" }
    let front := { twoMore with data := "x,1" }
    let back := { twoMore with data := "y" }
    twoRows.Covered ∧ front.Lasting twoRows ∧ (whole.run twoRows).1.isSuccess = true ∧
      Directory.SameSheet (Text.trim twoMore.file) (Text.trim twoMore.sheet)
        (whole.run twoRows).2 (back.run (front.run twoRows).2).2 := by
  intro whole front back
  have hlasting : front.Lasting twoRows := lasting_of_draft (by decide +kernel)
  have hsuccess : (whole.run twoRows).1.isSuccess = true := by decide +kernel
  have hends : ∀ data, Payload.parse "|" "," "x,1" = .ok data → EndsFilled data := by
    intro data hdata
    have hparse : Payload.parse "|" "," "x,1" = .ok ⟨[["x", "1"]]⟩ := by rfl
    cases hparse.symm.trans hdata
    exact ⟨["x", "1"], rfl, "x", by decide, by decide⟩
  have hchunks := append_in_chunks twoMore twoRows '|' "x,1" "y" (by decide) (by decide) rfl
    (by decide) (by decide) hends covered_twoRows hlasting
  exact ⟨covered_twoRows, hlasting, hsuccess, hchunks.2 hsuccess⟩

end AddRequest

end SheetActions
