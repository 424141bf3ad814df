import SheetActions.Proofs.Appending
import SheetActions.Proofs.Outcomes
import SheetActions.Proofs.Reopening
import SheetActions.Proofs.Within

/-! When inserting succeeds.

A request that inserts data without a header needs rows and columns for the data, and the
grid must have room for the rows that move down (`exists_changed_iff`). Then the sheet is
changed, and what is left is that the workbook can be saved with it (`savable_changed_iff`).
A move past the last row is the only reason to be told of a shift failure: the cells that
the data is written to have all been opened (`insert_succeeds_iff`). -/
namespace SheetActions

/-- A file can take a token that is an integer, since it is not beyond the floating-point
numbers; any other token it can take anyway. -/
def FitsFile (token : String) : Prop :=
  ∀ n, coerce token = .ok (.integer n) → (Binary64.ofInt n).isFinite = true

namespace Sheet
variable {s e : Sheet} {rows : IndexSet}

/-- The grid has room for the used rows once rows were opened. -/
def StaysInGrid (s : Sheet) (rows : IndexSet) : Prop :=
  s.lastRow = -1 ∨ rows.outside s.lastRow.toNat ≤ maxRowIndex

theorem staysInGrid_iff : s.StaysInGrid rows ↔ grown rows.toList s.usedRows ≤ maxRowIndex + 1 := by
  have hrow : s.lastRow = (s.usedRows : Int) - 1 := rfl
  rw [StaysInGrid, hrow]
  cases s.usedRows with
  | zero => simp [grown]
  | succ n => simp [grown, IndexSet.outside]

/-- Rows that cannot be moved down would leave the grid. -/
theorem grown_of_shiftFailure {rs : List Run} {f : Fault} (hf : f.IsShiftFailure)
    (h : (s.openRuns rs).fault = some f) :
    maxRowIndex + 1 < grown (rs.flatMap Run.toList) s.usedRows := by
  induction rs generalizing s with
  | nil => cases h
  | cons r rs ih =>
    rw [List.flatMap_cons, grown_append]
    cases hr : s.openRun r with
    | error g =>
      rw [openRuns_cons_error hr] at h
      cases h
      have hrow := le_grown (rs.flatMap Run.toList) (grown r.toList s.usedRows)
      rw [grown_run] at hrow ⊢
      unfold openRun at hr
      split at hr
      · cases hr
      · split at hr
        · rw [if_pos (by omega)] at hrow ⊢
          omega
        · split at hr
          · cases hr
            obtain ⟨_, _, _, _, hbreak⟩ := hf
            cases hbreak
          · cases hr
    | ok t =>
      rw [openRuns_cons_ok hr] at h
      rw [← (opened_of_openRun hr).usedRows]
      exact ih h

/-- A value that a cell is given for a token fits into a file if the token does. -/
theorem isStorable_of_content {token : String} {v kept : Value} (hv : coerce token = .ok v)
    (hkept : content v = .ok (some kept)) (h : FitsFile token) : kept.isStorable = true := by
  cases v with
  | integer n =>
    cases hkept
    exact h n hv
  | text t =>
    simp only [content] at hkept
    split at hkept
    · cases hkept
    · have hsome := Except.ok.inj hkept
      split at hsome
      · cases hsome
      · cases hsome
        rfl
  | other t => cases hkept
  | _ =>
    cases hkept
    rfl

/-- The columns that are touched are those that were, and those of the tokens. -/
theorem columns_run_le_iff {overwrite : Bool} {l : List Target} {n : Nat}
    (h : Progress.run (writeToken overwrite) s l = .done e) :
    e.extent.columns ≤ n ↔ s.extent.columns ≤ n ∧ ∀ a ∈ l, a.column < n := by
  induction l generalizing s with
  | nil =>
    cases h
    simp
  | cons a l ih =>
    obtain ⟨t, ha, hl⟩ := Progress.run_cons_eq_done.mp h
    obtain ⟨_, _, _, kept, _, _, rfl⟩ := writeToken_eq_done ha
    rw [ih hl, columns_put, Nat.max_le, List.forall_mem_cons, and_assoc]
    rfl

/-- A sheet can be saved with tokens that were written to blank cells of it, if it can be saved
without them and a file can take each of them. -/
theorem savable_fill_iff {l : List Target} (distinct : (l.map Target.place).Nodup)
    (named : ∀ a ∈ l, a.column < namedColumns) (h : s.fill rows l = some e) :
    e.Savable ↔ s.Savable ∧ ∀ a ∈ l, FitsFile a.token := by
  obtain ⟨o, ho, hrun⟩ := Option.bind_eq_some_iff.mp h
  have hopened := opened_of_done (Progress.end?_eq_some.mp ho)
  have hwritten := Progress.end?_eq_some.mp hrun
  constructor
  · intro he
    refine ⟨savable_of_fill h he, fun a ha n hn => ?_⟩
    obtain ⟨_, v, kept, hv, hkept, hcell⟩ := content_of_run distinct hwritten a ha
    cases hn.symm.trans hv
    cases hkept
    exact he.storable a.row a.column _ hcell
  · intro hs
    refine ⟨?_, fun r c v hv => ?_⟩
    · exact (columns_run_le_iff hwritten).mpr ⟨hopened.columns ▸ hs.1.columns, named⟩
    · rcases source_of_run distinct hwritten hv with ho | ⟨a, ha, _, _, w, hw, hkept⟩
      · by_cases hr : r ∈ rows.toList
        · rw [hopened.blank r hr c] at ho
          cases ho
        · obtain ⟨k, rfl⟩ := exists_skip_eq rows.ascending hr
          rw [hopened.kept] at ho
          exact hs.1.storable k c v ho
      · exact isStorable_of_content hw hkept (hs.2 a ha)

end Sheet

namespace AddRequest
variable {r : AddRequest} {d : Directory} {u : Subject} {p : Plan} {s e : Sheet} {data : Payload}

/-! ### The tokens of the data -/

theorem exists_target (placed : r.Placed s p) {row : List String} {token : String}
    (hrow : row ∈ p.data.rows) (htoken : token ∈ row) : ∃ a ∈ p.targets, a.token = token := by
  obtain ⟨i, hi⟩ := List.mem_iff_getElem?.mp hrow
  obtain ⟨j, hj⟩ := List.mem_iff_getElem?.mp htoken
  obtain ⟨_, _, _, _, ha⟩ :=
    Sheet.exists_place_of_token placed.rowsFit placed.columnsFit hi hj
  exact ⟨_, ha, rfl⟩

/-- What holds of all tokens of the data holds of all targets. -/
theorem forall_targets_iff (placed : r.Placed s p) {P : String → Prop} :
    (∀ a ∈ p.targets, P a.token) ↔ ∀ row ∈ p.data.rows, ∀ token ∈ row, P token := by
  constructor
  · intro h row hrow token htoken
    obtain ⟨a, ha, rfl⟩ := exists_target placed hrow htoken
    exact h a ha
  · intro h a ha
    obtain ⟨i, j, row, hrow, htoken, _⟩ := Sheet.mem_targets.mp ha
    exact h row (List.mem_of_getElem? hrow) a.token (List.mem_of_getElem? htoken)

theorem column_lt_of_placed (placed : r.Placed s p) :
    ∀ a ∈ p.targets, a.column < Sheet.namedColumns := by
  intro a ha
  obtain ⟨_, j, _, _, _, _, hj⟩ := Sheet.mem_targets.mp ha
  have hle := Placement.le_of_resolveColumns placed.columns a.column (List.mem_of_getElem? hj)
  exact Nat.lt_of_le_of_lt hle (by decide)

/-! ### The changed sheet -/

/-- There are rows and columns for the data, and the grid has room for the rows that move. -/
def HasRoom (r : AddRequest) (s : Sheet) (data : Payload) : Prop :=
  ∃ rows columns, Placement.Places r.rows s.usedRows data.rowCount rows ∧
    Placement.Serves r.columns data columns ∧ s.StaysInGrid rows

section Changed
variable (plain : r.Plain)
  (hdata : Payload.parse r.rowDelimiter r.columnDelimiter r.data = .ok data)
include plain hdata

/-- Where the targets were opened, tokens are written that their cells can take. -/
theorem exists_writeRows
    (taken : ∀ row ∈ data.rows, ∀ token ∈ row, (Sheet.contentOf? token).isSome)
    (hp : r.plan s = .ok p) {o : Sheet} (ho : s.openRows p.rows = .done o) :
    ∃ m, o.writeRows p.data p.rows p.columns r.overwrite = .done m := by
  have placed := placed_of_plan hp
  cases hdata.symm.trans placed.data
  have hopen : r.openTargets p s = .done o := by
    simpa [openTargets, plain.inserting] using ho
  simp only [← Progress.toExcept_eq_ok]
  refine exists_ok_of_not_failsAs fun k hk => ?_
  have hrows : ∀ a ∈ allTargets p [], a.row ≤ maxRowIndex := row_le_of_placed placed
  have grid : ∀ a ∈ p.targets, a.row ≤ maxRowIndex := fun a ha =>
    hrows a (List.mem_append_left _ ha)
  rw [writeRows_eq placed hopen] at hk
  obtain ⟨_, a, ha, hnone⟩ := (Sheet.failsAs_run_iff grid).mp hk
  have hsome := (forall_targets_iff placed).mpr taken a ha
  rw [hnone] at hsome
  cases hsome

/-- When a sheet of the grid was changed there was room for the data. -/
theorem hasRoom_of_changed (grid : s.InGrid) (h : r.changed s = some e) : r.HasRoom s data := by
  obtain ⟨p, hp, _⟩ := changed_eq_some.mp h
  obtain ⟨hparse, places, serves⟩ := (plan_iff_of_plain plain).mp hp
  cases hdata.symm.trans hparse
  rw [changed_of_plan plain hp] at h
  obtain ⟨o, ho, _⟩ := Option.bind_eq_some_iff.mp h
  have hdone : (s.openRows p.rows).fault = none := by
    rw [Progress.end?_eq_some.mp ho]
    rfl
  exact ⟨p.rows, p.columns, places, serves, ((Sheet.openRows_spec s p.rows grid).1.mp hdone).1⟩

/-- The tokens that were written to it were tokens that a cell can take. -/
theorem taken_of_changed (h : r.changed s = some e) :
    ∀ row ∈ data.rows, ∀ token ∈ row, (Sheet.contentOf? token).isSome := by
  obtain ⟨p, hp, _⟩ := changed_eq_some.mp h
  have placed := placed_of_plan hp
  cases hdata.symm.trans placed.data
  rw [changed_of_plan plain hp] at h
  obtain ⟨o, _, hrun⟩ := Option.bind_eq_some_iff.mp h
  refine (forall_targets_iff placed (P := fun token => (Sheet.contentOf? token).isSome)).mp ?_
  intro a ha
  obtain ⟨_, v, kept, hv, hkept, _⟩ :=
    Sheet.content_of_run (Sheet.nodup_targets ..) (Progress.end?_eq_some.mp hrun) a ha
  have hcontent : Sheet.contentOf? a.token = some kept :=
    toOption_eq_some.mpr (bind_eq_ok.mpr ⟨v, hv, hkept⟩)
  rw [hcontent]
  rfl

/-- A sheet of the grid is changed just when there is room for the data. -/
theorem exists_changed_iff (grid : s.InGrid) (named : s.extent.columns ≤ Sheet.namedColumns)
    (taken : ∀ row ∈ data.rows, ∀ token ∈ row, (Sheet.contentOf? token).isSome) :
    (∃ e, r.changed s = some e) ↔ r.HasRoom s data := by
  constructor
  · intro h
    obtain ⟨e, he⟩ := h
    exact hasRoom_of_changed plain hdata grid he
  · intro h
    obtain ⟨rows, columns, places, serves, hgrid⟩ := h
    have hopen : (s.openRows rows).fault = none :=
      (Sheet.openRows_spec s rows grid).1.mpr ⟨hgrid, .inl named⟩
    have hdone : s.openRows rows = .done (s.openRows rows).state :=
      congrArg (Progress.mk _) hopen
    have hp : r.plan s = .ok ⟨data, rows, columns⟩ :=
      (plan_iff_of_plain plain).mpr ⟨hdata, places, serves⟩
    have hfits := (plan_eq_ok_iff.mp hp).2.2.2.2
    obtain ⟨m, hm⟩ := exists_writeRows plain hdata taken hp hdone
    simp only [Sheet.writeRows, hfits, plain.inserting] at hm
    refine ⟨m, ?_⟩
    rw [changed_of_plan plain hp, Sheet.fill, hdone]
    exact Progress.end?_eq_some.mpr hm

/-- The changed sheet can be saved if the sheet can, and a file can take the tokens. -/
theorem savable_changed_iff (he : r.changed s = some e) :
    e.Savable ↔ s.Savable ∧ ∀ row ∈ data.rows, ∀ token ∈ row, FitsFile token := by
  obtain ⟨p, hp, _⟩ := changed_eq_some.mp he
  have placed := placed_of_plan hp
  cases hdata.symm.trans placed.data
  rw [changed_of_plan plain hp] at he
  rw [← forall_targets_iff placed]
  exact Sheet.savable_fill_iff (Sheet.nodup_targets ..) (column_lt_of_placed placed) he

/-- Where a shift failure comes from. -/
theorem exists_places_of_shiftFailure (hu : r.subject d = .ok u)
    (h : (r.run d).1.errorCode = some FailureKind.shiftFailure.code) :
    ∃ rows columns, Placement.Places r.rows u.sheet.usedRows data.rowCount rows ∧
      Placement.Serves r.columns data columns ∧ ¬ u.sheet.StaysInGrid rows := by
  have hcode : (r.run d).1.errorCode = some (FailureKind.codeOf (some .shiftFailure)) := h
  rcases errorCode_run_iff.mp hcode with hdraft | ⟨t, _, hsave⟩
  · rcases failsAs_draft_iff.mp hdraft with hsubject | ⟨u', hu', hchange⟩
    · rw [hu] at hsubject
      exact absurd hsubject not_failsAs_ok
    cases hu.symm.trans hu'
    rcases hchange with hplan | ⟨p, hp, hedit⟩
    · rcases failsAs_plan hdata hplan with hk | hk | hk | hk <;> cases hk
    obtain ⟨hparse, places, serves⟩ := (plan_iff_of_plain plain).mp hp
    cases hdata.symm.trans hparse
    rcases hedit with hopen | ⟨o, hopen, hwrite⟩
    · refine ⟨p.rows, p.columns, places, serves, fun hgrid => ?_⟩
      simp only [openTargets, plain.inserting, Bool.false_eq_true, if_false,
        Sheet.openRows_eq_openRuns] at hopen
      obtain ⟨f, hf, hkind⟩ := hopen
      have hfault : (u.sheet.openRuns p.rows.runs).fault = some f := by
        unfold Progress.toExcept at hf
        split at hf
        · cases hf
        · rename_i g hg
          cases hf
          exact hg
      have hpast := Sheet.grown_of_shiftFailure (Fault.isShiftFailure_iff.mpr hkind) hfault
      rw [IndexSet.flatMap_runs] at hpast
      have := Sheet.staysInGrid_iff.mp hgrid
      omega
    · have hheader : r.headerTokens = .ok [] := by
        rw [headerTokens, plain.hasHeader]
        rfl
      cases ((failsAs_write_iff (placed_of_plan hp) hopen hheader).mp hwrite).1
  · rcases Directory.failsAs_save hsave with hkind | hkind <;> cases hkind

/-- What there is room for fails to be added only when it is to be saved. -/
theorem errorCode_of_hasRoom (hu : r.subject d = .ok u) (grid : u.sheet.InGrid)
    (named : u.sheet.extent.columns ≤ Sheet.namedColumns)
    (taken : ∀ row ∈ data.rows, ∀ token ∈ row, (Sheet.contentOf? token).isSome)
    (room : r.HasRoom u.sheet data) (failed : (r.run d).1.isSuccess = false) :
    (r.run d).1.errorCode = some (d.saveFailure u.file).code := by
  obtain ⟨e, he⟩ := (exists_changed_iff plain hdata grid named taken).mpr room
  obtain ⟨p, hp, hedit⟩ := changed_eq_some.mp he
  have ht : r.draft d = .ok ⟨u, p, e⟩ := draft_eq_ok_iff.mpr ⟨hu, hp, hedit⟩
  have ended := ended_run r d
  generalize r.run d = result at failed ended ⊢
  cases ended with
  | stopped ht' => cases ht.symm.trans ht'
  | refused ht' hobstructs =>
    cases ht.symm.trans ht'
    obtain ⟨refusal, rfl, hkind⟩ := hobstructs.exists_refusal
    rw [← hkind]
    rfl
  | spoiled ht' can =>
    cases ht.symm.trans ht'
    rw [can.saveFailure_eq]
    rfl
  | saved => cases failed

end Changed

/-- **Inserting.** Let a request insert data without a header into a worksheet of the grid whose
cells can take its tokens. It succeeds exactly when there is room for the data, the file can be
saved to, and the workbook can be saved with the data. When there is room for the data but it is
not added, then the permission to write to the file was denied, or the workbook was not written.
A shift failure says that the rows that move would leave the grid, and nothing else; where the
targets are opened, all of the data is written. -/
theorem insert_succeeds_iff (r : AddRequest) (d : Directory) (u : Subject) (data : Payload)
    (plain : r.Plain) (hu : r.subject d = .ok u) (grid : u.sheet.InGrid)
    (hdata : Payload.parse r.rowDelimiter r.columnDelimiter r.data = .ok data)
    (taken : ∀ row ∈ data.rows, ∀ token ∈ row, (Sheet.contentOf? token).isSome) :
    ((r.run d).1.isSuccess = true ↔
      r.HasRoom u.sheet data ∧ d.CanSave u.file ∧ u.sheet.Savable ∧
        (∀ x ∈ u.workbook.sheets, x.1 ≠ u.sheetName → x.2.Savable) ∧
        ∀ row ∈ data.rows, ∀ token ∈ row, FitsFile token) ∧
    (r.HasRoom u.sheet data → u.sheet.extent.columns ≤ Sheet.namedColumns →
      (r.run d).1.isSuccess = false →
        (Directory.endFlaw? u.file = none → d.isWritable (Path.ofText u.file) = false →
          (r.run d).1.errorCode = some FailureKind.permissionDenied.code) ∧
        (Directory.endFlaw? u.file ≠ none ∨ d.isWritable (Path.ofText u.file) = true →
          (r.run d).1.errorCode = some FailureKind.writeFailure.code)) ∧
    ((r.run d).1.errorCode = some FailureKind.shiftFailure.code →
      ∃ rows columns, Placement.Places r.rows u.sheet.usedRows data.rowCount rows ∧
        Placement.Serves r.columns data columns ∧ ¬ u.sheet.StaysInGrid rows) ∧
    ∀ p o, r.plan u.sheet = .ok p → u.sheet.openRows p.rows = .done o →
      ∃ m, o.writeRows p.data p.rows p.columns r.overwrite = .done m := by
  refine ⟨?_, fun room named failed => ?_, exists_places_of_shiftFailure plain hdata hu,
    fun p o hp ho => exists_writeRows plain hdata taken hp ho⟩
  · rw [isSuccess_iff_saves]
    constructor
    · intro h
      obtain ⟨u', e, saves⟩ := h
      cases hu.symm.trans saves.subject
      obtain ⟨hsheet, htokens⟩ := (savable_changed_iff plain hdata saves.changed).mp saves.sheet
      have hroom := (exists_changed_iff plain hdata grid hsheet.columns taken).mp ⟨e, saves.changed⟩
      exact ⟨hroom, saves.can, hsheet, saves.others, htokens⟩
    · intro h
      obtain ⟨hroom, can, hsheet, hothers, htokens⟩ := h
      obtain ⟨e, he⟩ := (exists_changed_iff plain hdata grid hsheet.columns taken).mpr hroom
      exact ⟨u, e, hu, he, can, (savable_changed_iff plain hdata he).mpr ⟨hsheet, htokens⟩, hothers⟩
  · rw [errorCode_of_hasRoom plain hdata hu grid named taken room failed, Directory.saveFailure]
    refine ⟨fun hname hdenied => ?_, fun h => ?_⟩
    · rw [if_pos ⟨hname, hdenied⟩]
    · rw [if_neg fun hdenied => h.elim (· hdenied.1) fun hwritable => by
        cases hwritable.symm.trans hdenied.2]

/-- Two rows for the places above and between the two rows that are there. -/
theorem insert_succeeds_between :
    let r := { twoMore with rows := "0,2" }
    ∃ u data, r.Plain ∧ r.subject twoRows = .ok u ∧ u.sheet.InGrid ∧
      Payload.parse r.rowDelimiter r.columnDelimiter r.data = .ok data ∧
      (∀ row ∈ data.rows, ∀ token ∈ row, (Sheet.contentOf? token).isSome) ∧
      (r.run twoRows).1.isSuccess = true ∧ r.HasRoom u.sheet data := by
  intro r
  have hgrid : twoRows.InGrid := by
    refine Directory.all_ofFile fun e he => ?_
    obtain rfl := List.mem_singleton.mp he
    exact (Sheet.inGrid_empty.put (by decide) (by decide) _).put (by decide) (by decide) _
  have plain : r.Plain := ⟨rfl, by decide⟩
  have hsuccess : (r.run twoRows).1.isSuccess = true := by decide +kernel
  obtain ⟨u, e, saves⟩ := isSuccess_iff_saves.mp hsuccess
  have found := found_of_subject saves.subject
  have hsheet : u.sheet.InGrid := (inGrid_subject found hgrid).sheet? found.sheet
  have hdata : Payload.parse "|" "," "x,1|y" = .ok ⟨[["x", "1"], ["y"]]⟩ := by rfl
  have htaken := taken_of_changed plain hdata saves.changed
  exact ⟨u, _, plain, saves.subject, hsheet, hdata, htaken, hsuccess,
    ((insert_succeeds_iff r twoRows u _ plain saves.subject hsheet hdata htaken).1.mp hsuccess).1⟩

/-- Room for the data is not all that it takes: a number beyond the floating-point numbers is
written to its cell like any other, and the workbook cannot be saved then. -/
theorem not_succeeds_tooLarge :
    let r := single (String.ofList tooLarge)
    ∃ u data, r.Plain ∧ r.subject oneCell = .ok u ∧ u.sheet.InGrid ∧
      Payload.parse r.rowDelimiter r.columnDelimiter r.data = .ok data ∧
      (∀ row ∈ data.rows, ∀ token ∈ row, (Sheet.contentOf? token).isSome) ∧
      r.HasRoom u.sheet data ∧ (r.run oneCell).1.isSuccess = false := by
  intro r
  have plain : r.Plain := ⟨rfl, by decide⟩
  have hspoils : r.SpoilsFile oneCell := spoilsFile_tooLarge String.toList_ofList
  obtain ⟨t, ht, _, hunsavable⟩ := hspoils
  obtain ⟨hu, hp, he⟩ := draft_eq_ok_iff.mp ht
  have hchanged : r.changed t.subject.sheet = some t.sheet := changed_eq_some.mpr ⟨t.plan, hp, he⟩
  have hdata := (placed_of_plan hp).data
  have hgrid : t.subject.sheet.InGrid :=
    (inGrid_subject (found_of_subject hu) inGrid_oneCell).sheet? (found_of_subject hu).sheet
  refine ⟨t.subject, t.plan.data, plain, hu, hgrid, hdata, taken_of_changed plain hdata hchanged,
    hasRoom_of_changed plain hdata hgrid hchanged, ?_⟩
  rw [Bool.eq_false_iff, ne_eq, isSuccess_iff]
  intro hsuccess
  obtain ⟨t', ht', _, hsavable⟩ := hsuccess
  cases ht.symm.trans ht'
  exact hsavable hunsavable

end AddRequest

end SheetActions
