import SheetActions.Proofs.Columns
import SheetActions.Proofs.Failing
import SheetActions.Proofs.Tokens

/-! Staying in the grid.

Opening rows keeps the values of a sheet in the grid (`InGrid.openRows`), and so does writing
data, whose rows and columns were checked. A header is written from the first column on for
as many tokens as it has, and nothing checks their number. So a run keeps a directory in the
grid but for one case: it succeeds, and a token of its header for a column behind the last
one is not blank (`inGrid_run_iff`). -/
namespace SheetActions

/-! ### Sheets -/

namespace Sheet
variable {s o e : Sheet}

theorem InGrid.openRows {rows : IndexSet} (grid : s.InGrid) (h : s.openRows rows = .done o) :
    o.InGrid := by
  have opened := opened_of_done h
  have hfault : (s.openRows rows).fault = none := by
    rw [h]
    rfl
  rw [openRows_eq_openRuns, openRuns_fault_eq_none_iff grid.usedRows_le,
    IndexSet.flatMap_runs] at hfault
  intro r c v hv
  have hused : r < o.usedRows := by
    by_contra hbehind
    rw [cell_of_usedRows_le (by omega)] at hv
    cases hv
  have hrow := opened.usedRows
  refine ⟨by omega, ?_⟩
  have hkept : r ∉ rows.toList := by
    intro hr
    rw [opened.blank r hr c] at hv
    cases hv
  obtain ⟨k, rfl⟩ := exists_skip_eq rows.ascending hkept
  rw [opened.kept] at hv
  exact (grid k c v hv).2

theorem InGrid.loaded (grid : s.InGrid) : s.loaded.InGrid := by
  intro r c v hv
  rw [cell_loaded, Option.map_eq_some_iff] at hv
  obtain ⟨w, hw, _⟩ := hv
  exact grid r c w hw

theorem InGrid.stored (grid : s.InGrid) : s.stored.InGrid := by
  intro r c v hv
  rw [cell_stored, Option.bind_eq_some_iff] at hv
  obtain ⟨w, hw, _⟩ := hv
  exact grid r c w hw

/-- The content of a cell was there before tokens were written, or it is that of a token. -/
theorem source_of_run {overwrite : Bool} {l : List Target} (distinct : (l.map Target.place).Nodup)
    (h : Progress.run (writeToken overwrite) s l = .done e) {r c : Nat} {v : Value}
    (hv : e.cell r c = some v) :
    s.cell r c = some v ∨ ∃ a ∈ l, a.place = (r, c) ∧ r ≤ maxRowIndex ∧
      ∃ w, coerce a.token = .ok w ∧ content w = .ok (some v) := by
  by_cases hat : ∃ a ∈ l, a.place = (r, c)
  · obtain ⟨a, ha, hplace⟩ := hat
    obtain ⟨hr, w, kept, hw, hkept, hcell⟩ := content_of_run distinct h a ha
    obtain ⟨rfl, rfl⟩ := Prod.mk.inj hplace
    rw [hcell] at hv
    subst hv
    exact .inr ⟨a, ha, rfl, hr, w, hw, hkept⟩
  · simp only [not_exists, not_and] at hat
    exact .inl ((cell_of_run h hat).symm.trans hv)

end Sheet

/-- Every value of every worksheet in a file lies in the grid. -/
def Directory.InGrid (d : Directory) : Prop :=
  d.All Sheet.InGrid

/-! ### Adding data -/

/-- A file keeps something of a cell that the token was written to. -/
def IsKept (token : String) : Prop :=
  ∃ v kept, coerce token = .ok v ∧ Sheet.content v = .ok (some kept) ∧ kept.stored ≠ none

namespace AddRequest
variable {r : AddRequest} {d : Directory} {p : Plan} {s o e : Sheet} {header : List String}

/-- A token of the header that is not blank is for a column behind the last one. -/
def HeaderOverruns (r : AddRequest) : Prop :=
  ∃ header j token, r.headerTokens = .ok header ∧ header[j]? = some token ∧ maxColumnIndex < j ∧
    IsKept token

theorem not_inGrid_of_headerOverruns (h : r.edit p s = .ok e) (overruns : r.HeaderOverruns) :
    ¬ e.stored.InGrid := by
  obtain ⟨o, m, header, _, _, hheader, hlast⟩ := edit_eq_ok h
  obtain ⟨header', j, token, hheader', hj, hbehind, v, kept, hv, hkept, hstored⟩ := overruns
  cases hheader.symm.trans hheader'
  obtain ⟨stored, hstored⟩ := Option.ne_none_iff_exists'.mp hstored
  obtain ⟨_, v', kept', hv', hkept', hcell⟩ := Sheet.content_of_run
    (Sheet.nodup_headerTargets header) hlast ⟨Placement.headerRow, j, token⟩
    (Sheet.mem_headerTargets.mpr ⟨rfl, hj⟩)
  cases hv.symm.trans hv'
  cases hkept.symm.trans hkept'
  intro hgrid
  have hlies := hgrid Placement.headerRow j stored (by
    rw [Sheet.cell_stored, hcell]
    exact hstored)
  omega

theorem inGrid_openTargets (grid : s.InGrid) (h : r.openTargets p s = .done o) : o.InGrid := by
  rcases openTargets_eq_done h with rfl | hopened
  · exact grid
  · exact grid.openRows hopened

/-- The changed sheet is kept in the grid unless the header leads out of it. -/
theorem inGrid_edit_iff (placed : r.Placed s p) (grid : s.InGrid) (h : r.edit p s = .ok e) :
    e.stored.InGrid ↔ ¬ r.HeaderOverruns := by
  refine ⟨fun hgrid overruns => not_inGrid_of_headerOverruns h overruns hgrid, fun hfits => ?_⟩
  obtain ⟨o, m, header, hopen, hrows, hheader, hlast⟩ := edit_eq_ok h
  intro r' c stored hstored
  rw [Sheet.cell_stored, Option.bind_eq_some_iff] at hstored
  obtain ⟨v, hv, hstored⟩ := hstored
  -- the value was there, or is that of a token of the data or of the header
  rcases Sheet.source_of_run (Sheet.nodup_headerTargets header) hlast hv with
    hm | ⟨a, ha, hplace, hr, w, hw, hkept⟩
  · rcases Sheet.source_of_run (Sheet.nodup_targets ..) hrows hm with
      ho | ⟨a, ha, hplace, hr, _⟩
    · exact inGrid_openTargets grid hopen r' c v ho
    · obtain ⟨_, j, _, _, _, _, hc⟩ := Sheet.mem_targets.mp ha
      obtain ⟨rfl, rfl⟩ := Prod.mk.inj hplace
      exact ⟨hr, Placement.le_of_resolveColumns placed.columns _ (List.mem_of_getElem? hc)⟩
  · refine ⟨hr, Nat.le_of_not_lt fun hbehind => hfits ?_⟩
    obtain ⟨_, hj⟩ := Sheet.mem_headerTargets.mp ha
    obtain ⟨_, rfl⟩ := Prod.mk.inj hplace
    refine ⟨header, a.column, a.token, hheader, hj, hbehind, w, v, hw, hkept, ?_⟩
    rw [hstored]
    exact Option.some_ne_none _

/-- The sheets that a request finds lie in the grid. -/
theorem inGrid_subject {u : Subject} (found : r.Found d u) (grid : d.InGrid) :
    u.workbook.All Sheet.InGrid :=
  Directory.All.openForChange grid Sheet.inGrid_empty (fun _ => Sheet.InGrid.loaded) found.opened

/-- The saved workbook is in the grid when the changed sheet is. -/
theorem inGrid_workbook_iff {t : Draft} (found : r.Found d t.subject) (grid : d.InGrid) :
    t.workbook.stored.All Sheet.InGrid ↔ t.sheet.stored.InGrid := by
  rw [Workbook.all_stored_iff, Draft.workbook, Workbook.all_put_iff found.sheet]
  exact and_iff_left fun x hx _ => (inGrid_subject found grid x hx).stored

theorem inGrid_run_of_not_success (grid : d.InGrid) (h : (r.run d).1.isSuccess = false) :
    (r.run d).2.InGrid := by
  have ended := ended_run r d
  generalize r.run d = result at h ended ⊢
  cases ended with
  | stopped | refused => exact grid
  | spoiled _ _ _ _ hrewritten => exact (Directory.All.rewritten_iff grid hrewritten).mpr nofun
  | saved => cases h

theorem inGrid_run_of_success (grid : d.InGrid) (h : (r.run d).1.isSuccess = true) :
    (r.run d).2.InGrid ↔ ¬ r.HeaderOverruns := by
  have ended := ended_run r d
  generalize r.run d = result at h ended ⊢
  cases ended with
  | stopped | refused | spoiled =>
    rw [Outcome.isSuccess_ofFault] at h
    cases h
  | @saved t _ _ ht _ _ hrewritten =>
    obtain ⟨found, placed, hedit⟩ := draft_eq_ok ht
    have hsheet := (inGrid_subject found grid).sheet? found.sheet
    rw [← inGrid_edit_iff placed hsheet hedit, ← inGrid_workbook_iff found grid]
    refine (Directory.All.rewritten_iff grid hrewritten).trans ?_
    exact ⟨fun hnew => hnew _ rfl, fun hnew w hw => by cases hw; exact hnew⟩

/-- **The grid.** A run keeps all values of all stored sheets in the grid, unless it succeeds
with a header that has a token for a column behind the last one. -/
theorem inGrid_run_iff (r : AddRequest) (d : Directory) (grid : d.InGrid) :
    (r.run d).2.InGrid ↔ ¬((r.run d).1.isSuccess = true ∧ r.HeaderOverruns) := by
  cases h : (r.run d).1.isSuccess
  · simp [inGrid_run_of_not_success grid h]
  · simp [inGrid_run_of_success grid h]

theorem inGrid_oneCell : oneCell.InGrid := by
  refine Directory.all_ofFile fun e he => ?_
  obtain rfl := List.mem_singleton.mp he
  exact Sheet.inGrid_empty.put (by decide) (by decide) _

/-- A number below the only cell of a file leaves it in the grid. -/
theorem inGrid_run_single :
    oneCell.InGrid ∧ ((single "1").run oneCell).1.isSuccess = true ∧
      ((single "1").run oneCell).2.InGrid := by
  refine ⟨inGrid_oneCell, by decide +kernel, (inGrid_run_iff _ _ inGrid_oneCell).mpr ?_⟩
  rintro ⟨_, header, j, token, hheader, hj, _⟩
  have hnone : (single "1").headerTokens = .ok [] := by rfl
  cases hnone.symm.trans hheader
  cases hj

/-! ### A header that is too wide -/

/-- The tokens of a header of `n` blanks and one token behind them. -/
def farTokens (n : Nat) : List String :=
  List.replicate n "" ++ ["x"]

/-- A request with such a header. -/
def farHeader (n : Nat) : AddRequest :=
  { single "1" with header := String.ofList (List.replicate n ',' ++ ['x']) }

theorem pieces_far (n : Nat) : Text.pieces [','] (List.replicate n ',' ++ ['x']) =
    List.replicate n [] ++ [['x']] := by
  induction n with
  | zero => rfl
  | succ n ih =>
    have hcons := Text.pieces_append_cons ',' [] (List.replicate n ',' ++ ['x'])
    rw [List.nil_append, ih] at hcons
    exact hcons

theorem hasHeader_far (n : Nat) : (farHeader n).hasHeader = true := by
  have hvisible : Text.isBlankText (farHeader n).header = false :=
    Text.isBlankText_eq_false_iff.mpr ⟨'x', by simp [farHeader], by decide⟩
  rw [hasHeader, hvisible]
  rfl

theorem headerTokens_far (n : Nat) : (farHeader n).headerTokens = .ok (farTokens n) := by
  have hblank : Text.trim "" = "" := by decide
  have hx : Text.trim "x" = "x" := by decide
  have hsplit : Payload.split "," (farHeader n).header = .ok (farTokens n) := by
    have hcomma : String.singleton ',' = "," := rfl
    rw [← hcomma, Payload.split_singleton, farHeader, String.toList_ofList, pieces_far]
    simp [farTokens]
  rw [headerTokens, if_pos (hasHeader_far n), Payload.tokens]
  show (Payload.split "," _).map _ = _
  rw [hsplit]
  simp [Except.map, farTokens, hblank, hx]

/-- Blank tokens and short ones are written to a sheet that can be saved, and it still can. -/
theorem exists_savable_of_run {l : List Sheet.Target} (hs : s.Savable)
    (h : ∀ a ∈ l, a.row ≤ maxRowIndex ∧ a.column < Sheet.namedColumns ∧
      (a.token = "" ∨ a.token = "x")) :
    ∃ e, Progress.run (Sheet.writeToken true) s l = .done e ∧ e.Savable := by
  induction l generalizing s with
  | nil => exact ⟨s, rfl, hs⟩
  | cons a l ih =>
    obtain ⟨⟨hr, hc, htoken⟩, hl⟩ := List.forall_mem_cons.mp h
    obtain ⟨kept, hwrite, hkept⟩ : ∃ kept, Sheet.writeToken true s a =
        .done (s.put a.row a.column kept) ∧ ∀ w, kept = some w → w.isStorable = true := by
      obtain ⟨row, column, token⟩ := a
      have hrow : ¬ row > maxRowIndex := Nat.not_lt.mpr hr
      rcases htoken with rfl | rfl
      · refine ⟨none, ?_, nofun⟩
        simp only [Sheet.writeToken, Bool.not_true, Bool.false_and, Sheet.enter, if_neg hrow]
        rfl
      · refine ⟨some (.text "x"), ?_, fun w hw => by cases hw; rfl⟩
        simp only [Sheet.writeToken, Bool.not_true, Bool.false_and, Sheet.enter, if_neg hrow]
        rfl
    rw [Progress.run_cons, hwrite]
    exact ih (hs.put a.row hc hkept) hl

/-- As long as its columns have names, the header is written. -/
theorem exists_savable_of_run_far {n : Nat} (hn : n < Sheet.namedColumns) (hs : s.Savable) :
    ∃ e, Progress.run (Sheet.writeToken true) s (Sheet.headerTargets (farTokens n)) = .done e ∧
      e.Savable := by
  refine exists_savable_of_run hs fun a ha => ?_
  obtain ⟨hr, hj⟩ := Sheet.mem_headerTargets.mp ha
  have hlt : a.column < n + 1 := by
    simpa [farTokens] using (List.getElem?_eq_some_iff.mp hj).1
  refine ⟨by rw [hr]; decide, by omega, ?_⟩
  rcases List.mem_append.mp (List.mem_of_getElem? hj) with hblank | hx
  · exact .inl (List.eq_of_mem_replicate hblank)
  · exact .inr (List.mem_singleton.mp hx)

theorem isSuccess_far {n : Nat} (hn : n < Sheet.namedColumns) :
    ((farHeader n).run oneCell).1.isSuccess = true := by
  let sheet := (∅ : Sheet).put 0 0 (some (.text "a"))
  let u : Subject := ⟨"b.xlsx", "S", ⟨[("S", sheet)]⟩, sheet⟩
  let p : Plan := ⟨⟨[["1"]]⟩, IndexSet.interval 1 1, IndexSet.interval 0 1⟩
  let m := sheet.put 1 0 (some (.integer 1))
  have hstart : m.Savable := by
    exact (Sheet.savable_empty.put 0 (by decide) (by rintro w ⟨⟩; rfl)).put 1 (by decide)
      (by rintro w ⟨⟩; decide)
  obtain ⟨e, hrun, hsavable⟩ := exists_savable_of_run_far hn hstart
  have hsubject : (farHeader n).subject oneCell = .ok u := by
    have hdata : Text.isBlankText "1" = false := by decide
    simp only [subject, farHeader, single, hdata]
    rfl
  have hplan : (farHeader n).plan sheet = .ok p := by
    have hdata : Payload.parse "|" "," "1" = .ok ⟨[["1"]]⟩ := by rfl
    have hcolumns : Placement.resolveColumns "" 1 = .ok (.interval 0 1) := by rfl
    refine plan_eq_ok_iff.mpr ⟨hdata, ?_, fun h => absurd h.2 (by decide), hcolumns, rfl⟩
    rw [hasHeader_far]
    rfl
  have hedit : (farHeader n).edit p sheet = .ok e := by
    refine bind_eq_ok.mpr ⟨sheet, rfl, ?_⟩
    rw [mapError_eq_ok]
    refine bind_eq_ok.mpr ⟨m, rfl, bind_eq_ok.mpr ⟨_, headerTokens_far n, ?_⟩⟩
    exact Progress.toExcept_eq_ok.mpr hrun
  have can : oneCell.CanSave "b.xlsx" := ⟨by decide, by decide⟩
  refine isSuccess_iff.mpr ⟨⟨u, p, e⟩, draft_eq_ok_iff.mpr ⟨hsubject, hplan, hedit⟩, can,
    Workbook.not_unsavable_iff.mpr fun x hx => ?_⟩
  obtain rfl := List.mem_singleton.mp hx
  exact hsavable

/-- A header of one token more than there are columns puts a value behind the last one. -/
theorem not_inGrid_farHeader :
    let r := farHeader (maxColumnIndex + 1)
    oneCell.InGrid ∧ (r.run oneCell).1.isSuccess = true ∧ ¬ (r.run oneCell).2.InGrid := by
  have hsuccess := isSuccess_far (n := maxColumnIndex + 1) (by decide)
  refine ⟨inGrid_oneCell, hsuccess, fun hgrid => ?_⟩
  refine (inGrid_run_of_success inGrid_oneCell hsuccess).mp hgrid
    ⟨_, maxColumnIndex + 1, "x", headerTokens_far _, ?_, Nat.lt_succ_self _, .text "x", .text "x",
      rfl, rfl, nofun⟩
  rw [farTokens, List.getElem?_append_right (by simp), List.length_replicate, Nat.sub_self]
  rfl

end AddRequest

end SheetActions
