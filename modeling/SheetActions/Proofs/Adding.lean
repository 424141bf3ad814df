import SheetActions.Proofs.NewWorkbooks
import SheetActions.Proofs.Outlasting

/-! What a request leaves that adds data.

The worksheet of a request is looked at as it was in its file, `s`, and as it is in the file that
the request leaves, `t`. Inserting opens the target rows and fills them, and each other row is
found again, whole and in order, in the rows between them (`Inserted`). Overwriting moves
nothing: the tokens take their cells, and all other cells and all heights are as before
(`Overwritten`). The other worksheets and all other files are left alone (`Kept`). What is said to
be kept is so as far as it outlasts a change of a file, for the file is opened and saved. -/
namespace SheetActions.AddRequest
variable {r : AddRequest} {d d' : Directory} {u : Subject} {p : Plan} {s o e t : Sheet}
  {header : List String} {before after : Workbook}

/-! ### The file -/

/-- If the file of a request holds a new workbook, then its names differ and have no tabs and no
carriage returns, so that it is opened with these names. -/
def PlainNames (r : AddRequest) (d : Directory) : Prop :=
  ∀ place names, d.find (Path.ofText (Text.trim r.file)) = .ok (place, .file (.fresh names)) →
    (names.map Text.lower).Nodup ∧ ∀ name ∈ names, '\t' ∉ name.toList ∧ '\r' ∉ name.toList

/-- The file of a request held the workbook `before` and holds `after` now, which has the same
worksheets but for the one of the request. All other files are as they were. -/
structure Kept (r : AddRequest) (d d' : Directory) (before after : Workbook) : Prop where
  exists_place : ∃ place old, d.find (Path.ofText (Text.trim r.file)) = .ok (place, .file old) ∧
    Directory.readableWorkbook old = .ok before ∧
    d'.find (Path.ofText (Text.trim r.file)) = .ok (place, .file (.workbook after)) ∧
    ∀ other, other ≠ place → d.SameAt d' other
  names : after.names = before.names
  others : ∀ name s, name ≠ Text.trim r.sheet → before.sheet? name = some s →
    ∃ t, after.sheet? name = some t ∧ s.Kept t

theorem Kept.sheet? (h : r.Kept d d' before after) (name : String) :
    d'.sheet? (Text.trim r.file) name = after.sheet? name := by
  obtain ⟨place, old, _, _, hfind, _⟩ := h.exists_place
  simp only [Directory.sheet?, hfind]
  rfl

theorem names_loaded (w : Workbook) : w.loaded.names = w.names := by
  simp [Workbook.loaded, Workbook.names]

theorem loaded_blank (names : List String) : (Workbook.blank names).loaded = .blank names := by
  simp only [Workbook.loaded, Workbook.blank, List.map_map]
  rfl

/-- What is opened is the workbook that the file holds, as its values are taken. -/
theorem Found.exists_held (found : r.Found d u) (plain : r.PlainNames d) :
    ∃ place old held, d.find (Path.ofText (Text.trim r.file)) = .ok (place, .file old) ∧
      Directory.readableWorkbook old = .ok held ∧ u.workbook = held.loaded := by
  obtain ⟨place, old, hplace, hold, hopened⟩ := Directory.content_of_openForChange found.opened
  rw [found.file] at hplace
  have hfind := Directory.find_eq_ok_iff.mpr ⟨hplace, hold⟩
  rcases Directory.changeable_eq_ok hopened with ⟨names, rfl, hnew⟩ | ⟨held, rfl, _, hloaded⟩
  · obtain ⟨differ, hplain⟩ := plain place names hfind
    refine ⟨place, _, .blank names, hfind, rfl, ?_⟩
    rw [(Directory.changeableFresh_eq_ok_iff.mp hnew).2,
      Fresh.loadedNames_of_plain differ hplain, loaded_blank]
  · exact ⟨place, _, held, hfind, rfl, hloaded⟩

/-- The worksheet that a request changes is in its file before and afterwards. -/
theorem Saves.exists_kept (saves : r.Saves d u e) (plain : r.PlainNames d) :
    ∃ before after s, r.Kept d (r.run d).2 before after ∧
      before.sheet? (Text.trim r.sheet) = some s ∧ u.sheet = s.loaded ∧
      after.sheet? (Text.trim r.sheet) = some e.stored := by
  have found := found_of_subject saves.subject
  obtain ⟨place, old, held, hfind, hheld, hopened⟩ := found.exists_held plain
  obtain ⟨old', hrewritten⟩ := saves.rewritten
  rw [found.file, found.sheetName, hopened] at hrewritten
  have hsheet := found.sheet
  rw [found.sheetName, hopened, sheet?_loaded, Option.map_eq_some_iff] at hsheet
  obtain ⟨s, hs, hloaded⟩ := hsheet
  refine ⟨held, (held.loaded.put (Text.trim r.sheet) e).stored, s,
    ⟨?_, ?_, fun name t hname ht => ?_⟩, hs, hloaded.symm, ?_⟩
  · obtain ⟨place', hplace', hold', hnew, hothers⟩ := hrewritten.exists_place
    cases hfind.symm.trans (Directory.find_eq_ok_iff.mpr ⟨hplace', hold'⟩)
    refine ⟨place, old, hfind, hheld, Directory.find_eq_ok_iff.mpr ⟨?_, hnew⟩, fun other hother =>
      ⟨hothers other hother, hrewritten.isReadOnly other⟩⟩
    exact (Directory.resolve_rewritten hrewritten _).trans hplace'
  · rw [names_stored, Workbook.names_put, names_loaded]
  · refine ⟨t.loaded.stored, ?_, t.kept_stored_loaded⟩
    rw [sheet?_stored, Workbook.sheet?_put, if_neg hname, sheet?_loaded, ht]
    rfl
  · rw [sheet?_stored, Workbook.sheet?_put, if_pos rfl, sheet?_loaded, hs]
    rfl

/-! ### The sheet -/

/-- Each token of the data is in its target cell, and each token of the header in its column
of the header row. -/
structure KeepsTokens (p : Plan) (header : List String) (t : Sheet) : Prop where
  data : ∀ (i j : Nat) row token, p.data.rows[i]? = some row → row[j]? = some token →
    ∃ r c, p.rows.toList[i]? = some r ∧ p.columns.toList[j]? = some c ∧ t.KeepsToken r c token
  header : ∀ (j : Nat) token, header[j]? = some token →
    t.KeepsToken Placement.headerRow j token

/-- What inserting makes of a sheet `s` of a file. Beside its tokens a row of the data has nothing,
and target rows without data have nothing at all. The `k`-th row that is no target is row `k` of
`s`, but for the cells that the header takes. -/
structure Inserted (p : Plan) (header : List String) (s t : Sheet) : Prop where
  tokens : KeepsTokens p header t
  beside : ∀ (i : Nat) row r c, p.data.rows[i]? = some row → p.rows.toList[i]? = some r →
    (∀ j < row.length, p.columns.toList[j]? ≠ some c) → t.cell r c = none
  spare : ∀ (i : Nat) r c, p.data.rowCount ≤ i → p.rows.toList[i]? = some r → t.cell r c = none
  kept : ∀ k c, ¬(p.rows.outside k = Placement.headerRow ∧ c < header.length) →
    s.KeepsCell t k c (p.rows.outside k) c

/-- What overwriting makes of a sheet `s` of a file: nothing changes but the cells that tokens go
to. -/
structure Overwritten (p : Plan) (header : List String) (s t : Sheet) : Prop where
  tokens : KeepsTokens p header t
  frame : ∀ r c, (∀ (i j : Nat) row, p.data.rows[i]? = some row → j < row.length →
      ¬(p.rows.toList[i]? = some r ∧ p.columns.toList[j]? = some c)) →
    ¬(r = Placement.headerRow ∧ c < header.length) → s.KeepsCell t r c r c
  style : ∀ r c, t.style r c = s.style r c
  height : ∀ r, t.height r = s.height r

/-- Where the data goes depends on a sheet by its used rows only. -/
theorem Placed.congr (placed : r.Placed s p) (h : s.usedRows = t.usedRows) : r.Placed t p where
  data := placed.data
  rows := by
    have hreserve : r.reservesHeader t = r.reservesHeader s := by simp only [reservesHeader, h]
    rw [hreserve, ← h]
    exact placed.rows
  columns := placed.columns
  rowsFit := placed.rowsFit
  columnsFit := placed.columnsFit
  headerRow := placed.headerRow

theorem keepsTokens_of_wrote (placed : r.Placed s p)
    (h : Sheet.Wrote (allTargets p header) o e) : KeepsTokens p header e.stored where
  data := fun i j row token hrow htoken => by
    obtain ⟨m, n, hm, hn, ha⟩ :=
      Sheet.exists_place_of_token placed.rowsFit placed.columnsFit hrow htoken
    exact ⟨m, n, hm, hn, (h.holds ⟨m, n, token⟩ (List.mem_append_left _ ha)).keepsToken⟩
  header := fun j token hj =>
    (h.holds ⟨Placement.headerRow, j, token⟩
      (List.mem_append_right _ (Sheet.mem_headerTargets.mpr ⟨rfl, hj⟩))).keepsToken

/-- A cell that no token goes to keeps its content while the tokens are written. -/
theorem cell_of_wrote (h : Sheet.Wrote (allTargets p header) o e) {r c : Nat}
    (hdata : ∀ (i j : Nat) row, p.data.rows[i]? = some row → j < row.length →
      ¬(p.rows.toList[i]? = some r ∧ p.columns.toList[j]? = some c))
    (hheader : ¬(r = Placement.headerRow ∧ c < header.length)) : e.cell r c = o.cell r c := by
  refine h.frame r c fun a ha heq => ?_
  obtain ⟨rfl, rfl⟩ := Prod.mk.inj heq
  rcases List.mem_append.mp ha with ha | ha
  · obtain ⟨i, j, row, hrow, htoken, hr, hc⟩ := Sheet.mem_targets.mp ha
    exact hdata i j row hrow (List.getElem?_eq_some_iff.mp htoken).1 ⟨hr, hc⟩
  · obtain ⟨hzero, hj⟩ := Sheet.mem_headerTargets.mp ha
    exact hheader ⟨hzero, (List.getElem?_eq_some_iff.mp hj).1⟩

/-- A row is at one position of the target rows only. -/
theorem position_eq {i j n : Nat} (hi : p.rows.toList[i]? = some n)
    (hj : p.rows.toList[j]? = some n) : i = j :=
  (List.getElem?_inj (List.getElem?_eq_some_iff.mp hi).1
    (p.rows.ascending.imp Nat.ne_of_lt)).mp (hi.trans hj.symm)

theorem inserted_of_run (placed : r.Placed s p) (hheader : r.headerTokens = .ok header)
    (opened : Sheet.Opened p.rows.toList s.loaded o)
    (wrote : Sheet.Wrote (allTargets p header) o e) (styles : ∀ r c, e.style r c = o.style r c) :
    Inserted p header s e.stored := by
  -- the header has no cells in a target row
  have hfree : ∀ n c, n ∈ p.rows → ¬(n = Placement.headerRow ∧ c < header.length) := by
    rintro n c hn ⟨rfl, hc⟩
    exact placed.headerRow (hasHeader_of_token hheader (List.getElem?_eq_getElem hc)) hn
  have hblank : ∀ n c, n ∈ p.rows → (∀ (i j : Nat) row, p.data.rows[i]? = some row →
      j < row.length → ¬(p.rows.toList[i]? = some n ∧ p.columns.toList[j]? = some c)) →
      e.stored.cell n c = none := by
    intro n c hn hdata
    rw [Sheet.cell_stored, cell_of_wrote wrote hdata (hfree n c hn), opened.blank n hn c]
    rfl
  refine ⟨keepsTokens_of_wrote placed wrote, fun i row n c hrow hn hbeside => ?_,
    fun i n c hi hn => ?_, fun k c hk => ?_⟩
  · refine hblank n c (List.mem_of_getElem? hn) fun i' j row' hrow' hj hat => ?_
    obtain rfl := position_eq hn hat.1
    rw [hrow] at hrow'
    cases hrow'
    exact hbeside j hj hat.2
  · refine hblank n c (List.mem_of_getElem? hn) fun i' j row hrow hj hat => ?_
    obtain rfl := position_eq hn hat.1
    have hlt : i < p.data.rowCount := (List.getElem?_eq_some_iff.mp hrow).1
    omega
  · refine Sheet.keepsCell_stored ?_ fun v hv => (styles _ c).trans (opened.style k c v hv)
    rw [cell_of_wrote wrote (fun i j row hrow hj hat => ?_) hk]
    · exact opened.kept k c
    · exact p.rows.outside_not_mem k (List.mem_of_getElem? hat.1)

theorem overwritten_of_run (placed : r.Placed s p)
    (wrote : Sheet.Wrote (allTargets p header) s.loaded e)
    (styles : ∀ r c, e.style r c = s.style r c) : Overwritten p header s e.stored where
  tokens := keepsTokens_of_wrote placed wrote
  frame := fun r c hdata hheader =>
    Sheet.keepsCell_stored (cell_of_wrote wrote hdata hheader) fun _ _ => styles r c
  style := styles
  height := wrote.height

/-- The stages of a run that saves a sheet: the target rows are opened, and tokens are written,
which gives no cell another style. -/
theorem Saves.exists_wrote (saves : r.Saves d u e) (fits : r.TextsFit) :
    ∃ p o header, r.Placed u.sheet p ∧ r.openTargets p u.sheet = .done o ∧
      r.headerTokens = .ok header ∧ Sheet.Wrote (allTargets p header) o e ∧
      ∀ i c, e.style i c = o.style i c := by
  obtain ⟨p, hp, hedit⟩ := changed_eq_some.mp saves.changed
  have placed := placed_of_plan hp
  obtain ⟨o, m, header, hopen, hrows, hheader, hlast⟩ := edit_eq_ok hedit
  obtain ⟨o', header', hopen', hheader', wrote⟩ := wrote_of_edit placed fits hedit
  cases hheader.symm.trans hheader'
  cases Progress.done_inj (hopen.symm.trans hopen')
  exact ⟨p, o, header, placed, hopen, hheader, wrote, fun i c =>
    (Sheet.style_of_run hlast i c).trans (Sheet.style_of_run hrows i c)⟩

/-! ### Adding data -/

/-- **Inserting.** A run that succeeds without overwriting leaves a file in which the tokens
have the target rows to themselves and all that the file held before is kept in the other rows. -/
theorem insert_kept (r : AddRequest) (d : Directory) (inserting : r.overwrite = false)
    (fits : r.TextsFit) (plain : r.PlainNames d) (success : (r.run d).1.isSuccess = true) :
    ∃ before after s t p header, r.Kept d (r.run d).2 before after ∧
      before.sheet? (Text.trim r.sheet) = some s ∧ after.sheet? (Text.trim r.sheet) = some t ∧
      r.Placed s p ∧ r.headerTokens = .ok header ∧ Inserted p header s t := by
  obtain ⟨u, e, saves⟩ := isSuccess_iff_saves.mp success
  obtain ⟨before, after, s, kept, hs, hloaded, ht⟩ := saves.exists_kept plain
  obtain ⟨p, o, header, placed, hopen, hheader, wrote, styles⟩ := saves.exists_wrote fits
  rw [hloaded] at placed hopen
  have hdone : s.loaded.openRows p.rows = .done o := by
    simpa [openTargets, inserting] using hopen
  have placed := placed.congr s.usedRows_loaded
  exact ⟨before, after, s, e.stored, p, header, kept, hs, ht, placed, hheader,
    inserted_of_run placed hheader (Sheet.opened_of_done hdone) wrote styles⟩

/-- A file with two worksheets, one of two rows and one with a date. -/
def twoSheets : Directory :=
  let rows := ((∅ : Sheet).put 0 0 (some (.text "a"))).put 1 0 (some (.text "b"))
  let dated := (∅ : Sheet).put 0 0 (some (.date ⟨2024, 1, 31⟩))
  .ofFile "a.xlsx" (Workbook.stored ⟨[("S", rows), ("T", dated)]⟩)

/-- A header and two rows of data, one longer than the other, for columns out of order. -/
def ragged (rows : String) (overwrite : Bool) : AddRequest :=
  ⟨"a.xlsx", "S", "h", "x,1|y", rows, "1,0", "|", ",", overwrite⟩

/-- Tokens that are short enough, whether they are texts or not, can be checked. -/
theorem textsFit_of_short
    (data : ((Payload.parse r.rowDelimiter r.columnDelimiter r.data).toOption.all fun data =>
      data.rows.all fun row => row.all (·.length ≤ Sheet.textLimit)) = true)
    (header : (r.headerTokens.toOption.all (·.all (·.length ≤ Sheet.textLimit))) = true) :
    r.TextsFit where
  data := fun data' hdata row hrow token htoken _ => by
    rw [hdata] at data
    simpa using List.all_eq_true.mp (List.all_eq_true.mp data row hrow) token htoken
  header := fun header' hheader token htoken _ => by
    rw [hheader] at header
    simpa using List.all_eq_true.mp header token htoken

/-- Nothing is asked of the names of a workbook that was saved. -/
theorem plainNames_ofFile {name : String} {w : Workbook} : r.PlainNames (.ofFile name w) := by
  intro place names hfind
  cases Directory.eq_of_node?_ofFile (Directory.find_eq_ok_iff.mp hfind).2

/-- The values of a worksheet of the file, with their places. -/
def valuesIn (d : Directory) (name : String) : Option (List (Nat × Nat × Value)) :=
  (d.sheet? "a.xlsx" name).map (·.values.toList)

theorem Kept.valuesIn (h : r.Kept d d' before after) (hfile : Text.trim r.file = "a.xlsx")
    (name : String) : AddRequest.valuesIn d' name = (after.sheet? name).map (·.values.toList) := by
  rw [AddRequest.valuesIn, ← hfile, h.sheet?]

/-- The header takes the top, so that the rows of the data are 1 and 3. The date of the other
worksheet is a number in the file, and stays that. -/
theorem insert_kept_ragged :
    let r := ragged "0,2" false
    r.overwrite = false ∧ r.TextsFit ∧ r.PlainNames twoSheets ∧
      (r.run twoSheets).1.isSuccess = true ∧
      ∃ before after s t p header, r.Kept twoSheets (r.run twoSheets).2 before after ∧
        before.sheet? "S" = some s ∧ after.sheet? "S" = some t ∧
        r.Placed s p ∧ r.headerTokens = .ok header ∧ Inserted p header s t ∧
        t.values.toList = [(0, 0, .text "h"), (1, 0, .text "x"), (1, 1, .integer 1),
          (2, 0, .text "b"), (3, 0, .text "y")] ∧
        (after.sheet? "T").map (·.values.toList) = some [(0, 0, .integer 45322)] := by
  intro r
  have hfits : r.TextsFit := textsFit_of_short (by decide +kernel) (by decide +kernel)
  have hsuccess : (r.run twoSheets).1.isSuccess = true := by decide +kernel
  have hfile : Text.trim r.file = "a.xlsx" := by decide +kernel
  have hsheet : Text.trim r.sheet = "S" := by decide +kernel
  obtain ⟨before, after, s, t, p, header, kept, hs, ht, placed, hheader, inserted⟩ :=
    insert_kept r twoSheets rfl hfits plainNames_ofFile hsuccess
  rw [hsheet] at hs ht
  have hvalues := kept.valuesIn hfile "S"
  rw [ht] at hvalues
  refine ⟨rfl, hfits, plainNames_ofFile, hsuccess, before, after, s, t, p, header, kept,
    hs, ht, placed, hheader, inserted, Option.some.inj (hvalues.symm.trans ?_), ?_⟩
  · decide +kernel
  · rw [← kept.valuesIn hfile]
    decide +kernel

/-- A number that is no date is written where the date was. -/
def noDate : AddRequest :=
  ⟨"a.xlsx", "T", "", "10000000000", "0", "0", "|", ",", true⟩

/-- Not everything outlasts a change, though all that the opened worksheet holds is saved: such a
number is taken for an error value when rows are inserted into the other worksheet. -/
theorem not_kept_noDate :
    let r := ragged "0,2" false
    let d := (noDate.run twoSheets).2
    r.overwrite = false ∧ r.TextsFit ∧ (r.run d).1.isSuccess = true ∧
      valuesIn d "T" = some [(0, 0, .integer 10000000000)] ∧
      ((d.openForChange "a.xlsx").toOption.bind (·.sheet? "T")).map (·.values.toList) =
        some [(0, 0, .text "#VALUE!")] ∧
      valuesIn (r.run d).2 "T" = some [(0, 0, .text "#VALUE!")] := by
  refine ⟨rfl, textsFit_of_short ?_ ?_, ?_, ?_, ?_, ?_⟩
  all_goals decide +kernel

/-- **Overwriting.** A run that succeeds with overwriting leaves a file in which the tokens are
in their cells and everything else is as it was. On no sheet do two tokens go to one cell. -/
theorem overwrite_kept (r : AddRequest) (d : Directory) (overwriting : r.overwrite = true)
    (fits : r.TextsFit) (plain : r.PlainNames d) (success : (r.run d).1.isSuccess = true) :
    (∃ before after s t p header, r.Kept d (r.run d).2 before after ∧
      before.sheet? (Text.trim r.sheet) = some s ∧ after.sheet? (Text.trim r.sheet) = some t ∧
      r.Placed s p ∧ r.headerTokens = .ok header ∧ Overwritten p header s t) ∧
    ∀ s p header, r.plan s = .ok p → r.headerTokens = .ok header →
      ((allTargets p header).map Sheet.Target.place).Nodup := by
  refine ⟨?_, fun s p header hp hheader => nodup_allTargets (placed_of_plan hp) hheader⟩
  obtain ⟨u, e, saves⟩ := isSuccess_iff_saves.mp success
  obtain ⟨before, after, s, kept, hs, hloaded, ht⟩ := saves.exists_kept plain
  obtain ⟨p, o, header, placed, hopen, hheader, wrote, styles⟩ := saves.exists_wrote fits
  rw [hloaded] at placed hopen
  have hsame : s.loaded = o := by
    simp only [openTargets, overwriting, if_true] at hopen
    exact Progress.done_inj hopen
  subst hsame
  exact ⟨before, after, s, e.stored, p, header, kept, hs, ht,
    placed.congr s.usedRows_loaded, hheader,
    overwritten_of_run (placed.congr s.usedRows_loaded) wrote styles⟩

/-- The second row is overwritten, the first takes the header, and row 3 is new. -/
theorem overwrite_kept_ragged :
    let r := ragged "1,3" true
    r.overwrite = true ∧ r.TextsFit ∧ r.PlainNames twoSheets ∧
      (r.run twoSheets).1.isSuccess = true ∧
      ∃ before after s t p header, r.Kept twoSheets (r.run twoSheets).2 before after ∧
        before.sheet? "S" = some s ∧ after.sheet? "S" = some t ∧
        r.Placed s p ∧ r.headerTokens = .ok header ∧ Overwritten p header s t ∧
        t.values.toList = [(0, 0, .text "h"), (1, 0, .text "x"), (1, 1, .integer 1),
          (3, 0, .text "y")] ∧
        (after.sheet? "T").map (·.values.toList) = some [(0, 0, .integer 45322)] := by
  intro r
  have hfits : r.TextsFit := textsFit_of_short (by decide +kernel) (by decide +kernel)
  have hsuccess : (r.run twoSheets).1.isSuccess = true := by decide +kernel
  have hfile : Text.trim r.file = "a.xlsx" := by decide +kernel
  have hsheet : Text.trim r.sheet = "S" := by decide +kernel
  obtain ⟨before, after, s, t, p, header, kept, hs, ht, placed, hheader, overwritten⟩ :=
    (overwrite_kept r twoSheets rfl hfits plainNames_ofFile hsuccess).1
  rw [hsheet] at hs ht
  have hvalues := kept.valuesIn hfile "S"
  rw [ht] at hvalues
  refine ⟨rfl, hfits, plainNames_ofFile, hsuccess, before, after, s, t, p, header, kept,
    hs, ht, placed, hheader, overwritten, Option.some.inj (hvalues.symm.trans ?_), ?_⟩
  · decide +kernel
  · rw [← kept.valuesIn hfile]
    decide +kernel

/-- An integer with one digit more than a file has for it. -/
def longInteger : AddRequest :=
  ⟨"a.xlsx", "S", "", "10000000000000001", "1", "0", "|", ",", true⟩

/-- So it is not the value of its token that the file holds. -/
theorem not_kept_longInteger :
    longInteger.overwrite = true ∧ longInteger.TextsFit ∧
      (longInteger.run twoSheets).1.isSuccess = true ∧
      coerce "10000000000000001" = .ok (.integer 10000000000000001) ∧
      valuesIn (longInteger.run twoSheets).2 "S" =
        some [(0, 0, .text "a"), (1, 0, .float (Binary64.ofInt 10000000000000000))] := by
  refine ⟨rfl, textsFit_of_short ?_ ?_, ?_, rfl, ?_⟩
  all_goals decide +kernel

end SheetActions.AddRequest
