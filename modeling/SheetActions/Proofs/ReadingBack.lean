import SheetActions.Action.Read
import SheetActions.Proofs.Chunks
import SheetActions.Proofs.Filed
import SheetActions.Proofs.Inserting

/-! Reading back what was written.

What is written without a header to rows and columns that are named can be read back by naming
them again (`read_written`). A writer and a reader differ on many values, so the values are
asked to survive; all else is shown. The rows are all found, since the last one holds a token
that is seen and no row behind it is named (`exists_last_target`). Each token is seen in its cell
(`cell_reading_of_run`), wherever the rows that were there have gone. And nothing that was in the
sheet before can keep a reader from opening it (`flaw?_of_run`). -/
namespace SheetActions

/-- What a reader sees of a value that a cell of a style was given, once it is saved, is the
value. -/
def Value.Survives (style : Option TimeStyle) (v : Value) : Prop :=
  (Sheet.content v).toOption.map (fun kept => (kept.bind Value.stored).bind (Value.seen style)) =
    some v.normalized

instance (style : Option TimeStyle) (v : Value) : Decidable (v.Survives style) :=
  inferInstanceAs (Decidable (_ = _))

theorem Value.Survives.eq_normalized {style : Option TimeStyle} {v : Value} {kept : Option Value}
    (h : v.Survives style) (hkept : Sheet.content v = .ok kept) :
    (kept.bind Value.stored).bind (Value.seen style) = v.normalized := by
  rw [Value.Survives, hkept] at h
  exact Option.some.inj h

/-- The text of a cell that holds the value of a token. -/
def cellText (token : String) : String :=
  renderCell ((coerce token).toOption.bind Value.normalized)

/-- Only the empty token is blank when it is read. -/
theorem normalized_ne_none_of_coerce {token : String} {v : Value} (hv : coerce token = .ok v)
    (h : token ≠ "") : v.normalized ≠ none := by
  rcases coerce_cases hv with rfl | ⟨_, n, rfl⟩
  · simpa [Value.normalized] using h
  · cases n <;> exact Option.some_ne_none _

/-! ### Reading a file -/

theorem Reading.flaw?_eq_none_iff {v : Reading} :
    v.flaw? = none ↔ ∀ r c u, v.cell r c = some u → u.seenFlaw? = none := by
  simp only [flaw?, List.findSome?_eq_none_iff, Prod.forall, Grid.mem_toList_iff]
  rfl

theorem Reading.lt_rowCount {v : Reading} {r c : Nat} (h : v.cell r c ≠ none) : r < v.rowCount :=
  Nat.lt_of_not_le fun hle => h (Grid.get?_of_usedRows_le hle c)

namespace Directory
variable {d d' : Directory} {file : String} {old : Content} {w before : Workbook}

theorem contains_of_accept {formats : List String} {node : Node}
    (h : d.accept formats file = .ok node) :
    formats.contains (Path.ofText file).suffixClass = true := by
  simp only [accept] at h
  split at h
  · cases h
  · rename_i hformat
    simpa using hformat

theorem accept_of_find {formats : List String} {node : Node} {place : Place}
    (hformat : formats.contains (Path.ofText file).suffixClass = true)
    (hfind : d.find (Path.ofText file) = .ok (place, node)) : d.accept formats file = .ok node := by
  simp only [accept, hformat, hfind]
  rfl

theorem suffix_of_changeFormats {suffix : String} (h : changeFormats.contains suffix = true) :
    suffix = ".xlsx" ∨ suffix = ".xlsm" := by
  simpa [changeFormats] using h

theorem readable_workbook {p : Path} (h : changeFormats.contains p.suffixClass = true)
    (w : Workbook) : readable p (.file (.workbook w)) = .ok w := by
  unfold readable
  split
  · rfl
  · rename_i hsame
    have hsuffix := suffix_of_changeFormats h
    rw [← of_not_not hsame] at hsuffix
    rcases hsuffix with hsuffix | hsuffix <;> rw [hsuffix] <;> rfl

/-- A name that a workbook was opened by to be changed also opens what was saved to it to be
read. -/
theorem openForReading_rewritten (hopened : d.openForChange file = .ok before)
    (h : d.Rewritten file old (.workbook w) d') : d'.openForReading file = .ok w := by
  obtain ⟨node, hnode, _⟩ := bind_eq_ok.mp hopened
  have hchange := contains_of_accept hnode
  have hread : readFormats.contains (Path.ofText file).suffixClass = true := by
    rcases suffix_of_changeFormats hchange with hsuffix | hsuffix <;> rw [hsuffix] <;> decide
  obtain ⟨place, hfind⟩ := find_rewritten h
  refine bind_eq_ok.mpr ⟨_, accept_of_find hread hfind, ?_⟩
  rw [mapError_eq_ok]
  exact readable_workbook hchange w

theorem read_of_sheet? {name : String} {s : Sheet} (hw : d.openForReading file = .ok w)
    (hs : w.sheet? name = some s) (hflaw : s.reading.flaw? = none) :
    d.read file name = .ok s.reading := by
  refine bind_eq_ok.mpr ⟨w, hw, bind_eq_ok.mpr ⟨s, ?_, ?_⟩⟩
  · rw [Workbook.sheet, hs]
  · simp only [hflaw]
    rfl

end Directory

/-! ### What a reader sees of the changed sheet -/

namespace Sheet
variable {s o e : Sheet} {l : List Target}

theorem cell_reading_stored (e : Sheet) (r c : Nat) :
    e.stored.reading.cell r c =
      ((e.cell r c).bind Value.stored).bind (Value.seen (e.style r c)) := by
  rw [cell_reading, cell_stored]
  rfl

section Run
variable {overwrite : Bool} (distinct : (l.map Target.place).Nodup)
  (h : Progress.run (writeToken overwrite) s l = .done e)
  (survive : ∀ a ∈ l, ∀ v, coerce a.token = .ok v → v.Survives (e.style a.row a.column))
include distinct h survive

/-- A reader sees the values of the tokens in their cells. -/
theorem cell_reading_of_run {a : Target} (ha : a ∈ l) :
    ∃ v, coerce a.token = .ok v ∧ e.stored.reading.cell a.row a.column = v.normalized := by
  obtain ⟨_, v, kept, hv, hkept, hcell⟩ := content_of_run distinct h a ha
  refine ⟨v, hv, ?_⟩
  rw [cell_reading_stored, hcell]
  exact (survive a ha v hv).eq_normalized hkept

/-- Tokens do not spoil a sheet for the readers. -/
theorem flaw?_of_run (legible : s.Legible) : e.stored.reading.flaw? = none := by
  refine Reading.flaw?_eq_none_iff.mpr fun r c u hu => ?_
  by_cases hat : ∃ a ∈ l, a.place = (r, c)
  · obtain ⟨a, ha, hplace⟩ := hat
    obtain ⟨v, hv, hcell⟩ := cell_reading_of_run distinct h survive ha
    cases hplace
    exact Value.seenFlaw?_normalized (timeStyle?_of_coerce hv) (hcell.symm.trans hu)
  · have haway : e.cell r c = s.cell r c :=
      cell_of_run h fun a ha hplace => hat ⟨a, ha, hplace⟩
    rw [cell_reading_stored, haway, style_of_run h] at hu
    obtain ⟨w, hw, hseen⟩ := Option.bind_eq_some_iff.mp hu
    obtain ⟨v, hv, hw⟩ := Option.bind_eq_some_iff.mp hw
    exact legible r c v hv w u hw hseen

end Run

end Sheet

/-! ### Where it was written -/

namespace Placement
variable {spec : String} {used count greatest : Nat} {hasHeader reserve : Bool}
  {rows columns : IndexSet} {data : Payload}

/-- Rows that are named depend on the sheet only by whether they make room for a header. -/
theorem resolveRows_of_parse (hspec : IndexSpec.parse spec maxRowIndex = .ok rows)
    (hmax : rows.max? = some greatest) :
    resolveRows spec used count hasHeader reserve =
      if hasHeader && reserve then do
        checkStop spec (greatest + 2)
        return rows.shift 1
      else .ok rows := by
  simp only [resolveRows, IndexSpec.parseOptional_some, hspec, bind, Except.bind, hmax]
  rfl

theorem eq_of_serves {columns' : IndexSet}
    (hspec : IndexSpec.parse spec maxColumnIndex = .ok columns) (hne : columns.isEmpty = false)
    (h : Serves spec data columns') : columns' = columns := by
  obtain ⟨explicit, hexplicit, _, rfl⟩ := serves_iff.mp h
  cases hspec.symm.trans hexplicit
  rw [hne]
  rfl

end Placement

namespace Sheet
variable {data : Payload} {rows columns : IndexSet} {v : Reading}

theorem map_eq_map_of_getElem? {α β γ : Type} {f : α → γ} {g : β → γ} {l : List α} {m : List β}
    (hlength : l.length = m.length)
    (h : ∀ (i : Nat) a b, l[i]? = some a → m[i]? = some b → f a = g b) : l.map f = m.map g := by
  refine List.ext_getElem (by simpa using hlength) fun i hl hm => ?_
  rw [List.length_map] at hl hm
  rw [List.getElem_map, List.getElem_map]
  exact h i _ _ (List.getElem?_eq_getElem hl) (List.getElem?_eq_getElem hm)

/-- Where the cells of the targets show the tokens, the lines of the rows are those of the data. -/
theorem map_line (hcount : rows.size = data.rowCount)
    (hwidth : ∀ row ∈ data.rows, row.length = columns.size)
    (h : ∀ a ∈ targets data rows columns, renderCell (v.cell a.row a.column) = cellText a.token)
    (delimiter : String) :
    rows.toList.map (v.line columns.toList delimiter) =
      data.rows.map fun row => delimiter.intercalate (row.map cellText) := by
  refine map_eq_map_of_getElem? hcount fun i r row hr hrow => ?_
  refine congrArg delimiter.intercalate ?_
  refine map_eq_map_of_getElem? (hwidth row (List.mem_of_getElem? hrow)).symm ?_
  intro j c token hc htoken
  exact h ⟨r, c, token⟩ (mem_targets.mpr ⟨i, j, row, hrow, htoken, hr, hc⟩)

/-- The last of the target rows has a token that is not empty. -/
theorem exists_last_target (hcount : rows.size = data.rowCount)
    (hwidth : ∀ row ∈ data.rows, row.length ≤ columns.size) (ends : AddRequest.EndsFilled data) :
    ∃ a ∈ targets data rows columns, a.token ≠ "" ∧ ∀ i ∈ rows, i ≤ a.row := by
  obtain ⟨row, hrow, token, htoken, hne⟩ := ends
  obtain ⟨j, hj⟩ := List.mem_iff_getElem?.mp htoken
  have hlast : data.rows[data.rowCount - 1]? = some row := by
    rw [← hrow, List.getLast?_eq_getElem?]
    rfl
  obtain ⟨r, c, hr, _, ha⟩ := exists_place_of_token (Nat.le_of_eq hcount.symm) hwidth hlast hj
  refine ⟨_, ha, hne, Placement.le_of_max? ?_⟩
  rw [IndexSet.max?, List.getLast?_eq_getElem?]
  show rows.toList[rows.size - 1]? = some r
  rw [hcount]
  exact hr

end Sheet

/-! ### Reading requests -/

namespace ReadRequest
variable {q : ReadRequest} {v : Reading} {rows columns : IndexSet}

/-- The answer gives a line for each selected row. -/
theorem answer_eq {selected chosen : List Nat} (hrows : q.selectedRows v = .ok selected)
    (hcolumns : q.selectedColumns v = .ok chosen) :
    q.answer v = .ok (.succeeded
      (q.rowDelimiter.intercalate (selected.map (v.line chosen q.columnDelimiter)))
      [("header", q.headerLine v chosen), ("rowsCount", toString selected.length),
        ("columnsCount", toString chosen.length)]) := by
  simp only [answer, hrows, hcolumns]
  rfl

/-- Rows that are named are all selected if none of them is behind the last one. -/
theorem selectedRows_of_parse (h : IndexSpec.parse q.rows maxRowIndex = .ok rows)
    (filled : rows.isEmpty = false) (hin : ∀ i ∈ rows, i < v.rowCount) :
    q.selectedRows v = .ok rows.toList := by
  refine bind_eq_ok.mpr ⟨rows, h, ?_⟩
  rw [filled]
  exact congrArg Except.ok (List.filter_eq_self.mpr fun i hi => decide_eq_true (hin i hi))

/-- Rows that are named are all read if none of them is behind the last one. -/
theorem answer_of_parse (hrows : IndexSpec.parse q.rows maxRowIndex = .ok rows)
    (hcolumns : IndexSpec.parse q.columns maxColumnIndex = .ok columns)
    (filledRows : rows.isEmpty = false) (filledColumns : columns.isEmpty = false)
    (hin : ∀ i ∈ rows, i < v.rowCount) :
    q.answer v = .ok (.succeeded
      (q.rowDelimiter.intercalate (rows.toList.map (v.line columns.toList q.columnDelimiter)))
      [("header", q.headerLine v columns.toList), ("rowsCount", toString rows.size),
        ("columnsCount", toString columns.size)]) := by
  have hselected : q.selectedColumns v = .ok columns.toList := by
    refine bind_eq_ok.mpr ⟨columns, hcolumns, ?_⟩
    rw [filledColumns]
    rfl
  exact answer_eq (selectedRows_of_parse hrows filledRows hin) hselected

theorem run_of_answer {d : Directory} {o : Outcome} (hread : q.reading d = .ok v)
    (h : q.answer v = .ok o) : q.run d = o := by
  have hanswer : (do q.answer (← q.reading d)) = .ok o := by
    rw [hread]
    exact h
  simp only [run, hanswer]

end ReadRequest

namespace AddRequest
variable {r : AddRequest} {d : Directory} {u : Subject} {s e : Sheet} {p : Plan}

/-- Without a header a sheet is changed by opening rows, unless they are overwritten, and writing
tokens. -/
theorem exists_opened_of_edit (noHeader : r.hasHeader = false) (h : r.edit p s = .ok e) :
    ∃ o, (o = s ∨ s.openRows p.rows = .done o) ∧
      Progress.run (Sheet.writeToken r.overwrite) o p.targets = .done e := by
  obtain ⟨o, m, header, hopen, hrows, hheader, hlast⟩ := edit_eq_ok h
  have hnil : header = [] := by
    rw [headerTokens, noHeader] at hheader
    exact (Except.ok.inj hheader).symm
  subst hnil
  obtain rfl := Progress.done_inj hlast
  exact ⟨o, openTargets_eq_done hopen, hrows⟩

theorem Saves.legible (h : r.Saves d u e) (filed : d.Filed) : u.sheet.Legible := by
  have found := found_of_subject h.subject
  exact ((filed.openForChange found.opened).sheet? found.sheet).legible

/-- The worksheet as it was saved is what readers find. -/
theorem Saves.read (h : r.Saves d u e) (hflaw : e.stored.reading.flaw? = none) :
    (r.run d).2.read u.file u.sheetName = .ok e.stored.reading := by
  obtain ⟨old, hrewritten⟩ := h.rewritten
  have found := found_of_subject h.subject
  refine Directory.read_of_sheet?
    (Directory.openForReading_rewritten found.opened hrewritten) ?_ hflaw
  rw [sheet?_stored, h.sheet?_put]
  rfl

/-- Readers see the tokens of a request in their cells, if these survive. -/
theorem Saves.exists_reading (h : r.Saves d u e) (filed : d.Filed) (noHeader : r.hasHeader = false)
    (hp : r.plan u.sheet = .ok p)
    (survive : ∀ a ∈ p.targets, ∀ v, coerce a.token = .ok v →
      v.Survives (e.style a.row a.column)) :
    ∃ v, (r.run d).2.read u.file u.sheetName = .ok v ∧ ∀ a ∈ p.targets, ∃ w,
      coerce a.token = .ok w ∧ v.cell a.row a.column = w.normalized := by
  obtain ⟨p', hp', hedit⟩ := changed_eq_some.mp h.changed
  cases hp.symm.trans hp'
  obtain ⟨o, hopen, hrun⟩ := exists_opened_of_edit noHeader hedit
  have hdistinct : (p.targets.map Sheet.Target.place).Nodup := Sheet.nodup_targets ..
  have legible : o.Legible := by
    rcases hopen with rfl | hopen
    · exact h.legible filed
    · exact Sheet.Each.openRows (h.legible filed) hopen
  exact ⟨e.stored.reading, h.read (Sheet.flaw?_of_run hdistinct hrun survive legible),
    fun a ha => Sheet.cell_reading_of_run hdistinct hrun survive ha⟩

/-! ### Naming the rows and the columns -/

/-- The data goes to the rows and columns that are named, if they are as many as it has. -/
theorem targets_of_plan {data : Payload} {rows columns : IndexSet} (noHeader : r.hasHeader = false)
    (hdata : Payload.parse r.rowDelimiter r.columnDelimiter r.data = .ok data)
    (hrows : IndexSpec.parse r.rows maxRowIndex = .ok rows) (hcount : rows.size = data.rowCount)
    (hcolumns : IndexSpec.parse r.columns maxColumnIndex = .ok columns)
    (filled : columns.isEmpty = false) (h : r.plan s = .ok p) :
    p.targets = Sheet.targets data rows columns := by
  obtain ⟨hdata', hresolved, _, hresolved', hfits⟩ := plan_eq_ok_iff.mp h
  cases hdata.symm.trans hdata'
  have hpos := Payload.rowCount_pos hdata
  obtain ⟨greatest, hgreatest⟩ : ∃ greatest, rows.max? = some greatest := by
    have hne : rows.toList ≠ [] := List.length_pos_iff.mp (Nat.lt_of_lt_of_eq hpos hcount.symm)
    exact ⟨_, List.getLast?_eq_some_getLast hne⟩
  rw [Placement.resolveRows_of_parse hrows hgreatest, noHeader] at hresolved
  have hsame := Except.ok.inj hresolved
  have hsame' := Placement.eq_of_serves hcolumns filled
    ⟨hresolved', (Placement.checkFits_eq_ok_iff.mp hfits).2⟩
  rw [Plan.targets, ← hsame, hsame']

/-- The request to read the cells that data was written to. -/
def readBack (r : AddRequest) (hasHeader : Bool) (firstRow : Nat)
    (rowDelimiter columnDelimiter : String) : ReadRequest :=
  ⟨r.file, r.sheet, hasHeader, firstRow, r.rows, r.columns, rowDelimiter, columnDelimiter⟩

theorem reading_readBack (h : r.subject d = .ok u) (hasHeader : Bool) (firstRow : Nat)
    (rowDelimiter columnDelimiter : String) (d' : Directory) :
    (r.readBack hasHeader firstRow rowDelimiter columnDelimiter).reading d' =
      d'.read u.file u.sheetName := by
  obtain ⟨hfile, _, hname, _⟩ := subject_eq_ok_iff.mp h
  simp only [readBack, ReadRequest.reading, hfile, hname, bind, Except.bind]

/-- **Reading back.** Data is written without a header to as many rows and columns as it has, all
of them named, and its last row is not blank. If the request succeeds and the values survive where
they are saved, then reading the named rows and columns succeeds, whatever is said on a header,
and gives the data: each cell with the text of the value of its token. The directory is `Filed`
as all are. -/
theorem read_written (r : AddRequest) (d : Directory) (data : Payload) (rows columns : IndexSet)
    (filed : d.Filed) (noHeader : Text.isBlankText r.header = true)
    (hdata : Payload.parse r.rowDelimiter r.columnDelimiter r.data = .ok data)
    (hrows : IndexSpec.parse r.rows maxRowIndex = .ok rows) (hcount : rows.size = data.rowCount)
    (hcolumns : IndexSpec.parse r.columns maxColumnIndex = .ok columns)
    (hwidth : ∀ row ∈ data.rows, row.length = columns.size) (ends : EndsFilled data)
    (success : (r.run d).1.isSuccess = true)
    (survive : ∀ s, (r.run d).2.sheet? (Text.trim r.file) (Text.trim r.sheet) = some s →
      ∀ a ∈ Sheet.targets data rows columns, ∀ v, coerce a.token = .ok v →
        v.Survives (s.style a.row a.column)) :
    ∀ hasHeader firstRow rowDelimiter columnDelimiter, ∃ header,
      (r.readBack hasHeader firstRow rowDelimiter columnDelimiter).run (r.run d).2 =
        .succeeded
          (rowDelimiter.intercalate
            (data.rows.map fun row => columnDelimiter.intercalate (row.map cellText)))
          [("header", header), ("rowsCount", toString data.rowCount),
            ("columnsCount", toString columns.size)] := by
  intro hasHeader firstRow rowDelimiter columnDelimiter
  have hnone : r.hasHeader = false := by rw [AddRequest.hasHeader, noHeader]; rfl
  obtain ⟨u, e, saves⟩ := isSuccess_iff_saves.mp success
  obtain ⟨p, hp, _⟩ := changed_eq_some.mp saves.changed
  -- where the data goes
  have hfits : ∀ row ∈ data.rows, row.length ≤ columns.size := fun row hrow =>
    Nat.le_of_eq (hwidth row hrow)
  obtain ⟨last, hlast, hne, hbefore⟩ := Sheet.exists_last_target hcount hfits ends
  obtain ⟨_, _, _, _, _, hrow, hcolumn⟩ := Sheet.mem_targets.mp hlast
  have filledRows : rows.isEmpty = false :=
    List.isEmpty_eq_false_iff_exists_mem.mpr ⟨_, List.mem_of_getElem? hrow⟩
  have filledColumns : columns.isEmpty = false :=
    List.isEmpty_eq_false_iff_exists_mem.mpr ⟨_, List.mem_of_getElem? hcolumn⟩
  have htargets := targets_of_plan hnone hdata hrows hcount hcolumns filledColumns hp
  -- what is seen there
  have hsaved : (r.run d).2.sheet? (Text.trim r.file) (Text.trim r.sheet) = some e.stored := by
    have found := found_of_subject saves.subject
    rw [← found.file, ← found.sheetName]
    exact saves.sheet?
  obtain ⟨v, hread, hcell⟩ := saves.exists_reading filed hnone hp
    (htargets ▸ survive e.stored hsaved)
  rw [htargets] at hcell
  have hin : ∀ i ∈ rows, i < v.rowCount := by
    obtain ⟨w, hw, hseen⟩ := hcell last hlast
    intro i hi
    refine Nat.lt_of_le_of_lt (hbefore i hi) (Reading.lt_rowCount (c := last.column) ?_)
    rw [hseen]
    exact normalized_ne_none_of_coerce hw hne
  have hlines := Sheet.map_line hcount hwidth (v := v) ?_ columnDelimiter
  · rw [← hcount, ← hlines]
    refine ⟨_, ReadRequest.run_of_answer ?_
      (ReadRequest.answer_of_parse hrows hcolumns filledRows filledColumns hin)⟩
    rw [reading_readBack saves.subject]
    exact hread
  · intro a ha
    obtain ⟨w, hw, hseen⟩ := hcell a ha
    rw [hseen, cellText, hw]
    rfl

/-! ### Two scattered rows -/

theorem filed_twoRows : twoRows.Filed := by
  refine Directory.all_ofFile fun e he r c v hv => ?_
  obtain rfl := List.mem_singleton.mp he
  simp only [Sheet.cell_put] at hv
  split at hv
  · cases hv
    trivial
  · split at hv
    · cases hv
      trivial
    · cases hv

/-- Two rows with a column left out between their tokens, for rows 0 and 2. -/
def scattered : AddRequest :=
  ⟨"a.xlsx", "S", "", "x,1|y,2.5", "0,2", "0,2", "|", ",", false⟩

/-- They are read back with other delimiters, and a header that is asked for changes nothing. -/
theorem read_written_scattered :
    twoRows.Filed ∧ (scattered.run twoRows).1.isSuccess = true ∧ ∃ header,
      (scattered.readBack true 7 "/" ";").run (scattered.run twoRows).2 =
        .succeeded "x;1/y;2.5"
          [("header", header), ("rowsCount", toString 2), ("columnsCount", toString 2)] := by
  have hsuccess : (scattered.run twoRows).1.isSuccess = true := by decide +kernel
  let data : Payload := ⟨[["x", "1"], ["y", "2.5"]]⟩
  let even : IndexSet := ⟨[0, 2], by decide⟩
  have hsurvive : (((scattered.run twoRows).2.sheet? (Text.trim scattered.file)
      (Text.trim scattered.sheet)).all fun s => (Sheet.targets data even even).all fun a =>
        (coerce a.token).toOption.all fun v =>
          decide (v.Survives (s.style a.row a.column))) = true := by decide +kernel
  have hback := read_written scattered twoRows data even even filed_twoRows (by decide) (by rfl)
    (by rfl) (by decide) (by rfl) (by decide)
    ⟨["y", "2.5"], rfl, "y", by decide, by decide⟩ hsuccess
    fun s hs a ha v hv => by
      rw [hs] at hsurvive
      have hall := List.all_eq_true.mp hsurvive a ha
      rw [hv] at hall
      exact of_decide_eq_true hall
  have htext : "/".intercalate (data.rows.map fun row => ";".intercalate (row.map cellText)) =
      "x;1/y;2.5" := by decide +kernel
  obtain ⟨header, hrun⟩ := hback true 7 "/" ";"
  rw [htext] at hrun
  exact ⟨filed_twoRows, hsuccess, header, hrun⟩

end AddRequest

end SheetActions
