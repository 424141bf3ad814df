import SheetActions.Proofs.Creating
import SheetActions.Proofs.Decoding
import SheetActions.Proofs.FileNames
import SheetActions.Proofs.Inserting
import SheetActions.Proofs.Markup
import SheetActions.Proofs.Naming
import SheetActions.Proofs.UsedArea

/-!
New workbooks, read and filled.

The programs that create workbooks, read them and change them each look at names in their own way.
The readers want a path with a suffix, and then see all worksheets by their names
(`openForReading_new_iff`). The program that changes files also wants more than points in front of
the suffix and names that markup can hold, and it sees the names with their tabs and carriage
returns replaced (`openForChange_new_iff`). So not every workbook that was created can be read or
filled (`CreateRequest.usable_iff`). -/
namespace SheetActions

/-! ### The names of worksheets -/

namespace SheetNames
variable {names : List String}

/-- Names that new worksheets can have: they have no blanks around them, and they differ also when
case is ignored. -/
structure Proper (names : List String) : Prop where
  filled : ∀ name ∈ names, name ≠ ""
  trimmed : ∀ name ∈ names, Text.trim name = name
  differ : (names.map Text.lower).Nodup

theorem proper_of_parse {delimiter text : String} (h : parse delimiter text = .ok names) :
    Proper names := by
  obtain ⟨pieces, rfl, _, husable⟩ := exists_pieces_of_parse h
  refine ⟨fun name hname => ?_, fun name hname => ?_, List.pairwise_map.mpr husable.differ⟩
  · simpa using (List.mem_filter.mp hname).2
  · obtain ⟨piece, _, rfl⟩ := List.mem_map.mp (List.mem_filter.mp hname).1
    exact Text.trim_trim _

end SheetNames

namespace Fresh
variable {before names : List String} {name : String}

theorem differing_of_not_mem (h : Text.lower name ∉ before.map Text.lower) :
    differing before name = name := by
  have hnew : (before.map Text.lower).contains (Text.lower name) = false := by
    rw [← Bool.not_eq_true, List.contains_iff_mem]
    exact h
  simp only [differing, hnew, Bool.false_eq_true, if_false]

/-- Names that differ already stay as they are. -/
theorem differingAll_of_nodup (h : (names.map Text.lower).Nodup) : differingAll names = names := by
  -- the names that were gone through already can be any that differ from those to come
  have hall : ∀ before : List String, ((before ++ names).map Text.lower).Nodup →
      names.foldl (fun before name => before ++ [differing before name]) before =
        before ++ names := by
    clear h
    induction names with
    | nil => exact fun before _ => (List.append_nil before).symm
    | cons name names ih =>
      intro before hnodup
      have hname : Text.lower name ∉ before.map Text.lower := by
        rw [List.map_append, List.map_cons] at hnodup
        exact fun hmem => List.disjoint_of_nodup_append hnodup hmem List.mem_cons_self
      have happend : before ++ name :: names = before ++ [name] ++ names := by simp
      rw [List.foldl_cons, differing_of_not_mem hname, happend]
      rw [happend] at hnodup
      exact ih _ hnodup
  exact hall [] h

/-- Names that differ are seen as they are if they have no tabs and no carriage returns. -/
theorem loadedNames_of_plain (differ : (names.map Text.lower).Nodup)
    (plain : ∀ name ∈ names, '\t' ∉ name.toList ∧ '\r' ∉ name.toList) :
    loadedNames names = names := by
  have hspaced : ∀ name ∈ names, spaced name = name := by
    intro name hname
    obtain ⟨htab, hreturn⟩ := plain name hname
    have hmap : (name.toList.map fun c => if c = '\t' ∨ c = '\r' then ' ' else c) =
        name.toList.map id := by
      refine List.map_congr_left fun c hc => if_neg ?_
      rintro (rfl | rfl)
      · exact htab hc
      · exact hreturn hc
    rw [spaced, hmap, List.map_id, String.ofList_toList]
  have hsame : names.map spaced = names.map id := List.map_congr_left hspaced
  rw [loadedNames, hsame, List.map_id, differingAll_of_nodup differ]

/-- A tab becomes a space, and then names can be alike that were not. -/
example : loadedNames ["a\tb", "A B"] = ["a b", "A B1"] := by decide +kernel

end Fresh

/-! ### Opening the file -/

namespace Directory
variable {d : Directory} {file : String} {names : List String} {place : Place} {w : Workbook}

section New
variable (hsuffix : (Path.ofText file).suffixClass =
    if (Path.ofText file).suffix = "" then "" else ".xlsx")
  (hfind : d.find (Path.ofText file) = .ok (place, .file (.fresh names)))
include hsuffix hfind

/-- The file is found by a program for `.xlsx` files if the path has a suffix. -/
theorem accept_new_iff (formats : List String) (hformat : formats.contains ".xlsx" = true)
    (hnone : formats.contains "" = false) {node : Node} :
    d.accept formats file = .ok node ↔
      (Path.ofText file).suffix ≠ "" ∧ node = .file (.fresh names) := by
  by_cases hempty : (Path.ofText file).suffix = ""
  · rw [if_pos hempty] at hsuffix
    refine iff_of_false (fun h => ?_) fun h => h.1 hempty
    have hcontains := contains_of_accept h
    rw [hsuffix, hnone] at hcontains
    cases hcontains
  · rw [if_neg hempty] at hsuffix
    rw [accept_of_find (hsuffix ▸ hformat) hfind, Except.ok.injEq, eq_comm, iff_and_self]
    exact fun _ => hempty

/-- The readers see the names of the worksheets as they were given. -/
theorem openForReading_new_iff : d.openForReading file = .ok w ↔
    (Path.ofText file).suffix ≠ "" ∧ w = .blank names := by
  have hreadable : (Path.ofText file).suffix ≠ "" →
      readable (Path.ofText file) (.file (.fresh names)) = .ok (.blank names) := by
    intro hne
    refine readable_fresh ?_ names
    rw [hsuffix, if_neg hne]
    decide
  simp only [openForReading, bind_eq_ok, mapError_eq_ok,
    accept_new_iff hsuffix hfind readFormats (by decide) (by decide)]
  constructor
  · rintro ⟨_, ⟨hne, rfl⟩, hw⟩
    rw [hreadable hne] at hw
    exact ⟨hne, (Except.ok.inj hw).symm⟩
  · rintro ⟨hne, rfl⟩
    exact ⟨_, ⟨hne, rfl⟩, hreadable hne⟩

/-- The program that changes files sees the names as it loads them. -/
theorem openForChange_new_iff : d.openForChange file = .ok w ↔
    (Path.ofText file).suffix ≠ "" ∧ (Path.ofText file).isBareSuffix = false ∧
      (∀ name ∈ names, Text.IsMarkupText name) ∧ w = .blank (Fresh.loadedNames names) := by
  simp only [openForChange, bind_eq_ok, mapError_eq_ok,
    accept_new_iff hsuffix hfind changeFormats (by decide) (by decide),
    and_assoc, exists_and_left, exists_eq_left]
  refine and_congr_right fun _ => ?_
  rw [← Fresh.illegal?_eq_none_iff, ← changeableFresh_eq_ok_iff]
  simp only [changeable, contentKind]
  cases (Path.ofText file).isBareSuffix <;> simp

end New

end Directory

/-! ### Reading -/

namespace ReadRequest
variable {q : ReadRequest} {d : Directory} {file name : String} {w : Workbook} {v : Reading}

/-- A request to read a worksheet by its name, with specifications that are accepted. -/
structure Opens (q : ReadRequest) (file name : String) : Prop where
  file : Text.trim q.file = file
  sheet : Text.trim q.sheet = Text.trim name
  rows : ∃ rows, IndexSpec.parse q.rows maxRowIndex = .ok rows
  columns : ∃ columns, IndexSpec.parse q.columns maxColumnIndex = .ok columns

/-- No row is selected where there is none. -/
theorem selectedRows_of_rowCount (hrows : ∃ rows, IndexSpec.parse q.rows maxRowIndex = .ok rows)
    (hv : v.rowCount = 0) : q.selectedRows v = .ok [] := by
  obtain ⟨rows, hrows⟩ := hrows
  simp only [selectedRows, hrows, hv, bind, Except.bind]
  split
  · simp only [Reading.dataRows, hv, Nat.zero_sub]
    rfl
  · simp only [Nat.not_lt_zero, decide_false, List.filter_false]
    rfl

/-- What is read of a worksheet without rows. The columns can be named, so there can be some. -/
def IsBlankAnswer (o : Outcome) : Prop :=
  ∃ columnsCount, o =
    .succeeded "" [("header", ""), ("rowsCount", "0"), ("columnsCount", columnsCount)]

theorem isBlankAnswer_run (hrows : ∃ rows, IndexSpec.parse q.rows maxRowIndex = .ok rows)
    (hcolumns : ∃ columns, IndexSpec.parse q.columns maxColumnIndex = .ok columns)
    (hread : q.reading d = .ok v) (hv : v.rowCount = 0) : IsBlankAnswer (q.run d) := by
  obtain ⟨columns, hcolumns⟩ := hcolumns
  obtain ⟨chosen, _, hrun⟩ :=
    gives_of_selectedRows hread (selectedRows_of_rowCount hrows hv) hcolumns
  have hheader : q.headerLine v chosen = "" := by
    rw [headerLine, if_neg]
    rintro ⟨_, hlt⟩
    omega
  rw [hheader] at hrun
  exact ⟨_, hrun⟩

end ReadRequest

/-! ### Adding -/

/-- Data that a blank worksheet can take, and the file of it too. -/
structure Payload.Storable (data : Payload) : Prop where
  rows : data.rowCount ≤ maxRowIndex + 1
  columns : ∀ row ∈ data.rows, row.length ≤ maxColumnIndex + 1
  taken : ∀ row ∈ data.rows, ∀ token ∈ row, (Sheet.contentOf? token).isSome
  fits : ∀ row ∈ data.rows, ∀ token ∈ row, FitsFile token

namespace AddRequest
variable {r : AddRequest} {d : Directory} {file name : String} {names : List String}
  {data : Payload}

/-- A request to append data to a worksheet by its name, with everything else left blank. -/
structure Appends (r : AddRequest) (file name : String) (data : Payload) : Prop where
  file : Text.trim r.file = file
  sheet : Text.trim r.sheet = Text.trim name
  plain : r.Plain
  rows : Text.isBlankText r.rows = true
  columns : Text.isBlankText r.columns = true
  filled : Text.isBlankText r.data = false
  data : Payload.parse r.rowDelimiter r.columnDelimiter r.data = .ok data

namespace Appends
variable (appends : r.Appends file name data) (storable : data.Storable)
include appends storable

/-- There is room for storable data in a blank worksheet. -/
theorem hasRoom : r.HasRoom ∅ data := by
  have hrows : Placement.resolveRows r.rows (∅ : Sheet).usedRows data.rowCount false false =
      .ok (.interval 0 data.rowCount) := by
    have hstart : Placement.appendStart (∅ : Sheet).usedRows false = 0 := rfl
    have hfits := storable.rows
    rw [Placement.resolveRows_of_blank appends.rows, hstart, if_neg (by omega)]
  obtain ⟨columns, hcolumns⟩ := Placement.exists_serves_iff.mpr
    ⟨∅, IndexSpec.parse_of_blank appends.columns, storable.columns⟩
  exact ⟨_, columns, ⟨hrows, Nat.le_of_eq (Placement.size_interval ..).symm⟩, hcolumns, .inl rfl⟩

/-- So the data is added if the workbook has such a worksheet, as long as the file can be saved
to. -/
theorem isSuccess_iff_of_blank (hfile : file ≠ "") (hname : Text.trim name ≠ "")
    (blank : ∀ w, d.openForChange file = .ok w → ∃ names, w = .blank names) :
    (r.run d).1.isSuccess = true ↔
      (∃ names, d.openForChange file = .ok (.blank names) ∧ Text.trim name ∈ names) ∧
        d.CanSave file := by
  have hasFile : Input.fileName r.file = .ok file :=
    Input.required_eq_ok_iff.mpr ⟨Text.isBlankText_eq_false_of_trim (appends.file ▸ hfile),
      appends.file.symm⟩
  have hasSheet : Input.sheetName r.sheet = .ok (Text.trim name) :=
    Input.required_eq_ok_iff.mpr ⟨Text.isBlankText_eq_false_of_trim (appends.sheet ▸ hname),
      appends.sheet.symm⟩
  rw [isSuccess_iff_saves]
  constructor
  · rintro ⟨u, e, saves⟩
    obtain ⟨hfile', _, hname', hw, hsheet⟩ := subject_eq_ok_iff.mp saves.subject
    have hfileName : file = u.file := Except.ok.inj (hasFile.symm.trans hfile')
    have hsheetName : Text.trim name = u.sheetName := Except.ok.inj (hasSheet.symm.trans hname')
    obtain ⟨names, hnames⟩ := blank _ (hfileName ▸ hw)
    rw [hnames, ← hfileName] at hw
    rw [hnames, ← hsheetName] at hsheet
    exact ⟨⟨names, hw, (Workbook.sheet?_blank_iff.mp hsheet).1⟩, hfileName ▸ saves.can⟩
  · rintro ⟨⟨names, hw, hmem⟩, can⟩
    obtain ⟨e, he⟩ := (exists_changed_iff appends.plain appends.data Sheet.inGrid_empty
      (Nat.zero_le _) storable.taken).mpr (appends.hasRoom storable)
    refine ⟨⟨file, Text.trim name, .blank names, ∅⟩, e, ?_, he, can, ?_, fun x hx _ => ?_⟩
    · exact subject_eq_ok_iff.mpr
        ⟨hasFile, appends.filled, hasSheet, hw, Workbook.sheet?_blank_iff.mpr ⟨hmem, rfl⟩⟩
    · exact (savable_changed_iff appends.plain appends.data he).mpr
        ⟨Sheet.savable_empty, storable.fits⟩
    · rw [Workbook.eq_empty_of_mem_blank hx]
      exact Sheet.savable_empty

end Appends

end AddRequest

/-! ### Both -/

namespace CreateRequest
variable {c : CreateRequest} {d : Directory} {file name : String} {names : List String}

/-- What a new file has to be like for data to be added to a worksheet of it. -/
structure Fillable (file : String) (names : List String) (name : String) : Prop where
  suffix : (Path.ofText file).suffix ≠ ""
  stem : (Path.ofText file).isBareSuffix = false
  markup : ∀ other ∈ names, Text.IsMarkupText other
  seen : name ∈ Fresh.loadedNames names
  short : file.utf8ByteSize < Directory.pathLimit

theorem created_of_success (hnames : c.names = .ok (file, names))
    (success : (c.run d).1.isSuccess = true) :
    ∃ place, Directory.Created file names d (c.run d).2 place := by
  have ended := ended_run c d
  generalize c.run d = result at success ended ⊢
  cases ended with
  | stopped | widened =>
    rw [Outcome.isSuccess_ofFault] at success
    cases success
  | created hnames' hcreated =>
    cases hnames.symm.trans hnames'
    exact ⟨_, hcreated⟩

/-- The names of a new file and of its worksheets are neither blank nor do they have blanks around
them. -/
theorem trimmed_of_names (hnames : c.names = .ok (file, names)) (hname : name ∈ names) :
    file ≠ "" ∧ Text.trim name = name ∧ name ≠ "" := by
  obtain ⟨hfile, _, hparse⟩ := names_eq_ok hnames
  obtain ⟨hfilled, rfl⟩ := Input.required_eq_ok_iff.mp hfile
  have proper := SheetNames.proper_of_parse hparse
  exact ⟨mt Text.isBlankText_iff.mpr (Bool.eq_false_iff.mp hfilled), proper.trimmed name hname,
    proper.filled name hname⟩

section New
variable (hnames : c.names = .ok (file, names)) (success : (c.run d).1.isSuccess = true)
  (hname : name ∈ names)
include hnames success hname

/-- A worksheet of a new workbook is read if the path of the file has a suffix. -/
theorem read_new_iff {q : ReadRequest} (opens : q.Opens file name) :
    ((q.run (c.run d).2).isSuccess = true ↔ (Path.ofText file).suffix ≠ "") ∧
      ((q.run (c.run d).2).isSuccess = true → ReadRequest.IsBlankAnswer (q.run (c.run d).2)) := by
  obtain ⟨place, created⟩ := created_of_success hnames success
  obtain ⟨hfile, htrim, hfilled⟩ := trimmed_of_names hnames hname
  have hopen : ∀ w, (c.run d).2.openForReading file = .ok w ↔
      (Path.ofText file).suffix ≠ "" ∧ w = .blank names := fun _ =>
    Directory.openForReading_new_iff (suffixClass_eq hnames) created.isNew
  have hreading : q.reading (c.run d).2 = (c.run d).2.read file name := by
    rw [ReadRequest.reading_eq, opens.file, opens.sheet, htrim]
    · exact Text.isBlankText_eq_false_of_trim (by rwa [opens.file])
    · exact Text.isBlankText_eq_false_of_trim (by rwa [opens.sheet, htrim])
  have hsuffix : (q.run (c.run d).2).isSuccess = true → (Path.ofText file).suffix ≠ "" := by
    intro h
    obtain ⟨v, _, _, hv, _⟩ := ReadRequest.isSuccess_iff.mp h
    rw [hreading] at hv
    obtain ⟨w, _, hw, _⟩ := Directory.exists_sheet_of_read hv
    exact ((hopen w).mp hw).1
  have hblank : (Path.ofText file).suffix ≠ "" →
      ReadRequest.IsBlankAnswer (q.run (c.run d).2) := by
    intro hne
    have hread := Directory.read_of_sheet? ((hopen _).mpr ⟨hne, rfl⟩)
      (Workbook.sheet?_blank_iff.mpr ⟨hname, rfl⟩) rfl
    exact ReadRequest.isBlankAnswer_run opens.rows opens.columns (hreading.trans hread) rfl
  refine ⟨⟨hsuffix, fun hne => ?_⟩, fun h => hblank (hsuffix h)⟩
  obtain ⟨_, hrun⟩ := hblank hne
  rw [hrun]
  rfl

/-- Storable data is added to it if the file is fillable. -/
theorem add_new_iff {r : AddRequest} {data : Payload} (appends : r.Appends file name data)
    (storable : data.Storable) :
    (r.run (c.run d).2).1.isSuccess = true ↔ Fillable file names name := by
  obtain ⟨place, created⟩ := created_of_success hnames success
  obtain ⟨hfile, htrim, hfilled⟩ := trimmed_of_names hnames hname
  obtain ⟨stem, letters, ending⟩ := exists_ending hnames
  have hopen : ∀ w, (c.run d).2.openForChange file = .ok w ↔ (Path.ofText file).suffix ≠ "" ∧
      (Path.ofText file).isBareSuffix = false ∧
        (∀ other ∈ names, Text.IsMarkupText other) ∧ w = .blank (Fresh.loadedNames names) :=
    fun _ => Directory.openForChange_new_iff (suffixClass_eq hnames) created.isNew
  rw [appends.isSuccess_iff_of_blank storable hfile (by rwa [htrim]) fun w hw =>
    ⟨_, ((hopen w).mp hw).2.2.2⟩, htrim, created.canSave_iff,
    ending.endFlaw?_eq_none_iff]
  constructor
  · rintro ⟨⟨loaded, hw, hmem⟩, hshort⟩
    obtain ⟨hsuffix, hstem, hmarkup, hblank⟩ := (hopen _).mp hw
    have hloaded : loaded = Fresh.loadedNames names := by
      rw [← Workbook.names_blank loaded, hblank, Workbook.names_blank]
    exact ⟨hsuffix, hstem, hmarkup, hloaded ▸ hmem, hshort⟩
  · intro h
    exact ⟨⟨_, (hopen _).mpr ⟨h.suffix, h.stem, h.markup, rfl⟩, h.seen⟩, h.short⟩

end New

/-- **New workbooks.** A request creates a workbook. Its worksheets are then read, and have no rows,
exactly if the path of the file has a suffix. Storable data is added to one of them exactly if
besides there is more than points in front of the suffix, markup can hold the names, that of the
worksheet is among them as they are loaded, and the name of the file is short enough. Names without
tabs and carriage returns are loaded as they are. -/
theorem usable_iff (c : CreateRequest) (d : Directory) (file : String) (names : List String)
    (name : String) (hnames : c.names = .ok (file, names))
    (success : (c.run d).1.isSuccess = true) (hname : name ∈ names) :
    (∀ q : ReadRequest, q.Opens file name →
      ((q.run (c.run d).2).isSuccess = true ↔ (Path.ofText file).suffix ≠ "") ∧
        ((q.run (c.run d).2).isSuccess = true →
          ReadRequest.IsBlankAnswer (q.run (c.run d).2))) ∧
      (∀ (r : AddRequest) data, r.Appends file name data → data.Storable →
        ((r.run (c.run d).2).1.isSuccess = true ↔ Fillable file names name)) ∧
      ((∀ other ∈ names, '\t' ∉ other.toList ∧ '\r' ∉ other.toList) →
        name ∈ Fresh.loadedNames names) := by
  refine ⟨fun q opens => read_new_iff hnames success hname opens,
    fun r data appends storable => add_new_iff hnames success hname appends storable,
    fun plain => ?_⟩
  have proper := SheetNames.proper_of_parse (names_eq_ok hnames).2.2
  rw [Fresh.loadedNames_of_plain proper.differ plain]
  exact hname

/-- A new file with one worksheet. -/
def oneSheet (file : String) : CreateRequest :=
  ⟨file, "S", ","⟩

/-- All of the worksheet of a new file. -/
def wholeSheet (file : String) : ReadRequest :=
  ⟨file, "S", true, 0, "", "", "|", ","⟩

/-- A number for the worksheet of a new file. -/
def oneNumber (file : String) : AddRequest :=
  { AddRequest.single "1" with file }

theorem storable_one : (⟨[["1"]]⟩ : Payload).Storable where
  rows := by decide
  columns := by decide
  taken := by decide +kernel
  fits := by
    intro row hrow token htoken n hn
    obtain rfl := List.mem_singleton.mp hrow
    obtain rfl := List.mem_singleton.mp htoken
    have hone : (coerce "1").toOption = some (.integer 1) := by decide +kernel
    rw [hn] at hone
    cases hone
    decide +kernel

/-- A file with an ordinary name is read and filled. -/
theorem usable_iff_ordinary :
    ((oneSheet "b.xlsx").run ∅).1.isSuccess = true ∧
      ReadRequest.IsBlankAnswer ((wholeSheet "b.xlsx").run ((oneSheet "b.xlsx").run ∅).2) ∧
      Fillable "b.xlsx" ["S"] "S" ∧
      ((oneNumber "b.xlsx").run ((oneSheet "b.xlsx").run ∅).2).1.isSuccess = true := by
  have success : ((oneSheet "b.xlsx").run ∅).1.isSuccess = true := by decide +kernel
  have hnames : (oneSheet "b.xlsx").names = .ok ("b.xlsx", ["S"]) := by rfl
  obtain ⟨hread, hadd, hseen⟩ := usable_iff (oneSheet "b.xlsx") ∅ "b.xlsx" ["S"] "S" hnames success
    (List.mem_singleton.mpr rfl)
  have opens : (wholeSheet "b.xlsx").Opens "b.xlsx" "S" :=
    ⟨by decide +kernel, by decide +kernel, ⟨∅, rfl⟩, ⟨∅, rfl⟩⟩
  have appends : (oneNumber "b.xlsx").Appends "b.xlsx" "S" ⟨[["1"]]⟩ :=
    ⟨by decide +kernel, by decide +kernel, ⟨rfl, by decide⟩, by decide, by decide, by decide, rfl⟩
  have fillable : Fillable "b.xlsx" ["S"] "S" :=
    ⟨by decide +kernel, by decide +kernel, by decide, hseen (by decide), by decide +kernel⟩
  obtain ⟨hsuffix, hblank⟩ := hread _ opens
  exact ⟨success, hblank (hsuffix.mpr fillable.suffix), fillable,
    (hadd _ _ appends storable_one).mpr fillable⟩

/-- A file whose name is nothing but a suffix is created, but then it can neither be read nor be
filled. -/
theorem not_usable_onlySuffix :
    (oneSheet ".xlsx").names = .ok (".xlsx", ["S"]) ∧
      ((oneSheet ".xlsx").run ∅).1.isSuccess = true ∧
      ((wholeSheet ".xlsx").run ((oneSheet ".xlsx").run ∅).2).isSuccess = false ∧
      ((oneNumber ".xlsx").run ((oneSheet ".xlsx").run ∅).2).1.isSuccess = false :=
  ⟨rfl, by decide +kernel⟩

end CreateRequest

end SheetActions
