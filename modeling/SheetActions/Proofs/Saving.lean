import SheetActions.Files.Saving
import SheetActions.Proofs.Steps

/-! Saving a changed workbook.

A workbook that was opened to be changed is in a file, and the path that led to it leads
there again when it is saved: nothing but that file can change (`Rewritten`). A name with
a slash at its end saves nothing, and a file that must not be written to is left alone
(`CanSave`). Any other file is written to, even when the workbook turns out to be
`Unsavable`; then the old content is lost and an archive without a workbook is left. -/
namespace SheetActions

/-- A workbook that no file can take: a sheet of it has a cell in a column without a name, or
an integer beyond the floating-point numbers. -/
def Workbook.Unsavable (w : Workbook) : Prop :=
  ∃ e ∈ w.sheets, Sheet.namedColumns < e.2.extent.columns ∨
    ∃ r c n, e.2.cell r c = some (.integer n) ∧ (Binary64.ofInt n).isFinite = false

theorem Value.isStorable_eq_false_iff {v : Value} :
    v.isStorable = false ↔ ∃ n, v = .integer n ∧ (Binary64.ofInt n).isFinite = false := by
  cases v <;> simp [Value.isStorable]

theorem Sheet.saveFlaw?_isSome_iff {s : Sheet} :
    s.saveFlaw?.isSome ↔ namedColumns < s.extent.columns ∨
      ∃ r c n, s.cell r c = some (.integer n) ∧ (Binary64.ofInt n).isFinite = false := by
  have hvalues : (s.values.toList.all fun v => v.2.2.isStorable) = false ↔
      ∃ r c n, s.cell r c = some (.integer n) ∧ (Binary64.ofInt n).isFinite = false := by
    simp only [List.all_eq_false, Bool.not_eq_true, Value.isStorable_eq_false_iff, Prod.exists,
      Grid.mem_toList_iff, Sheet.cell]
    constructor
    · rintro ⟨r, c, v, hv, n, rfl, hn⟩
      exact ⟨r, c, n, hv, hn⟩
    · rintro ⟨r, c, n, hv, hn⟩
      exact ⟨r, c, _, hv, n, rfl, hn⟩
  rw [← hvalues, saveFlaw?]
  split
  · simp only [Option.isSome_some, true_iff]
    exact .inl ‹_›
  · rename_i hcolumns
    rw [or_iff_right hcolumns]
    cases s.values.toList.all fun v => v.2.2.isStorable <;> simp

theorem Workbook.saveFlaw?_isSome_iff {w : Workbook} : w.saveFlaw?.isSome ↔ w.Unsavable := by
  simp only [saveFlaw?, List.findSome?_isSome_iff, Sheet.saveFlaw?_isSome_iff, Unsavable]

/-- A sheet that a file can take. -/
structure Sheet.Savable (s : Sheet) : Prop where
  columns : s.extent.columns ≤ namedColumns
  storable : ∀ r c v, s.cell r c = some v → v.isStorable = true

theorem Sheet.savable_empty : (∅ : Sheet).Savable :=
  ⟨Nat.zero_le _, fun _ _ _ h => nomatch h⟩

theorem Sheet.Savable.put {s : Sheet} (h : s.Savable) (r : Nat) {c : Nat} {v : Option Value}
    (hc : c < namedColumns) (hv : ∀ w, v = some w → w.isStorable = true) :
    (s.put r c v).Savable where
  columns := Nat.max_le.mpr ⟨h.columns, hc⟩
  storable := fun i j w hw => by
    rw [cell_put] at hw
    split at hw
    · exact hv w hw
    · exact h.storable i j w hw

/-! ### All sheets -/

section All
variable {P : Sheet → Prop}

/-- All sheets of a workbook have a property. -/
def Workbook.All (P : Sheet → Prop) (w : Workbook) : Prop :=
  ∀ e ∈ w.sheets, P e.2

def Content.All (P : Sheet → Prop) (content : Content) : Prop :=
  ∀ w, content = .workbook w → w.All P

/-- All sheets in the files of a directory have a property. -/
def Directory.All (P : Sheet → Prop) (d : Directory) : Prop :=
  ∀ place content, d.node? place = some (.file content) → content.All P

/-- The directory with one file, which holds a workbook. -/
def Directory.ofFile (name : String) (w : Workbook) : Directory :=
  ⟨[([name], .file (.workbook w))], []⟩

theorem Directory.eq_of_node?_ofFile {name : String} {w : Workbook} {place : Place}
    {content : Content} (h : (ofFile name w).node? place = some (.file content)) :
    content = .workbook w := by
  simp only [node?, ofFile] at h
  split at h
  · cases h
  · obtain ⟨x, hx, hnode⟩ := Option.map_eq_some_iff.mp h
    obtain rfl := List.mem_singleton.mp (List.mem_of_find?_eq_some hx)
    cases hnode
    rfl

theorem Directory.all_ofFile {name : String} {w : Workbook} (h : w.All P) :
    (ofFile name w).All P := by
  intro place content hcontent w' hw
  rw [eq_of_node?_ofFile hcontent] at hw
  cases hw
  exact h

theorem Workbook.All.sheet? {w : Workbook} {name : String} {s : Sheet} (h : w.All P)
    (hs : w.sheet? name = some s) : P s := by
  obtain ⟨e, he, rfl⟩ := Option.map_eq_some_iff.mp hs
  exact h e (List.mem_of_find?_eq_some he)

/-- Once a sheet is replaced, its successor and the other sheets count. -/
theorem Workbook.all_put_iff {w : Workbook} {name : String} {s e : Sheet}
    (hs : w.sheet? name = some s) :
    (w.put name e).All P ↔ P e ∧ ∀ x ∈ w.sheets, x.1 ≠ name → P x.2 := by
  simp only [All, put, List.forall_mem_map]
  obtain ⟨x, hx, _⟩ := Option.map_eq_some_iff.mp hs
  have hname : x.1 = name := by simpa using List.find?_some hx
  constructor
  · intro hall
    refine ⟨?_, fun y hy hne => ?_⟩
    · have he := hall x (List.mem_of_find?_eq_some hx)
      rwa [if_pos hname] at he
    · have he := hall y hy
      rwa [if_neg hne] at he
  · rintro ⟨he, hothers⟩ y hy
    split
    · exact he
    · exact hothers y hy ‹_›

theorem Workbook.all_stored_iff {w : Workbook} : w.stored.All P ↔ w.All fun s => P s.stored := by
  simp only [All, stored, List.forall_mem_map]

end All

/-- A workbook can be saved when all of its sheets can. -/
theorem Workbook.not_unsavable_iff {w : Workbook} : ¬ w.Unsavable ↔ w.All Sheet.Savable := by
  simp only [Unsavable, not_exists, not_and, not_or, Nat.not_lt, Bool.not_eq_false]
  refine forall₂_congr fun e _ => ⟨fun h => ⟨h.1, fun r c v hv => ?_⟩, fun h => ⟨h.columns, ?_⟩⟩
  · cases v with
    | integer n => exact h.2 r c n hv
    | _ => rfl
  · exact fun r c n hn => h.storable r c _ hn

namespace Directory

/-- Two directories have the same at a place, which may be written to in both or in neither. -/
structure SameAt (d d' : Directory) (place : Place) : Prop where
  node : d'.node? place = d.node? place
  isReadOnly : d'.isReadOnly place = d.isReadOnly place

section
variable {d d' d'' : Directory} {place : Place}

theorem SameAt.refl : SameAt d d place := ⟨rfl, rfl⟩

theorem SameAt.symm (h : SameAt d d' place) : SameAt d' d place :=
  ⟨h.node.symm, h.isReadOnly.symm⟩

theorem SameAt.trans (h : SameAt d d' place) (h' : SameAt d' d'' place) : SameAt d d'' place :=
  ⟨h'.node.trans h.node, h'.isReadOnly.trans h.isReadOnly⟩

end

/-- `d'` is `d` but for the file that a name leads to, which has a new content. -/
structure Rewritten (d : Directory) (file : String) (old new : Content) (d' : Directory) :
    Prop where
  exists_place : ∃ place, d.resolve (Path.ofText file) = .ok place ∧
    d.node? place = some (.file old) ∧ d'.node? place = some (.file new) ∧
    ∀ other, other ≠ place → d'.node? other = d.node? other
  isReadOnly : ∀ place, d'.isReadOnly place = d.isReadOnly place

/-- Something can be saved to the file that a name leads to. -/
structure CanSave (d : Directory) (file : String) : Prop where
  name : endFlaw? file = none
  writable : d.isWritable (Path.ofText file) = true

/-- What was opened to be changed is a file, and its content can be changed. -/
theorem content_of_openForChange {d : Directory} {file : String} {w : Workbook}
    (h : d.openForChange file = .ok w) :
    ∃ place old, d.resolve (Path.ofText file) = .ok place ∧ d.node? place = some (.file old) ∧
      changeable (Path.ofText file) (.file old) = .ok w := by
  obtain ⟨node, hnode, hw⟩ := bind_eq_ok.mp h
  rw [mapError_eq_ok] at hw
  have hfind : ∃ place, d.find (Path.ofText file) = .ok (place, node) := by
    simp only [accept] at hnode
    split at hnode
    · cases hnode
    · split at hnode
      · cases hnode
        exact ⟨_, ‹_›⟩
      · cases hnode
      · cases hnode
  obtain ⟨place, hfind⟩ := hfind
  obtain ⟨place', hplace, hnode'⟩ := bind_eq_ok.mp hfind
  split at hnode'
  · rename_i node' hat
    cases hnode'
    cases node with
    | folder =>
      unfold changeable at hw
      split at hw <;> cases hw
    | file old => exact ⟨place, old, hplace, hat, hw⟩
  · cases hnode'

/-- A file that can be changed is that of a new workbook, or it holds one that was saved. -/
theorem changeable_eq_ok {p : Path} {old : Content} {w : Workbook}
    (h : changeable p (.file old) = .ok w) :
    (∃ names, old = .fresh names ∧ changeableFresh names = .ok w) ∨
      ∃ kept, old = .workbook kept ∧ kept.isMarkup = true ∧ w = kept.loaded := by
  simp only [changeable] at h
  split at h
  · cases h
  · cases old with
    | archive => cases h
    | text s =>
      -- a text may be an archive, which holds no workbook either
      have hkind : contentKind (.text s) = .archive ∨ contentKind (.text s) = .text s := by
        simp only [contentKind]
        split
        · exact .inl rfl
        · exact .inr rfl
      rcases hkind with hkind | hkind <;> rw [hkind] at h <;> cases h
    | fresh names =>
      simp only [contentKind] at h
      exact .inl ⟨names, rfl, h⟩
    | workbook kept =>
      simp only [contentKind] at h
      split at h
      · rename_i hmarkup
        cases h
        exact .inr ⟨kept, rfl, hmarkup, rfl⟩
      · cases h

/-- A workbook that is opened to be changed is new, or it is that of a file. -/
theorem workbook_of_openForChange {d : Directory} {file : String} {w : Workbook}
    (h : d.openForChange file = .ok w) : (∃ names, changeableFresh names = .ok w) ∨
      ∃ place kept, d.node? place = some (.file (.workbook kept)) ∧ kept.isMarkup = true ∧
        w = kept.loaded := by
  obtain ⟨place, old, _, hold, hw⟩ := content_of_openForChange h
  rcases changeable_eq_ok hw with ⟨names, _, hnew⟩ | ⟨kept, rfl, hmarkup, rfl⟩
  · exact .inl ⟨names, hnew⟩
  · exact .inr ⟨place, kept, hold, hmarkup, rfl⟩

/-- A new workbook has the names as they are seen, if markup can hold them. -/
theorem changeableFresh_eq_ok_iff {names : List String} {w : Workbook} :
    changeableFresh names = .ok w ↔
      Fresh.illegal? names = none ∧ w = .blank (Fresh.loadedNames names) := by
  unfold changeableFresh
  cases Fresh.illegal? names with
  | some p => simp
  | none => simp [eq_comm]

/-- A sheet that is opened to be changed is blank, or it is a sheet of a file. -/
theorem sheets_of_openForChange {d : Directory} {file : String} {w : Workbook}
    (h : d.openForChange file = .ok w) : ∀ e ∈ w.sheets, e.2 = ∅ ∨
      ∃ place kept x, d.node? place = some (.file (.workbook kept)) ∧ x ∈ kept.sheets ∧
        e.2 = x.2.loaded := by
  intro e he
  rcases workbook_of_openForChange h with ⟨names, hw⟩ | ⟨place, kept, hkept, _, rfl⟩
  · obtain ⟨_, rfl⟩ := changeableFresh_eq_ok_iff.mp hw
    obtain ⟨name, _, rfl⟩ := List.mem_map.mp he
    exact .inl rfl
  · obtain ⟨x, hx, rfl⟩ := List.mem_map.mp he
    exact .inr ⟨place, kept, x, hkept, hx, rfl⟩

/-- What all sheets in files have makes for what all sheets of a workbook have that is opened. -/
theorem All.openForChange {P Q : Sheet → Prop} {d : Directory} {file : String} {w : Workbook}
    (all : d.All P) (blank : Q ∅) (loaded : ∀ s, P s → Q s.loaded)
    (h : d.openForChange file = .ok w) : w.All Q := by
  intro e he
  rcases sheets_of_openForChange h e he with hblank | ⟨place, kept, x, hkept, hx, hloaded⟩
  · rw [hblank]
    exact blank
  · rw [hloaded]
    exact loaded _ (all place _ hkept kept rfl x hx)

theorem All.rewritten_iff {P : Sheet → Prop} {d d' : Directory} {file : String} {old new : Content}
    (all : d.All P) (h : d.Rewritten file old new d') : d'.All P ↔ new.All P := by
  obtain ⟨place, _, _, hnew, hothers⟩ := h.exists_place
  refine ⟨fun hall => hall place new hnew, fun hin other content hcontent => ?_⟩
  by_cases hother : other = place
  · subst hother
    cases hnew.symm.trans hcontent
    exact hin
  · rw [hothers other hother] at hcontent
    exact all other content hcontent

/-- An archive without a workbook cannot be opened. -/
theorem changeable_archive (p : Path) (w : Workbook) :
    changeable p (.file .archive) ≠ .ok w := by
  unfold changeable
  split <;> exact nofun

/-- What a path leads to. -/
theorem find_eq_ok_iff {d : Directory} {p : Path} {place : Place} {node : Node} :
    d.find p = .ok (place, node) ↔ d.resolve p = .ok place ∧ d.node? place = some node := by
  rw [find, bind_eq_ok]
  constructor
  · rintro ⟨other, hplace, hnode⟩
    split at hnode
    · cases hnode
      exact ⟨hplace, ‹_›⟩
    · cases hnode
  · rintro ⟨hplace, hnode⟩
    refine ⟨place, hplace, ?_⟩
    rw [hnode]
    rfl

section Store
variable {d : Directory} {file : String} {place : Place} {old : Content}
  (hplace : d.resolve (Path.ofText file) = .ok place) (hold : d.node? place = some (.file old))
include hplace hold

theorem isWritable_eq : d.isWritable (Path.ofText file) = !d.isReadOnly place := by
  rw [isWritable, find_eq_ok_iff.mpr ⟨hplace, hold⟩]

/-- A file that may be written to can be given any content. -/
theorem store_of_file (hwritable : d.isWritable (Path.ofText file) = true) (named : String)
    (new : Content) : d.store file named new = .done (d.put place (.file new)) := by
  rw [isWritable_eq hplace hold, Bool.not_eq_true'] at hwritable
  have hwrite : d.writeFile (Path.ofText file) new = .ok (d.put place (.file new)) := by
    unfold writeFile
    rw [hplace]
    simp only [bind, Except.bind, hold, hwritable]
    rfl
  unfold store
  rw [hwrite]
  rfl

/-- Any other is left as it is. -/
theorem store_of_readOnly (hdenied : d.isWritable (Path.ofText file) = false) (named : String)
    (new : Content) :
    d.store file named new = .stopped d (.refusal (.permissionDenied file "write")) := by
  rw [isWritable_eq hplace hold, Bool.not_eq_false'] at hdenied
  have hwrite : d.writeFile (Path.ofText file) new = .error .denied := by
    unfold writeFile
    rw [hplace]
    simp only [bind, Except.bind, hold, hdenied]
    rfl
  unfold store
  rw [hwrite]
  rfl

theorem rewritten_put (hwritable : d.isWritable (Path.ofText file) = true) (new : Content) :
    d.Rewritten file old new (d.put place (.file new)) := by
  have hgiven : ¬ isGiven place := fun h => by
    rw [node?, if_pos h] at hold
    cases hold
  refine ⟨⟨place, hplace, hold, ?_, fun other hother => ?_⟩, fun other => ?_⟩
  · rw [node?_put, if_pos ⟨rfl, hgiven⟩]
  · rw [node?_put, if_neg fun h => hother h.1]
  · rw [isReadOnly_put]
    by_cases hother : other = place
    · rw [isWritable_eq hplace hold, Bool.not_eq_true'] at hwritable
      rw [hother, hwritable, Bool.false_and]
    · rw [decide_eq_true hother, Bool.and_true]

/-- A saved workbook is in the file it was opened from, and nothing else has changed. -/
theorem save_of_savable {w : Workbook} (can : d.CanSave file) (hw : ¬ w.Unsavable) :
    ∃ d', d.save file w = .done d' ∧ d.Rewritten file old (.workbook w.stored) d' := by
  have hflaw : w.saveFlaw? = none := by
    rwa [← Workbook.saveFlaw?_isSome_iff, Option.not_isSome_iff_eq_none] at hw
  refine ⟨_, ?_, rewritten_put hplace hold can.writable _⟩
  simp only [save, can.name, hflaw, store_of_file hplace hold can.writable]

/-- An attempt to save a workbook that cannot be saved costs the file its content. -/
theorem save_of_unsavable {w : Workbook} (can : d.CanSave file) (hw : w.Unsavable) :
    ∃ d' flaw, d.save file w = .stopped d' (writeFault file "save" (SaveFlaw.message flaw)) ∧
      d.Rewritten file old .archive d' := by
  obtain ⟨flaw, hflaw⟩ := Option.isSome_iff_exists.mp (Workbook.saveFlaw?_isSome_iff.mpr hw)
  refine ⟨_, flaw, ?_, rewritten_put hplace hold can.writable _⟩
  simp only [save, can.name, hflaw, store_of_file hplace hold can.writable]
  rfl

end Store

/-- Why nothing can be saved to a file: its name does not lead to it as it stands, or it must not
be written to. -/
inductive Obstructs (d : Directory) (file : String) : Fault → Prop where
  | name {flaw : PathFlaw} (h : endFlaw? file = some flaw) :
    Obstructs d file (writeFault file "save" (flaw.message file))
  | readOnly (name : endFlaw? file = none) (h : d.isWritable (Path.ofText file) = false) :
    Obstructs d file (.refusal (.permissionDenied file "write"))

theorem exists_obstructs {d : Directory} {file : String} (h : ¬ d.CanSave file) :
    ∃ f, d.Obstructs file f := by
  cases hend : endFlaw? file with
  | some flaw => exact ⟨_, .name hend⟩
  | none =>
    cases hwritable : d.isWritable (Path.ofText file) with
    | true => exact absurd ⟨hend, hwritable⟩ h
    | false => exact ⟨_, .readOnly hend hwritable⟩

theorem Obstructs.not_canSave {d : Directory} {file : String} {f : Fault}
    (h : d.Obstructs file f) : ¬ d.CanSave file := by
  rintro ⟨hname, hwritable⟩
  cases h with
  | name hend => cases hname.symm.trans hend
  | readOnly _ hdenied => cases hwritable.symm.trans hdenied

/-- The kind of a failure to save to a file. -/
def saveFailure (d : Directory) (file : String) : FailureKind :=
  if endFlaw? file = none ∧ d.isWritable (Path.ofText file) = false then .permissionDenied
  else .writeFailure

theorem CanSave.saveFailure_eq {d : Directory} {file : String} (can : d.CanSave file) :
    d.saveFailure file = .writeFailure :=
  if_neg fun h => by rw [can.writable] at h; cases h.2

theorem Obstructs.exists_refusal {d : Directory} {file : String} {f : Fault}
    (h : d.Obstructs file f) : ∃ r : Refusal, f = .refusal r ∧ r.kind = d.saveFailure file := by
  cases h with
  | name hend =>
    refine ⟨_, rfl, ?_⟩
    rw [saveFailure, hend, if_neg fun h => by cases h.1]
    rfl
  | readOnly hname hdenied => exact ⟨_, rfl, (if_pos ⟨hname, hdenied⟩).symm⟩

/-- Then nothing changes, whatever is to be saved. -/
theorem Obstructs.save {d : Directory} {file : String} {f : Fault} (h : d.Obstructs file f)
    {place : Place} {old : Content} (hplace : d.resolve (Path.ofText file) = .ok place)
    (hold : d.node? place = some (.file old)) (w : Workbook) :
    d.save file w = .stopped d f := by
  cases h with
  | name hend => simp only [Directory.save, hend]
  | readOnly hend hdenied =>
    simp only [Directory.save, hend, store_of_readOnly hplace hold hdenied]
    cases w.saveFlaw? <;> rfl

end Directory

end SheetActions
