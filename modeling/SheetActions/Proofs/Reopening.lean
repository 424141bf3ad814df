import SheetActions.Proofs.InParts

/-! A workbook that is saved and opened again.

A saved workbook is found in its file by the name that it was saved to
(`openForChange_rewritten`). As far as saving and reloading keeps its cells, its sheets are
alike to what they were (`alike_reloaded`), provided that nothing lies beyond the touched
cells; that is so in every file and stays so (`covered_run`). What one request does to a sheet
can thus be split between two requests, although the file is saved and opened in between
(`Splits.run`). -/
namespace SheetActions

namespace Sheet
variable {s t o e : Sheet}

/-! ### The touched cells -/

/-- No cell beyond the columns that were touched has a value or a style. -/
structure Covered (s : Sheet) : Prop where
  cell : ∀ r c, s.extent.columns ≤ c → s.cell r c = none
  style : ∀ r c, s.extent.columns ≤ c → s.style r c = none

theorem covered_empty : (∅ : Sheet).Covered :=
  ⟨fun _ _ _ => rfl, fun _ _ _ => rfl⟩

/-- In a file the touched cells are those that have something. -/
theorem covered_stored (s : Sheet) : s.stored.Covered where
  cell := fun r c hc =>
    usedColumns_le_iff.mp (Nat.le_trans (Nat.le_max_left _ _) hc) r c (Nat.le_refl c)
  style := fun r c hc =>
    Grid.usedColumns_le_iff.mp (Nat.le_trans (Nat.le_max_right _ _) hc) r c (Nat.le_refl c)

theorem Covered.loaded (h : s.Covered) : s.loaded.Covered where
  cell := fun r c hc => by rw [cell_loaded, h.cell r c hc]; rfl
  style := h.style

theorem style_put_of_ne {r c i j : Nat} {v : Option Value} (h : j ≠ c) :
    (s.put r c v).style i j = s.style i j := by
  show (s.stylesWith r c v).get? i j = _
  unfold stylesWith
  split
  · rw [Grid.get?_put, if_neg fun hat => h hat.2]
    rfl
  · rfl

theorem columns_put (s : Sheet) (r c : Nat) (v : Option Value) :
    (s.put r c v).extent.columns = max s.extent.columns (c + 1) := rfl

theorem Covered.put (h : s.Covered) (r c : Nat) (v : Option Value) : (s.put r c v).Covered where
  cell := fun i j hj => by
    rw [columns_put, Nat.max_le] at hj
    obtain ⟨hs, hc⟩ := hj
    rw [cell_put, if_neg fun hat => by omega]
    exact h.cell i j hs
  style := fun i j hj => by
    rw [columns_put, Nat.max_le] at hj
    obtain ⟨hs, hc⟩ := hj
    rw [style_put_of_ne (by omega)]
    exact h.style i j hs

theorem Covered.openedAt (h : s.Covered) (r : Run) : (s.openedAt r).Covered where
  cell := fun i c hc => by
    rw [columns_openedAt] at hc
    rw [Sheet.openedAt, cell_moved s r.length_pos, h.cell _ c hc, h.cell _ c hc]
    simp
  style := fun i c hc => by
    rw [columns_openedAt] at hc
    have hstyle : ∀ i, s.styles.get? i c = none := fun i => h.style i c hc
    show (s.styles.moveDown _ _ _).get? i c = none
    rw [Grid.get?_moveDown _ r.length_pos, hstyle, hstyle]
    simp

/-- What opening a run of rows preserves, opening rows preserves. -/
theorem of_openRows {P : Sheet → Prop} {rows : IndexSet}
    (step : ∀ (t : Sheet) (r : Run), P t → P (t.openedAt r)) (hs : P s)
    (h : s.openRows rows = .done o) : P o := by
  rw [openRows_eq_openRuns] at h
  generalize rows.runs = rs at h
  induction rs generalizing s with
  | nil =>
    cases h
    exact hs
  | cons r rs ih =>
    cases hr : s.openRun r with
    | error f => rw [openRuns_cons_error hr] at h; cases h
    | ok t =>
      rw [openRuns_cons_ok hr] at h
      refine ih ?_ h
      unfold Sheet.openRun at hr
      split at hr
      · cases hr
        exact hs
      · split at hr
        · cases hr
        · split at hr
          · cases hr
          · cases hr
            exact step s r hs

theorem Covered.openRows {rows : IndexSet} (h : s.Covered) (ho : s.openRows rows = .done o) :
    o.Covered :=
  of_openRows (fun _ r ht => Covered.openedAt ht r) h ho

theorem Covered.run {overwrite : Bool} {l : List Target} (h : s.Covered)
    (he : Progress.run (writeToken overwrite) s l = .done e) : e.Covered :=
  of_run (fun _ _ _ _ _ _ ht => Covered.put ht ..) h he

/-! ### Saving and loading -/

theorem usedRows_loaded (s : Sheet) : s.loaded.usedRows = s.usedRows :=
  eq_of_forall_ge_iff fun n => by simp only [usedRows_le_iff, cell_loaded, Option.map_eq_none_iff]

/-- What holds of all cells can be checked at those that hold a value. -/
theorem forall_cell_iff {P : Nat → Nat → Value → Prop} :
    (∀ r c v, s.cell r c = some v → P r c v) ↔ ∀ x ∈ s.values.toList, P x.1 x.2.1 x.2.2 := by
  simp only [Prod.forall, Grid.mem_toList_iff]
  rfl

/-- To a file the sheet that it gives back is the one that it was given. -/
def Lasts (s : Sheet) : Prop :=
  ∀ r c, s.stored.loaded.imprint r c = s.imprint r c

/-- A sheet lasts if each of its values does. -/
theorem lasts_iff : s.Lasts ↔ ∀ x ∈ s.values.toList,
    (x.2.2.stored.map (Value.loaded (s.style x.1 x.2.1))).map Value.imprint =
      some x.2.2.imprint := by
  have hcell : ∀ r c, s.stored.loaded.imprint r c =
      (((s.cell r c).bind Value.stored).map (Value.loaded (s.style r c))).map Value.imprint := by
    intro r c
    rw [Sheet.imprint, cell_loaded, cell_stored]
    rfl
  rw [← forall_cell_iff (P := fun r c v =>
    (v.stored.map (Value.loaded (s.style r c))).map Value.imprint = some v.imprint)]
  constructor
  · intro h r c v hv
    have hsame := h r c
    rw [hcell, Sheet.imprint, hv] at hsame
    exact hsame
  · intro h r c
    rw [hcell, Sheet.imprint]
    cases hv : s.cell r c with
    | none => rfl
    | some v => exact h r c v hv

instance (s : Sheet) : Decidable s.Lasts :=
  decidable_of_iff _ lasts_iff.symm

/-- Saving leaves no more columns than were touched. -/
theorem columns_stored_le (covered : s.Covered) :
    s.stored.extent.columns ≤ s.extent.columns := by
  refine Nat.max_le.mpr ⟨?_, ?_⟩
  · refine Grid.usedColumns_le_iff.mpr fun r c hc => ?_
    show s.stored.cell r c = none
    rw [cell_stored, covered.cell r c hc]
    rfl
  · exact Grid.usedColumns_le_iff.mpr covered.style

theorem alike_reloaded (covered : s.Covered) (savable : s.Savable) (lasts : s.Lasts) :
    s.stored.loaded.Alike s where
  imprint := lasts
  height := fun _ => rfl
  named := by
    exact iff_of_true (Nat.le_trans (columns_stored_le covered) savable.columns) savable.columns

end Sheet

/-- A workbook lasts if it can be opened once it is saved, and its sheets last. -/
structure Workbook.Lasts (w : Workbook) : Prop where
  isMarkup : w.stored.isMarkup = true
  sheets : w.All Sheet.Lasts

instance (w : Workbook) : Decidable w.Lasts :=
  decidable_of_iff (w.stored.isMarkup = true ∧ ∀ e ∈ w.sheets, e.2.Lasts)
    ⟨fun h => ⟨h.1, h.2⟩, fun h => ⟨h.isMarkup, h.sheets⟩⟩

/-! ### The file afterwards -/

/-- The workbook in a file, unless it is a new one. -/
def Node.workbook? : Node → Option Workbook
  | .file (.workbook w) => some w
  | _ => none

namespace Directory
variable {d d' : Directory} {file : String} {old : Content} {w : Workbook}

theorem resolve_rewritten {new : Content} (h : d.Rewritten file old new d') (p : Path) :
    d'.resolve p = d.resolve p := by
  obtain ⟨place, _, hold, hnew, hothers⟩ := h.exists_place
  have henter : d'.enter = d.enter := by
    funext here component
    simp only [enter]
    refine congrArg _ (funext fun other => ?_)
    by_cases hother : other = place
    · rw [hother, hold, hnew]
    · rw [hothers other hother]
  simp only [resolve, henter]

theorem find_rewritten {new : Content} (h : d.Rewritten file old new d') :
    ∃ place, d'.find (Path.ofText file) = .ok (place, .file new) := by
  obtain ⟨place, hplace, _, hnew, _⟩ := h.exists_place
  refine ⟨place, bind_eq_ok.mpr ⟨place, (resolve_rewritten h _).trans hplace, ?_⟩⟩
  rw [hnew]
  rfl

/-- What may be written to stays so. -/
theorem isWritable_rewritten {new : Content} (h : d.Rewritten file old new d') (p : Path) :
    d'.isWritable p = d.isWritable p := by
  obtain ⟨place, _, hold, hnew, hothers⟩ := h.exists_place
  simp only [isWritable, find, resolve_rewritten h]
  cases hp : d.resolve p with
  | error flaw => rfl
  | ok other =>
    by_cases hother : other = place
    · simp only [bind, Except.bind, hother, hold, hnew, h.isReadOnly, pure, Except.pure]
    · simp only [bind, Except.bind, hothers other hother, h.isReadOnly]

theorem canSave_rewritten_iff {new : Content} {other : String} (h : d.Rewritten file old new d') :
    d'.CanSave other ↔ d.CanSave other :=
  ⟨fun can => ⟨can.name, (isWritable_rewritten h _).symm.trans can.writable⟩,
    fun can => ⟨can.name, (isWritable_rewritten h _).trans can.writable⟩⟩

theorem Obstructs.rewritten {new : Content} {other : String} {f : Fault}
    (obstructs : d.Obstructs other f) (h : d.Rewritten file old new d') : d'.Obstructs other f := by
  cases obstructs with
  | name hend => exact .name hend
  | readOnly hname hdenied => exact .readOnly hname ((isWritable_rewritten h _).trans hdenied)

/-- A name that a workbook was opened by opens the workbook that was saved to it. -/
theorem openForChange_rewritten {before : Workbook} (hopened : d.openForChange file = .ok before)
    (h : d.Rewritten file old (.workbook w) d') (readable : w.isMarkup = true) :
    d'.openForChange file = .ok w.loaded := by
  obtain ⟨node, hnode, hw⟩ := bind_eq_ok.mp hopened
  obtain ⟨place, hfind⟩ := find_rewritten h
  refine bind_eq_ok.mpr ⟨.file (.workbook w), ?_, ?_⟩
  · simp only [accept] at hnode ⊢
    split at hnode
    · cases hnode
    · rename_i hformat
      rw [if_neg hformat, hfind]
  · rw [mapError_eq_ok] at hw ⊢
    unfold changeable at hw ⊢
    split at hw
    · cases hw
    · rename_i hname
      rw [if_neg hname]
      simp only [contentKind]
      rw [if_pos readable]

/-- The sheet that a file holds under a name. -/
def sheet? (d : Directory) (file name : String) : Option Sheet :=
  (d.find (Path.ofText file)).toOption.bind fun found =>
    found.2.workbook?.bind fun w => w.sheet? name

theorem sheet?_rewritten (h : d.Rewritten file old (.workbook w) d') (name : String) :
    d'.sheet? file name = w.sheet? name := by
  obtain ⟨place, hfind⟩ := find_rewritten h
  simp only [sheet?, hfind]
  rfl

/-- In two directories a file holds the same cells and heights on a sheet. -/
def SameSheet (file name : String) (d d' : Directory) : Prop :=
  ∃ s s', d.sheet? file name = some s ∧ d'.sheet? file name = some s' ∧
    (∀ r c, s.cell r c = s'.cell r c) ∧ ∀ r, s.height r = s'.height r

theorem SameSheet.trans {d'' : Directory} {name : String} (h₁ : SameSheet file name d d')
    (h₂ : SameSheet file name d' d'') : SameSheet file name d d'' := by
  obtain ⟨s, t, hs, ht, hcell, hheight⟩ := h₁
  obtain ⟨t', u, ht', hu, hcell', hheight'⟩ := h₂
  cases ht.symm.trans ht'
  exact ⟨s, u, hs, hu, fun r c => (hcell r c).trans (hcell' r c),
    fun r => (hheight r).trans (hheight' r)⟩

/-- Nothing in a file lies beyond the touched cells of its sheet. -/
def Covered (d : Directory) : Prop :=
  d.All Sheet.Covered

end Directory

/-! ### One request after another -/

namespace AddRequest
variable {r whole front back : AddRequest} {d : Directory} {u : Subject} {s e : Sheet}

theorem covered_changed (h : r.changed s = some e) (covered : s.Covered) : e.Covered := by
  obtain ⟨p, _, hedit⟩ := changed_eq_some.mp h
  obtain ⟨o, m, header, hopen, hrows, _, hlast⟩ := edit_eq_ok hedit
  have ho : o.Covered := by
    rcases openTargets_eq_done hopen with rfl | hopened
    · exact covered
    · exact covered.openRows hopened
  exact (ho.run hrows).run hlast

theorem names_stored (w : Workbook) : w.stored.names = w.names := by
  simp [Workbook.stored, Workbook.names]

theorem sheet?_stored (w : Workbook) (name : String) :
    w.stored.sheet? name = (w.sheet? name).map Sheet.stored := by
  simp only [Workbook.stored, Workbook.sheet?, List.find?_map, Option.map_map]
  rfl

theorem sheet?_loaded (w : Workbook) (name : String) :
    w.loaded.sheet? name = (w.sheet? name).map Sheet.loaded := by
  simp only [Workbook.loaded, Workbook.sheet?, List.find?_map, Option.map_map]
  rfl

/-- What holds of all sheets that are saved is not lost by a request. -/
theorem all_run {P : Sheet → Prop} (saved : ∀ s : Sheet, P s.stored) (all : d.All P) :
    (r.run d).2.All P := by
  have ended := ended_run r d
  generalize r.run d = result at ended ⊢
  cases ended with
  | stopped | refused => exact all
  | spoiled _ _ _ _ hrewritten => exact (Directory.All.rewritten_iff all hrewritten).mpr nofun
  | saved _ _ _ hrewritten =>
    refine (Directory.All.rewritten_iff all hrewritten).mpr fun w hw => ?_
    cases hw
    exact Workbook.all_stored_iff.mpr fun x _ => saved x.2

/-- What a request saves lies within the touched cells again. -/
theorem covered_run (covered : d.Covered) : (r.run d).2.Covered :=
  all_run Sheet.covered_stored covered

/-- A request finds a worksheet, makes `e` of it, and the workbook with it can be saved. -/
structure Saves (r : AddRequest) (d : Directory) (u : Subject) (e : Sheet) : Prop where
  subject : r.subject d = .ok u
  changed : r.changed u.sheet = some e
  can : d.CanSave u.file
  sheet : e.Savable
  others : ∀ x ∈ u.workbook.sheets, x.1 ≠ u.sheetName → x.2.Savable

theorem isSuccess_iff_saves : (r.run d).1.isSuccess = true ↔ ∃ u e, r.Saves d u e := by
  rw [isSuccess_iff]
  constructor
  · rintro ⟨t, ht, can, hw⟩
    obtain ⟨hu, hp, he⟩ := draft_eq_ok_iff.mp ht
    obtain ⟨hsheet, hothers⟩ := (Workbook.all_put_iff (found_of_subject hu).sheet).mp
      (Workbook.not_unsavable_iff.mp hw)
    exact ⟨t.subject, t.sheet, hu, changed_eq_some.mpr ⟨t.plan, hp, he⟩, can, hsheet, hothers⟩
  · rintro ⟨u, e, h⟩
    obtain ⟨p, hp, he⟩ := changed_eq_some.mp h.changed
    refine ⟨⟨u, p, e⟩, draft_eq_ok_iff.mpr ⟨h.subject, hp, he⟩, h.can, ?_⟩
    exact Workbook.not_unsavable_iff.mpr
      ((Workbook.all_put_iff (found_of_subject h.subject).sheet).mpr ⟨h.sheet, h.others⟩)

namespace Saves

theorem exists_draft (h : r.Saves d u e) :
    ∃ t, r.draft d = .ok t ∧ t.subject = u ∧ t.sheet = e := by
  obtain ⟨p, hp, he⟩ := changed_eq_some.mp h.changed
  exact ⟨⟨u, p, e⟩, draft_eq_ok_iff.mpr ⟨h.subject, hp, he⟩, rfl, rfl⟩

theorem savable (h : r.Saves d u e) : (u.workbook.put u.sheetName e).All Sheet.Savable :=
  (Workbook.all_put_iff (found_of_subject h.subject).sheet).mpr ⟨h.sheet, h.others⟩

theorem sheet?_put (h : r.Saves d u e) :
    (u.workbook.put u.sheetName e).sheet? u.sheetName = some e := by
  rw [Workbook.sheet?_put, if_pos rfl, (found_of_subject h.subject).sheet]
  rfl

/-- The workbook with the changed sheet is in the file then. -/
theorem rewritten (h : r.Saves d u e) :
    ∃ old,
      d.Rewritten u.file old (.workbook (u.workbook.put u.sheetName e).stored) (r.run d).2 := by
  obtain ⟨t, ht, rfl, rfl⟩ := h.exists_draft
  have hw := Workbook.not_unsavable_iff.mpr h.savable
  have ended := ended_run r d
  generalize r.run d = result at ended ⊢
  cases ended with
  | stopped ht' => cases ht.symm.trans ht'
  | refused ht' hobstructs =>
    cases ht.symm.trans ht'
    exact absurd h.can hobstructs.not_canSave
  | spoiled ht' _ hunsavable =>
    cases ht.symm.trans ht'
    exact absurd hunsavable hw
  | @saved _ old _ ht' _ _ hrewritten =>
    cases ht.symm.trans ht'
    exact ⟨old, hrewritten⟩

/-- The file can be saved to again, or to begin with. -/
theorem canSave_iff (h : r.Saves d u e) {file : String} :
    (r.run d).2.CanSave file ↔ d.CanSave file := by
  obtain ⟨old, hrewritten⟩ := h.rewritten
  exact Directory.canSave_rewritten_iff hrewritten

theorem sheet? (h : r.Saves d u e) :
    (r.run d).2.sheet? u.file u.sheetName = some e.stored := by
  obtain ⟨old, hrewritten⟩ := h.rewritten
  rw [Directory.sheet?_rewritten hrewritten, sheet?_stored, h.sheet?_put]
  rfl

end Saves

/-- What the request saves can be opened and lasts, if it can be saved at all. -/
def Lasting (r : AddRequest) (d : Directory) : Prop :=
  ∀ t, r.draft d = .ok t → ¬ t.workbook.Unsavable → t.workbook.Lasts

theorem lasting_of_draft (h : ((r.draft d).toOption.all fun t => decide t.workbook.Lasts) = true) :
    r.Lasting d := by
  intro t ht _
  rw [ht] at h
  exact of_decide_eq_true h

/-- The worksheet as it is opened again. -/
def Subject.reopened (u : Subject) (e : Sheet) : Subject :=
  ⟨u.file, u.sheetName, (u.workbook.put u.sheetName e).stored.loaded, e.stored.loaded⟩

namespace Saves

theorem lasts (h : r.Saves d u e) (lasting : r.Lasting d) :
    (u.workbook.put u.sheetName e).Lasts := by
  obtain ⟨t, ht, rfl, rfl⟩ := h.exists_draft
  exact lasting t ht (Workbook.not_unsavable_iff.mpr h.savable)

/-- Nothing lies beyond the touched cells of the workbook. -/
theorem covered (h : r.Saves d u e) (covered : d.Covered) :
    (u.workbook.put u.sheetName e).All Sheet.Covered := by
  have found := found_of_subject h.subject
  have hopened : u.workbook.All Sheet.Covered :=
    Directory.All.openForChange covered Sheet.covered_empty (fun _ => Sheet.Covered.loaded)
      found.opened
  exact (Workbook.all_put_iff found.sheet).mpr
    ⟨covered_changed h.changed (hopened.sheet? found.sheet), fun x hx _ => hopened x hx⟩

/-- All sheets of the workbook are alike to what is loaded again. -/
theorem alike (h : r.Saves d u e) (covered : d.Covered) (lasting : r.Lasting d) :
    (u.workbook.put u.sheetName e).All fun s => s.stored.loaded.Alike s :=
  fun x hx => Sheet.alike_reloaded (h.covered covered x hx) (h.savable x hx)
    ((h.lasts lasting).sheets x hx)

/-- The next request for the worksheet finds it, if markup can hold the workbook. -/
theorem subject_of_isMarkup (h : r.Saves d u e)
    (readable : (u.workbook.put u.sheetName e).stored.isMarkup = true) :
    r.subject (r.run d).2 = .ok (u.reopened e) := by
  obtain ⟨hfile, hdata, hname, hopened, _⟩ := subject_eq_ok_iff.mp h.subject
  obtain ⟨old, hrewritten⟩ := h.rewritten
  refine subject_eq_ok_iff.mpr ⟨hfile, hdata, hname, ?_, ?_⟩
  · exact Directory.openForChange_rewritten hopened hrewritten readable
  · show (Workbook.loaded _).sheet? u.sheetName = _
    rw [sheet?_loaded, sheet?_stored, h.sheet?_put]
    rfl

theorem subject_reopened (h : r.Saves d u e) (lasting : r.Lasting d) :
    r.subject (r.run d).2 = .ok (u.reopened e) :=
  h.subject_of_isMarkup (h.lasts lasting).isMarkup

/-- What the next request does to the worksheet that it opens it would have done to the one that
was saved. -/
theorem agree_reopened (h : r.Saves d u e) (covered : d.Covered) (lasting : r.Lasting d)
    (next : AddRequest) : Sheet.Agree (next.changed e.stored.loaded) (next.changed e) :=
  agree_changed ((h.alike covered lasting).sheet? h.sheet?_put)

end Saves

/-- A request does to a worksheet what two requests for it do one after the other. -/
structure Splits (whole front back : AddRequest) : Prop where
  subjectFront : ∀ d, front.subject d = whole.subject d
  subjectBack : ∀ d, back.subject d = whole.subject d
  plainBack : back.Plain
  changed : ∀ s, Sheet.Agree (whole.changed s) ((front.changed s).bind back.changed)

namespace Splits
variable (splits : Splits whole front back) (covered : d.Covered) (lasting : front.Lasting d)
include splits covered lasting

theorem saves_parts (h : whole.Saves d u e) :
    ∃ e₁ e₂, front.Saves d u e₁ ∧ back.Saves (front.run d).2 (u.reopened e₁) e₂ ∧ e.Alike e₂ := by
  obtain ⟨e', he', halike⟩ := (splits.changed u.sheet).of_eq_some h.changed
  obtain ⟨e₁, he₁, hback⟩ := Option.bind_eq_some_iff.mp he'
  have hsavable : e'.Savable := halike.savable h.sheet
  have hfront : front.Saves d u e₁ :=
    ⟨(splits.subjectFront d).trans h.subject, he₁, h.can,
      savable_of_changed splits.plainBack hback hsavable, h.others⟩
  obtain ⟨e₂, he₂, halike₂⟩ :=
    (hfront.agree_reopened covered lasting back).symm.of_eq_some hback
  refine ⟨e₁, e₂, hfront, ⟨?_, he₂, hfront.canSave_iff.mpr h.can,
    halike₂.savable hsavable, ?_⟩, halike.trans halike₂⟩
  · rw [splits.subjectBack, ← splits.subjectFront]
    exact hfront.subject_reopened lasting
  · intro x hx hname
    obtain ⟨y, hy, rfl⟩ := List.mem_map.mp hx
    obtain ⟨z, hz, rfl⟩ := List.mem_map.mp hy
    exact (hfront.alike covered lasting z hz).symm.savable (hfront.savable z hz)

theorem saves_whole {u₁ : Subject} {e₁ e₂ : Sheet} (h₁ : front.Saves d u e₁)
    (h₂ : back.Saves (front.run d).2 u₁ e₂) : ∃ e, whole.Saves d u e := by
  have hsubject : back.subject (front.run d).2 = .ok (u.reopened e₁) := by
    rw [splits.subjectBack, ← splits.subjectFront]
    exact h₁.subject_reopened lasting
  cases hsubject.symm.trans h₂.subject
  obtain ⟨e', he', halike⟩ := (h₁.agree_reopened covered lasting back).of_eq_some h₂.changed
  have hparts : (front.changed u.sheet).bind back.changed = some e' :=
    Option.bind_eq_some_iff.mpr ⟨e₁, h₁.changed, he'⟩
  obtain ⟨e, he, halike'⟩ := (splits.changed u.sheet).symm.of_eq_some hparts
  exact ⟨e, (splits.subjectFront d).symm.trans h₁.subject, he, h₁.can,
    (halike.trans halike').savable h₂.sheet, h₁.others⟩

/-- The request succeeds when both of the others do, and then the file holds the same cells and
heights on the worksheet. -/
theorem run :
    ((whole.run d).1.isSuccess = true ↔
      (front.run d).1.isSuccess = true ∧ (back.run (front.run d).2).1.isSuccess = true) ∧
    ((whole.run d).1.isSuccess = true →
      Directory.SameSheet (Text.trim whole.file) (Text.trim whole.sheet) (whole.run d).2
        (back.run (front.run d).2).2) := by
  simp only [isSuccess_iff_saves]
  refine ⟨⟨?_, ?_⟩, ?_⟩
  · rintro ⟨u, e, h⟩
    obtain ⟨e₁, e₂, h₁, h₂, _⟩ := splits.saves_parts covered lasting h
    exact ⟨⟨u, e₁, h₁⟩, _, e₂, h₂⟩
  · rintro ⟨⟨u, e₁, h₁⟩, u₁, e₂, h₂⟩
    exact ⟨u, splits.saves_whole covered lasting h₁ h₂⟩
  · rintro ⟨u, e, h⟩
    obtain ⟨e₁, e₂, h₁, h₂, halike⟩ := splits.saves_parts covered lasting h
    have found := found_of_subject h.subject
    rw [← found.file, ← found.sheetName]
    exact ⟨_, _, h.sheet?, h₂.sheet?, halike.cell_stored, halike.height⟩

end Splits

end AddRequest

end SheetActions
