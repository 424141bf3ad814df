import SheetActions.Proofs.OverwritingAgain
import SheetActions.Proofs.Reports

/-! Overwriting different rows.

Two requests overwrite rows that they name, of one worksheet and without a header, and no row is
named by both. The order in which they run does not matter: where the data of either of them goes,
whether it can be written and whether the workbook can then be saved does not depend on what the
other one left (`Meets`), and the cells of both are different (`stored_of_both`). There is one
exception: a request that spoils its file takes the worksheet from the other one, which finds it
only if it runs first (`commutes_iff`). -/
namespace SheetActions

/-! ### Tokens for different cells -/

namespace Sheet
variable {s t e₁ e₂ f₁ f₂ : Sheet} {l l₁ l₂ : List Target}

theorem fault_writeToken (s t : Sheet) (a : Target) :
    (writeToken true s a).fault = (writeToken true t a).fault := by
  simp only [writeToken, Bool.not_true, Bool.false_and, Bool.false_eq_true, if_false]
  cases coerce a.token with
  | error f => rfl
  | ok v =>
    simp only [enter, Option.map_some]
    split
    · rfl
    · cases content v <;> rfl

/-- Whether and why tokens cannot be written over what is on a sheet does not depend on it. -/
theorem fault_run (s t : Sheet) (l : List Target) :
    (Progress.run (writeToken true) s l).fault = (Progress.run (writeToken true) t l).fault := by
  induction l generalizing s t with
  | nil => rfl
  | cons a l ih =>
    have hfault := fault_writeToken s t a
    simp only [Progress.run_cons, Progress.andThen]
    cases hf : (writeToken true t a).fault with
    | none =>
      rw [hf] at hfault
      rw [hfault]
      exact ih _ _
    | some f =>
      rw [hf] at hfault
      rw [hfault]
      exact hfault.trans hf.symm

theorem toExcept_run_eq_error_iff {f : Fault} (s t : Sheet) :
    (Progress.run (writeToken true) s l).toExcept = .error f ↔
      (Progress.run (writeToken true) t l).toExcept = .error f := by
  simp only [Progress.toExcept_eq_error, fault_run s t l]

/-- Of two requests that write to different cells, the first one finds the sheet as the second one
left it, or the other way round. Its own cells are saved alike. -/
theorem stored_cell_of_both (distinct : (l₁.map Target.place).Nodup)
    (apart : ∀ a ∈ l₁, ∀ b ∈ l₂, a.place ≠ b.place)
    (h₁ : Progress.run (writeToken true) s l₁ = .done e₁)
    (h₁₂ : Progress.run (writeToken true) e₁.stored.loaded l₂ = .done f₂)
    (h₂₁ : Progress.run (writeToken true) t l₁ = .done f₁)
    (alike : e₁.stored.loaded.Alike e₁) {a : Target} (ha : a ∈ l₁) :
    f₁.stored.cell a.row a.column = f₂.stored.cell a.row a.column := by
  have haway : ∀ b ∈ l₂, b.place ≠ (a.row, a.column) := fun b hb => (apart a ha b hb).symm
  calc f₁.stored.cell a.row a.column
    _ = e₁.stored.cell a.row a.column := by
      rw [cell_stored, cell_stored, cell_of_runs distinct h₁ h₂₁ ha]
    _ = e₁.stored.loaded.stored.cell a.row a.column := (alike.cell_stored ..).symm
    _ = f₂.stored.cell a.row a.column := by
      rw [cell_stored, cell_stored f₂, cell_of_run h₁₂ haway]

/-- Two requests write to different cells. Whichever is first, the same is saved in the end, as far
as saving keeps what the first one wrote. -/
theorem stored_of_both (distinct₁ : (l₁.map Target.place).Nodup)
    (distinct₂ : (l₂.map Target.place).Nodup)
    (apart : ∀ a ∈ l₁, ∀ b ∈ l₂, a.place ≠ b.place)
    (h₁ : Progress.run (writeToken true) s l₁ = .done e₁)
    (h₂ : Progress.run (writeToken true) s l₂ = .done e₂)
    (h₁₂ : Progress.run (writeToken true) e₁.stored.loaded l₂ = .done f₂)
    (h₂₁ : Progress.run (writeToken true) e₂.stored.loaded l₁ = .done f₁)
    (alike₁ : e₁.stored.loaded.Alike e₁) (alike₂ : e₂.stored.loaded.Alike e₂) :
    f₁.stored = f₂.stored := by
  have hstyle : ∀ {e f : Sheet} {l m : List Target},
      Progress.run (writeToken true) s l = .done e →
      Progress.run (writeToken true) e.stored.loaded m = .done f →
      ∀ r c, f.style r c = s.style r c :=
    fun he hf r c => (style_of_run hf r c).trans (style_of_run he r c)
  have hheight : ∀ {e f : Sheet} {l m : List Target},
      Progress.run (writeToken true) s l = .done e →
      Progress.run (writeToken true) e.stored.loaded m = .done f →
      ∀ r, f.height r = s.height r :=
    fun he hf r => (height_of_run hf r).trans (height_of_run he r)
  refine stored_congr (fun r c => ?_) (fun r c => ?_) fun r => ?_
  · by_cases hfirst : ∃ a ∈ l₁, a.place = (r, c)
    · obtain ⟨a, ha, hplace⟩ := hfirst
      cases hplace
      exact stored_cell_of_both distinct₁ apart h₁ h₁₂ h₂₁ alike₁ ha
    by_cases hsecond : ∃ b ∈ l₂, b.place = (r, c)
    · obtain ⟨b, hb, hplace⟩ := hsecond
      cases hplace
      exact (stored_cell_of_both distinct₂ (fun b hb a ha => (apart a ha b hb).symm) h₂ h₂₁ h₁₂
        alike₂ hb).symm
    -- neither request writes to the cell, which is saved twice either way
    have haway₁ : ∀ a ∈ l₁, a.place ≠ (r, c) := fun a ha hplace => hfirst ⟨a, ha, hplace⟩
    have haway₂ : ∀ b ∈ l₂, b.place ≠ (r, c) := fun b hb hplace => hsecond ⟨b, hb, hplace⟩
    have hstyles : e₁.style r c = e₂.style r c :=
      (style_of_run h₁ r c).trans (style_of_run h₂ r c).symm
    rw [cell_stored, cell_stored f₂, cell_of_run h₂₁ haway₁, cell_of_run h₁₂ haway₂, cell_loaded,
      cell_loaded, cell_stored, cell_stored, cell_of_run h₁ haway₁, cell_of_run h₂ haway₂]
    show (Option.map (Value.loaded (e₂.style r c)) _).bind _ =
      (Option.map (Value.loaded (e₁.style r c)) _).bind _
    rw [hstyles]
  · rw [hstyle h₂ h₂₁, hstyle h₁ h₁₂]
  · rw [hheight h₂ h₂₁, hheight h₁ h₁₂]

end Sheet

/-- What is saved of a workbook in the end depends on what is saved of the sheet that was put into
it twice, but not on what that was in between. -/
theorem Workbook.stored_put_reloaded {w : Workbook} {name : String} {e₁ e₂ f₁ f₂ : Sheet}
    (h : f₁.stored = f₂.stored) : ((w.put name e₂).stored.loaded.put name f₁).stored =
      ((w.put name e₁).stored.loaded.put name f₂).stored := by
  simp only [put, stored, loaded, List.map_map]
  congr 1
  refine List.map_congr_left fun x _ => ?_
  simp only [Function.comp]
  by_cases hname : x.1 = name
  · simp only [if_pos hname, if_true, h]
  · simp only [if_neg hname]

/-! ### One file by different names -/

namespace Directory
variable {d d' : Directory} {file other : String} {old new : Content} {w : Workbook}

theorem Rewritten.of_resolve (h : d.Rewritten file old new d')
    (same : d.resolve (Path.ofText other) = d.resolve (Path.ofText file)) :
    d.Rewritten other old new d' := by
  obtain ⟨place, hplace, hrest⟩ := h.exists_place
  exact ⟨⟨place, same.trans hplace, hrest⟩, h.isReadOnly⟩

theorem changeable_of_isBareSuffix {q : Path} (hq : q.isBareSuffix = true) (node : Node) :
    changeable q node = .error noFormatReason :=
  if_pos hq

/-- What was rewritten twice was rewritten. -/
theorem Rewritten.trans {d'' : Directory} {mid mid' : Content} (h : d.Rewritten file old mid d')
    (h' : d'.Rewritten other mid' new d'')
    (same : d.resolve (Path.ofText other) = d.resolve (Path.ofText file)) :
    d.Rewritten file old new d'' := by
  obtain ⟨place, hplace, hold, _, hothers⟩ := h.exists_place
  obtain ⟨place', hplace', _, hnew, hothers'⟩ := h'.exists_place
  rw [resolve_rewritten h, same] at hplace'
  cases hplace.symm.trans hplace'
  exact ⟨⟨place, hplace, hold, hnew,
    fun other hother => (hothers' other hother).trans (hothers other hother)⟩,
    fun place => (h'.isReadOnly place).trans (h.isReadOnly place)⟩

/-- Directories in which a file was rewritten alike are alike. -/
theorem Rewritten.sameAt {d₁ d₂ : Directory} {old' : Content} (h₁ : d.Rewritten file old new d₁)
    (h₂ : d.Rewritten other old' new d₂)
    (same : d.resolve (Path.ofText other) = d.resolve (Path.ofText file)) (place : Place) :
    SameAt d₂ d₁ place := by
  obtain ⟨place₁, hplace₁, _, hnew₁, hothers₁⟩ := h₁.exists_place
  obtain ⟨place₂, hplace₂, _, hnew₂, hothers₂⟩ := h₂.exists_place
  cases hplace₁.symm.trans (same.symm.trans hplace₂)
  refine ⟨?_, (h₁.isReadOnly place).trans (h₂.isReadOnly place).symm⟩
  by_cases hplace : place = place₁
  · rw [hplace, hnew₁, hnew₂]
  · rw [hothers₁ place hplace, hothers₂ place hplace]

/-- A file is opened as the same workbook by any name that has more than a suffix. -/
theorem changeable_of_not_isBareSuffix {p q : Path} (hw : changeable p (.file old) = .ok w)
    (hq : q.isBareSuffix = false) : changeable q (.file old) = .ok w := by
  simp only [changeable] at hw ⊢
  split at hw
  · cases hw
  · rw [if_neg (by rw [hq]; exact Bool.false_ne_true)]
    exact hw

theorem changeable_unique {p q : Path} {v : Workbook} (hw : changeable p (.file old) = .ok w)
    (hv : changeable q (.file old) = .ok v) : v = w := by
  cases hq : q.isBareSuffix with
  | true => cases (changeable_of_isBareSuffix hq _).symm.trans hv
  | false => exact Except.ok.inj (hv.symm.trans (changeable_of_not_isBareSuffix hw hq))

theorem openForChange_unique {v : Workbook}
    (same : d.resolve (Path.ofText other) = d.resolve (Path.ofText file))
    (hw : d.openForChange file = .ok w) (hv : d.openForChange other = .ok v) : v = w := by
  obtain ⟨place, old, hplace, hold, hw⟩ := content_of_openForChange hw
  obtain ⟨place', old', hplace', hold', hv⟩ := content_of_openForChange hv
  cases (same.trans hplace).symm.trans hplace'
  cases hold.symm.trans hold'
  exact changeable_unique hw hv

theorem accept_of_not_contains {formats : List String}
    (hformat : formats.contains (Path.ofText file).suffixClass = false) (d : Directory) :
    d.accept formats file = .error (.refusal (.invalidFormat file formats none)) := by
  simp only [accept, hformat]
  rfl

/-- A name by which a file cannot be opened although it holds a workbook is at fault itself: the
file cannot be opened by it whatever it holds. -/
theorem openForChange_eq_error {f : Fault} {p : Path} (h : d.Rewritten file old new d')
    (hw : changeable p (.file old) = .ok w) (hf : d.openForChange file = .error f) :
    d'.openForChange file = .error f := by
  obtain ⟨place, hplace, hold, _⟩ := h.exists_place
  have hfind : d.find (Path.ofText file) = .ok (place, .file old) :=
    bind_eq_ok.mpr ⟨place, hplace, by rw [hold]; rfl⟩
  obtain ⟨place', hfind'⟩ := find_rewritten h
  cases hformat : changeFormats.contains (Path.ofText file).suffixClass with
  | false =>
    have hrefused := accept_of_not_contains hformat
    rw [openForChange, hrefused] at hf ⊢
    exact hf
  | true =>
    rcases bind_eq_error.mp hf with hf | ⟨node, hnode, hf⟩
    · cases (accept_of_find hformat hfind).symm.trans hf
    cases (accept_of_find hformat hfind).symm.trans hnode
    refine bind_eq_error.mpr (.inr ⟨_, accept_of_find hformat hfind', ?_⟩)
    cases hq : (Path.ofText file).isBareSuffix with
    | true =>
      rw [changeable_of_isBareSuffix hq] at hf ⊢
      exact hf
    | false =>
      rw [changeable_of_not_isBareSuffix hw hq] at hf
      cases hf

/-- A workbook is not read from an archive that is left in its place. -/
theorem failsAs_of_archive (hopened : d.openForChange file = .ok w)
    (h : d.Rewritten file old .archive d') :
    FailsAs (d'.openForChange file) (some .readFailure) := by
  obtain ⟨node, hnode, _⟩ := bind_eq_ok.mp hopened
  obtain ⟨_, _, _, _, hw⟩ := content_of_openForChange hopened
  obtain ⟨place, hfind⟩ := find_rewritten h
  refine failsAs_bind_iff.mpr
    (.inr ⟨_, accept_of_find (contains_of_accept hnode) hfind, ?_⟩)
  cases hq : (Path.ofText file).isBareSuffix with
  | true => cases (changeable_of_isBareSuffix hq _).symm.trans hw
  | false =>
    rw [changeable, if_neg (by rw [hq]; exact Bool.false_ne_true)]
    exact ⟨_, rfl, rfl⟩

end Directory

/-! ### Requests to overwrite rows -/

namespace AddRequest
variable {r r₁ r₂ : AddRequest} {d d' : Directory} {u u₁ u₂ : Subject} {p : Plan}
  {s t e f e₁ e₂ : Sheet}

/-- A request that overwrites rows that it names, without a header. -/
structure OverwritesRows (r : AddRequest) : Prop where
  overwriting : r.overwrite = true
  noHeader : r.hasHeader = false
  named : Text.isBlankText r.rows = false

namespace OverwritesRows
variable (overwrites : r.OverwritesRows)
include overwrites

theorem plan_eq (s t : Sheet) : r.plan s = r.plan t :=
  plan_congr_of_named overwrites.overwriting overwrites.named fun hheader => by
    cases hheader.symm.trans overwrites.noHeader

theorem headerTokens_eq : r.headerTokens = .ok [] := by
  rw [headerTokens, overwrites.noHeader]
  rfl

theorem edit_eq (placed : r.Placed s p) : r.edit p s =
    (Progress.run (Sheet.writeToken true) s (allTargets p [])).toExcept.mapError
      (Stage.writing, ·) := by
  have hopen : r.openTargets p s = .done s := by
    simp only [openTargets, overwrites.overwriting, if_true]
    rfl
  rw [edit, hopen]
  show (r.write p s).mapError _ = _
  rw [write_eq placed hopen overwrites.headerTokens_eq]

/-- Why a sheet cannot be changed does not depend on it. -/
theorem change_eq_error {x : Stage × Fault} (h : r.change s = .error x) (t : Sheet) :
    r.change t = .error x := by
  rw [change, overwrites.plan_eq t s]
  rcases bind_eq_error.mp h with h | ⟨p, hp, h⟩
  · exact bind_eq_error.mpr (.inl h)
  · refine bind_eq_error.mpr (.inr ⟨p, hp, ?_⟩)
    rw [mapError_eq_ok] at hp
    have placed := placed_of_plan hp
    have placed' : r.Placed t p := placed_of_plan ((overwrites.plan_eq t s).trans hp)
    rcases bind_eq_error.mp h with h | ⟨_, _, h⟩
    · refine bind_eq_error.mpr (.inl ?_)
      rw [overwrites.edit_eq placed] at h
      rw [overwrites.edit_eq placed']
      cases hrun : (Progress.run (Sheet.writeToken true) s (allTargets p [])).toExcept with
      | ok e =>
        rw [hrun] at h
        cases h
      | error f =>
        rw [hrun] at h
        rw [(Sheet.toExcept_run_eq_error_iff s t).mp hrun]
        exact h
    · cases h

theorem edit_eq_ok_iff (placed : r.Placed s p) : r.edit p s = .ok e ↔
    Progress.run (Sheet.writeToken true) s (allTargets p []) = .done e :=
  edit_eq_ok_iff_of_overwrite overwrites.overwriting placed overwrites.headerTokens_eq

/-- A sheet that can be changed is changed by writing the tokens, and so is any other. -/
theorem exists_edit (hp : r.plan s = .ok p) (he : r.edit p s = .ok e) (t : Sheet) :
    r.plan t = .ok p ∧ ∃ f, r.edit p t = .ok f := by
  have hp' := (overwrites.plan_eq t s).trans hp
  obtain ⟨f, hf⟩ :=
    Sheet.exists_run_of_run ((overwrites.edit_eq_ok_iff (placed_of_plan hp)).mp he) t
  exact ⟨hp', f, (overwrites.edit_eq_ok_iff (placed_of_plan hp')).mpr hf⟩

theorem run_of_changed (hp : r.plan t = .ok p) (h : r.changed s = some e) :
    Progress.run (Sheet.writeToken true) s (allTargets p []) = .done e := by
  obtain ⟨p', hp', he⟩ := changed_eq_some.mp h
  cases (overwrites.plan_eq s t).symm.trans hp' |>.symm.trans hp
  exact (overwrites.edit_eq_ok_iff (placed_of_plan hp')).mp he

/-- All rows that are written to are named. -/
theorem row_mem (placed : r.Placed s p) {a : Sheet.Target} (ha : a ∈ allTargets p []) :
    ∃ rows, IndexSpec.parse r.rows maxRowIndex = .ok rows ∧ a.row ∈ rows := by
  obtain ⟨i, j, row, _, _, hrow, _⟩ : ∃ i j row, p.data.rows[i]? = some row ∧
      row[j]? = some a.token ∧ p.rows.toList[i]? = some a.row ∧ _ := by
    rcases List.mem_append.mp ha with ha | ha
    · exact Sheet.mem_targets.mp ha
    · cases ha
  have hrows := placed.rows
  cases hspec : IndexSpec.parse r.rows maxRowIndex with
  | error fault =>
    simp only [Placement.resolveRows, IndexSpec.parseOptional_some, hspec] at hrows
    cases hrows
  | ok rows =>
    obtain ⟨_, hmax⟩ := IndexSpec.exists_max_of_parse overwrites.named hspec
    rw [Placement.resolveRows_of_parse hspec hmax, overwrites.noHeader] at hrows
    cases hrows
    exact ⟨_, rfl, List.mem_of_getElem? hrow⟩

end OverwritesRows

theorem outcome_of_draft {t : Draft} (ht : r.draft d = .ok t)
    (can : d.CanSave t.subject.file) (hw : ¬ t.workbook.Unsavable) :
    (r.run d).1 = t.outcome := by
  have ended := ended_run r d
  generalize r.run d = result at ended ⊢
  cases ended with
  | stopped ht' => cases ht.symm.trans ht'
  | refused ht' hobstructs =>
    cases ht.symm.trans ht'
    exact absurd can hobstructs.not_canSave
  | spoiled ht' _ hw' =>
    cases ht.symm.trans ht'
    exact absurd hw' hw
  | saved ht' =>
    cases ht.symm.trans ht'
    rfl

/-! ### Finding the worksheet after another request -/

/-- A request that does not find its worksheet, although its file holds it, does not find it
whatever the file holds. -/
theorem subject_eq_error {p : Path} {old new : Content} {w : Workbook} {fault : Fault}
    (h : d.Rewritten (Text.trim r.file) old new d')
    (hw : Directory.changeable p (.file old) = .ok w) (hs : w.sheet? (Text.trim r.sheet) = some s)
    (hf : r.subject d = .error fault) : r.subject d' = .error fault := by
  rcases bind_eq_error.mp hf with hf | ⟨file, hfile, hf⟩
  · exact bind_eq_error.mpr (.inl hf)
  refine bind_eq_error.mpr (.inr ⟨file, hfile, ?_⟩)
  obtain rfl := eq_trim_of_required hfile
  by_cases hdata : Text.isBlankText r.data = true
  · simp only [if_pos hdata] at hf ⊢
    rcases bind_eq_error.mp hf with hf | ⟨_, hthrow, _⟩
    · exact bind_eq_error.mpr (.inl hf)
    · cases hthrow
  simp only [if_neg hdata] at hf ⊢
  rcases bind_eq_error.mp hf with hf | ⟨name, hname, hf⟩
  · exact bind_eq_error.mpr (.inl hf)
  refine bind_eq_error.mpr (.inr ⟨name, hname, ?_⟩)
  obtain rfl := eq_trim_of_required hname
  rcases bind_eq_error.mp hf with hf | ⟨v, hv, hf⟩
  · exact bind_eq_error.mpr (.inl (Directory.openForChange_eq_error h hw hf))
  -- the workbook is that of the file, in which the worksheet is
  obtain ⟨place, old', hplace, hold', hv⟩ := Directory.content_of_openForChange hv
  obtain ⟨place', hplace', hold, _⟩ := h.exists_place
  cases hplace.symm.trans hplace'
  cases hold.symm.trans hold'
  obtain rfl := Directory.changeable_unique hw hv
  rw [Workbook.sheet, hs] at hf
  rcases bind_eq_error.mp hf with hf | ⟨_, _, hf⟩
  · cases hf
  · cases hf

/-- Two requests overwrite different rows of one worksheet, whatever they call its file. -/
structure Apart (r₁ r₂ : AddRequest) (d : Directory) : Prop where
  first : r₁.OverwritesRows
  second : r₂.OverwritesRows
  file : d.resolve (Path.ofText (Text.trim r₁.file)) = d.resolve (Path.ofText (Text.trim r₂.file))
  sheet : Text.trim r₁.sheet = Text.trim r₂.sheet
  rows : ∀ rows₁ rows₂, IndexSpec.parse r₁.rows maxRowIndex = .ok rows₁ →
    IndexSpec.parse r₂.rows maxRowIndex = .ok rows₂ → ∀ i ∈ rows₁, i ∉ rows₂

namespace Apart

theorem symm (apart : Apart r₁ r₂ d) : Apart r₂ r₁ d where
  first := apart.second
  second := apart.first
  file := apart.file.symm
  sheet := apart.sheet.symm
  rows := fun rows₁ rows₂ h₁ h₂ i hi hi' => apart.rows rows₂ rows₁ h₂ h₁ i hi' hi

/-- The tokens of the requests go to different cells. -/
theorem place_ne {p₁ p₂ : Plan} (apart : Apart r₁ r₂ d) (placed₁ : r₁.Placed s p₁)
    (placed₂ : r₂.Placed t p₂) : ∀ a ∈ allTargets p₁ [], ∀ b ∈ allTargets p₂ [],
      a.place ≠ b.place := by
  intro a ha b hb hplace
  obtain ⟨rows₁, h₁, hrow₁⟩ := apart.first.row_mem placed₁ ha
  obtain ⟨rows₂, h₂, hrow₂⟩ := apart.second.row_mem placed₂ hb
  have hsame : a.row = b.row := (Prod.mk.inj hplace).1
  exact apart.rows rows₁ rows₂ h₁ h₂ a.row hrow₁ (hsame ▸ hrow₂)

section Subject
variable (apart : Apart r₁ r₂ d) (h₂ : r₂.subject d = .ok u₂)
include apart h₂

/-- A request that finds its worksheet finds the one that the other request finds. -/
theorem same_subject (h₁ : r₁.subject d = .ok u₁) :
    u₁.workbook = u₂.workbook ∧ u₁.sheetName = u₂.sheetName ∧ u₁.sheet = u₂.sheet := by
  have found₁ := found_of_subject h₁
  have found₂ := found_of_subject h₂
  have hname : u₁.sheetName = u₂.sheetName :=
    found₁.sheetName.trans (apart.sheet.trans found₂.sheetName.symm)
  have hworkbook : u₁.workbook = u₂.workbook := by
    refine Directory.openForChange_unique ?_ found₂.opened found₁.opened
    rw [found₁.file, found₂.file]
    exact apart.file
  refine ⟨hworkbook, hname, ?_⟩
  have hsheet := found₁.sheet
  rw [hworkbook, hname, found₂.sheet] at hsheet
  exact (Option.some.inj hsheet).symm

/-- A request that does not find the worksheet that the other one finds does not find it once the
file is rewritten. -/
theorem subject_eq_error_after {old new : Content} {fault : Fault}
    (h : d.Rewritten (Text.trim r₂.file) old new d') (hf : r₁.subject d = .error fault) :
    r₁.subject d' = .error fault := by
  have found₂ := found_of_subject h₂
  obtain ⟨place, old', hplace, hold', hw⟩ := Directory.content_of_openForChange found₂.opened
  obtain ⟨place', hplace', hold, _⟩ := h.exists_place
  rw [found₂.file] at hplace
  cases hplace.symm.trans hplace'
  cases hold.symm.trans hold'
  have hsheet : u₂.workbook.sheet? (Text.trim r₁.sheet) = some u₂.sheet := by
    rw [apart.sheet, ← found₂.sheetName]
    exact found₂.sheet
  exact subject_eq_error (h.of_resolve apart.file) hw hsheet hf

end Subject

/-! ### After the other request has saved -/

section Saved
variable (apart : Apart r₁ r₂ d) (h₂ : r₂.Saves d u₂ e₂) (lasting₂ : r₂.Lasting d)
include apart h₂ lasting₂

theorem subject_after (h₁ : r₁.subject d = .ok u₁) :
    r₁.subject (r₂.run d).2 = .ok (u₁.reopened e₂) := by
  obtain ⟨hworkbook, hname, _⟩ := apart.same_subject h₂.subject h₁
  obtain ⟨hfile, hdata, hsheetName, hopened, _⟩ := subject_eq_ok_iff.mp h₁
  have found₁ := found_of_subject h₁
  have found₂ := found_of_subject h₂.subject
  obtain ⟨old, hrewritten⟩ := h₂.rewritten
  have hplace : d.resolve (Path.ofText u₁.file) = d.resolve (Path.ofText u₂.file) := by
    rw [found₁.file, found₂.file]
    exact apart.file
  have hreopened := Directory.openForChange_rewritten hopened (hrewritten.of_resolve hplace)
    (h₂.lasts lasting₂).isMarkup
  refine subject_eq_ok_iff.mpr ⟨hfile, hdata, hsheetName, ?_, ?_⟩
  · show Directory.openForChange _ u₁.file = .ok (Workbook.loaded _)
    rw [hworkbook, hname]
    exact hreopened
  · show (Workbook.loaded _).sheet? u₁.sheetName = _
    rw [sheet?_loaded, sheet?_stored, hworkbook, hname, h₂.sheet?_put]
    rfl

/-- What stops a request before it can save stops it then. -/
theorem draft_eq_error_after {x : Stage × Fault} (hx : r₁.draft d = .error x) :
    r₁.draft (r₂.run d).2 = .error x := by
  rcases draft_eq_error_iff.mp hx with ⟨fault, hsubject, hstage⟩ | ⟨u₁, hsubject, hchange⟩
  · obtain ⟨old, hrewritten⟩ := h₂.rewritten
    rw [(found_of_subject h₂.subject).file] at hrewritten
    exact draft_eq_error_iff.mpr
      (.inl ⟨fault, apart.subject_eq_error_after h₂.subject hrewritten hsubject, hstage⟩)
  · exact draft_eq_error_iff.mpr (.inr ⟨_, apart.subject_after h₂ lasting₂ hsubject,
      apart.first.change_eq_error hchange _⟩)

/-- A request that can save can do so then, to the same rows and columns. -/
theorem draft_after {t : Draft} (ht : r₁.draft d = .ok t) :
    ∃ f, r₁.draft (r₂.run d).2 = .ok ⟨t.subject.reopened e₂, t.plan, f⟩ := by
  obtain ⟨hu, hp, he⟩ := draft_eq_ok_iff.mp ht
  obtain ⟨hp', f, hf⟩ := apart.first.exists_edit hp he e₂.stored.loaded
  exact ⟨f, draft_eq_ok_iff.mpr ⟨apart.subject_after h₂ lasting₂ hu, hp', hf⟩⟩

omit lasting₂ in
/-- And what it makes of the worksheet can be saved. -/
theorem savable_after (covered : d.Covered) {t t' : Draft} (ht : r₁.draft d = .ok t)
    (hw : ¬ t.workbook.Unsavable) (ht' : r₁.draft (r₂.run d).2 = .ok t')
    (hsubject : t'.subject = t.subject.reopened e₂) : ¬ t'.workbook.Unsavable := by
  obtain ⟨hu, hp, he⟩ := draft_eq_ok_iff.mp ht
  obtain ⟨hu', hp', he'⟩ := draft_eq_ok_iff.mp ht'
  obtain ⟨hworkbook, hname, _⟩ := apart.same_subject h₂.subject hu
  have hcovered := h₂.covered covered
  have hfirst := apart.first
  have hplan : t'.plan = t.plan :=
    Except.ok.inj (hp'.symm.trans ((hfirst.plan_eq _ _).trans hp))
  rw [hplan] at he' hp'
  have placed := placed_of_plan hp
  obtain ⟨hsheet, _⟩ := (Workbook.all_put_iff (found_of_subject hu).sheet).mp
    (Workbook.not_unsavable_iff.mp hw)
  have hbefore : t'.subject.sheet.Savable := by
    rw [hsubject]
    exact h₂.sheet.reloaded (hcovered.sheet? h₂.sheet?_put)
  refine Workbook.not_unsavable_iff.mpr
    ((Workbook.all_put_iff (found_of_subject hu').sheet).mpr ⟨?_, fun x hx _ => ?_⟩)
  · exact Sheet.savable_of_written (nodup_allTargets placed hfirst.headerTokens_eq)
      ((hfirst.edit_eq_ok_iff placed).mp he)
      ((hfirst.edit_eq_ok_iff (placed_of_plan hp')).mp he') hsheet hbefore
  · -- the other worksheets were saved by the other request already
    rw [hsubject] at hx
    change x ∈ (t.subject.workbook.put t.subject.sheetName e₂).stored.loaded.sheets at hx
    rw [hworkbook, hname] at hx
    obtain ⟨y, hy, rfl⟩ := List.mem_map.mp hx
    obtain ⟨z, hz, rfl⟩ := List.mem_map.mp hy
    exact (h₂.savable z hz).reloaded (hcovered z hz)

/-- After the other request a request that does not spoil its file comes to the same outcome as
before. It saves or it leaves everything as it is. -/
theorem run_after (covered : d.Covered) (whole : ¬ r₁.SpoilsFile d) :
    (r₁.run (r₂.run d).2).1 = (r₁.run d).1 ∧
      ((r₁.run d).1.isSuccess = false → (r₁.run (r₂.run d).2).2 = (r₂.run d).2) := by
  cases ht : r₁.draft d with
  | error x =>
    have hbefore := run_of_draft_error ht
    have hafter := run_of_draft_error (apart.draft_eq_error_after h₂ lasting₂ ht)
    exact ⟨by rw [hbefore, hafter], fun _ => by rw [hafter]⟩
  | ok t =>
    obtain ⟨f, ht'⟩ := apart.draft_after h₂ lasting₂ ht
    by_cases can : d.CanSave t.subject.file
    · have hw : ¬ t.workbook.Unsavable := fun hw => whole ⟨t, ht, can, hw⟩
      have hw' := apart.savable_after h₂ covered ht hw ht' rfl
      refine ⟨?_, fun hfailed => ?_⟩
      · rw [outcome_of_draft ht can hw, outcome_of_draft ht' (h₂.canSave_iff.mpr can) hw']
        rfl
      · rw [outcome_of_draft ht can hw] at hfailed
        cases hfailed
    · obtain ⟨fault, hobstructs⟩ := Directory.exists_obstructs can
      obtain ⟨old, hrewritten⟩ := h₂.rewritten
      have hbefore := run_of_obstructs ht hobstructs
      have hafter := run_of_obstructs ht' (hobstructs.rewritten hrewritten)
      exact ⟨by rw [hbefore, hafter], fun _ => by rw [hafter]⟩

theorem saves_after (covered : d.Covered) (h₁ : r₁.Saves d u₁ e₁) :
    ∃ f, r₁.Saves (r₂.run d).2 (u₁.reopened e₂) f := by
  obtain ⟨t, ht, rfl, rfl⟩ := h₁.exists_draft
  obtain ⟨f, ht'⟩ := apart.draft_after h₂ lasting₂ ht
  have hw := apart.savable_after h₂ covered ht (Workbook.not_unsavable_iff.mpr h₁.savable) ht' rfl
  obtain ⟨hu, hp, he⟩ := draft_eq_ok_iff.mp ht'
  obtain ⟨hsheet, hothers⟩ := (Workbook.all_put_iff (found_of_subject hu).sheet).mp
    (Workbook.not_unsavable_iff.mp hw)
  exact ⟨f, hu, changed_eq_some.mpr ⟨t.plan, hp, he⟩, h₂.canSave_iff.mpr h₁.can, hsheet, hothers⟩

end Saved

/-! ### Both orders -/

/-- Two requests that both can save leave the same, whichever is first. -/
theorem sameAt_of_both (apart : Apart r₁ r₂ d) (covered : d.Covered) (lasting₁ : r₁.Lasting d)
    (lasting₂ : r₂.Lasting d) (h₁ : r₁.Saves d u₁ e₁) (h₂ : r₂.Saves d u₂ e₂) (place : Place) :
    Directory.SameAt (r₁.run (r₂.run d).2).2 (r₂.run (r₁.run d).2).2 place := by
  obtain ⟨f₁, hagain₁⟩ := apart.saves_after h₂ lasting₂ covered h₁
  obtain ⟨f₂, hagain₂⟩ := apart.symm.saves_after h₁ lasting₁ covered h₂
  obtain ⟨hworkbook, hname, hsheet⟩ := apart.same_subject h₂.subject h₁.subject
  have found₁ := found_of_subject h₁.subject
  have found₂ := found_of_subject h₂.subject
  -- the sheet comes out the same
  obtain ⟨p₁, hp₁, _⟩ := changed_eq_some.mp h₁.changed
  obtain ⟨p₂, hp₂, _⟩ := changed_eq_some.mp h₂.changed
  have placed₁ := placed_of_plan hp₁
  have placed₂ := placed_of_plan hp₂
  have hrun₂ := apart.second.run_of_changed hp₂ h₂.changed
  rw [← hsheet] at hrun₂
  have hstored : f₁.stored = f₂.stored := Sheet.stored_of_both
    (nodup_allTargets placed₁ apart.first.headerTokens_eq)
    (nodup_allTargets placed₂ apart.second.headerTokens_eq)
    (apart.place_ne placed₁ placed₂)
    (apart.first.run_of_changed hp₁ h₁.changed) hrun₂
    (apart.second.run_of_changed hp₂ hagain₂.changed)
    (apart.first.run_of_changed hp₁ hagain₁.changed)
    ((h₁.alike covered lasting₁).sheet? h₁.sheet?_put)
    ((h₂.alike covered lasting₂).sheet? h₂.sheet?_put)
  -- and with it the workbook, which is all that changes
  have hfiles : d.resolve (Path.ofText u₁.file) = d.resolve (Path.ofText u₂.file) := by
    rw [found₁.file, found₂.file]
    exact apart.file
  obtain ⟨_, hrewritten₁⟩ := h₁.rewritten
  obtain ⟨_, hrewritten₂⟩ := h₂.rewritten
  obtain ⟨_, hrewritten₁₂⟩ := hagain₂.rewritten
  obtain ⟨_, hrewritten₂₁⟩ := hagain₁.rewritten
  have hfirst := hrewritten₁.trans hrewritten₁₂ hfiles.symm
  have hsecond := hrewritten₂.trans hrewritten₂₁ hfiles
  have hnew : ((u₁.reopened e₂).workbook.put (u₁.reopened e₂).sheetName f₁).stored =
      ((u₂.reopened e₁).workbook.put (u₂.reopened e₁).sheetName f₂).stored := by
    simp only [Subject.reopened, hworkbook, hname]
    exact Workbook.stored_put_reloaded hstored
  rw [hnew] at hsecond
  exact hfirst.sameAt hsecond hfiles.symm place

end Apart

/-- The order of two requests does not matter: each of them has the same outcome whichever is
first, and all files are the same afterwards. -/
structure Commutes (r₁ r₂ : AddRequest) (d : Directory) : Prop where
  first : (r₁.run (r₂.run d).2).1 = (r₁.run d).1
  second : (r₂.run (r₁.run d).2).1 = (r₂.run d).1
  files : ∀ place, Directory.SameAt (r₁.run (r₂.run d).2).2 (r₂.run (r₁.run d).2).2 place

theorem Commutes.symm (h : Commutes r₁ r₂ d) : Commutes r₂ r₁ d :=
  ⟨h.second, h.first, fun place => (h.files place).symm⟩

/-- A request takes the worksheet from another one: it spoils the file in which the other one
finds it. -/
def Takes (r₁ r₂ : AddRequest) (d : Directory) : Prop :=
  r₁.SpoilsFile d ∧ ∃ u, r₂.subject d = .ok u

/-! ### A file that was spoilt -/

theorem not_failsAs_plan : ¬ FailsAs (r.plan s) (some .readFailure) := by
  intro h
  cases hdata : Payload.parse r.rowDelimiter r.columnDelimiter r.data with
  | error fault =>
    rcases failsAs_bind_iff.mp h with h | ⟨_, hok, _⟩
    · cases Payload.failsAs_parse h
    · cases hdata.symm.trans hok
  | ok data => rcases failsAs_plan hdata h with h | h | h | h <;> cases h

/-- A request that finds its worksheet does not fail to read it. -/
theorem errorCode_ne_of_subject (overwrites : r.OverwritesRows) (hu : r.subject d = .ok u) :
    (r.run d).1.errorCode ≠ some (FailureKind.codeOf (some .readFailure)) := by
  intro hcode
  rcases errorCode_run_iff.mp hcode with h | ⟨t, _, h⟩
  · rcases failsAs_draft_iff.mp h with h | ⟨v, hv, h | ⟨p, hp, h | ⟨o, ho, h⟩⟩⟩
    · rw [hu] at h
      exact not_failsAs_ok h
    · exact not_failsAs_plan h
    · rw [openTargets, if_pos overwrites.overwriting] at h
      exact not_failsAs_ok h
    · cases (failsAs_write_iff (placed_of_plan hp) ho overwrites.headerTokens_eq).mp h |>.1
  · rcases Directory.failsAs_save h with hkind | hkind <;> cases hkind

/-- Where its file was spoilt it does. -/
theorem errorCode_of_archive {old : Content} (hu : r.subject d = .ok u)
    (h : d.Rewritten (Text.trim r.file) old .archive d') :
    (r.run d').1.errorCode = some (FailureKind.codeOf (some .readFailure)) := by
  obtain ⟨hfile, hdata, hname, hopened, _⟩ := subject_eq_ok_iff.mp hu
  rw [← (found_of_subject hu).file] at h
  have hopen := Directory.failsAs_of_archive hopened h
  refine errorCode_run_iff.mpr (.inl (failsAs_draft_iff.mpr (.inl ?_)))
  refine failsAs_bind_iff.mpr (.inr ⟨_, hfile, ?_⟩)
  simp only [hdata, Bool.false_eq_true, if_false]
  exact failsAs_bind_iff.mpr (.inr ⟨_, hname, failsAs_bind_iff.mpr (.inl hopen)⟩)

theorem Takes.not_commutes (takes : Takes r₁ r₂ d) (apart : Apart r₁ r₂ d) :
    ¬ Commutes r₁ r₂ d := by
  obtain ⟨spoils, u₂, h₂⟩ := takes
  intro commutes
  obtain ⟨_, _, _, hrewritten⟩ := lost_of_spoilsFile spoils
  have hcode := errorCode_of_archive h₂ (hrewritten.of_resolve apart.file.symm)
  rw [commutes.second] at hcode
  exact errorCode_ne_of_subject apart.second h₂ hcode

/-- A request that spoils its file commutes with one that does not find its worksheet. -/
theorem commutes_of_spoilsFile (apart : Apart r₁ r₂ d) (spoils : r₁.SpoilsFile d)
    (takes : ¬ Takes r₁ r₂ d) : Commutes r₁ r₂ d := by
  obtain ⟨_, _, _, hrewritten⟩ := lost_of_spoilsFile spoils
  have ⟨t, ht, _⟩ := spoils
  obtain ⟨h₁, _⟩ := draft_eq_ok_iff.mp ht
  cases h₂ : r₂.subject d with
  | ok u₂ => exact absurd ⟨spoils, u₂, h₂⟩ takes
  | error fault =>
    have hagain := apart.symm.subject_eq_error_after h₁ hrewritten h₂
    have hbefore := run_of_draft_error (draft_eq_error_iff.mpr (.inl ⟨fault, h₂, rfl⟩))
    have hafter := run_of_draft_error (draft_eq_error_iff.mpr (.inl ⟨fault, hagain, rfl⟩))
    exact ⟨by rw [hbefore], by rw [hbefore, hafter], fun place => by
      rw [hbefore, hafter]
      exact .refl⟩

theorem eq_of_failed (whole : ¬ r.SpoilsFile d) (failed : (r.run d).1.isSuccess = false) :
    (r.run d).2 = d := by
  rcases kept_of_not_spoilsFile whole with h | ⟨_, h⟩
  · cases h.symm.trans failed
  · exact h

/-- A request that fails and leaves everything as it is commutes with one that saves. -/
theorem commutes_of_failed (apart : Apart r₁ r₂ d) (covered : d.Covered)
    (lasting₂ : r₂.Lasting d) (whole₁ : ¬ r₁.SpoilsFile d)
    (failed : (r₁.run d).1.isSuccess = false) (h₂ : r₂.Saves d u₂ e₂) : Commutes r₁ r₂ d := by
  obtain ⟨hafter, hkept⟩ := apart.run_after h₂ lasting₂ covered whole₁
  have hsame := eq_of_failed whole₁ failed
  exact ⟨hafter, by rw [hsame], fun place => by
    rw [hsame, hkept failed]
    exact .refl⟩

/-- Requests that do not spoil their file commute. -/
theorem commutes_of_not_spoilsFile (apart : Apart r₁ r₂ d) (covered : d.Covered)
    (lasting₁ : r₁.Lasting d) (lasting₂ : r₂.Lasting d) (whole₁ : ¬ r₁.SpoilsFile d)
    (whole₂ : ¬ r₂.SpoilsFile d) : Commutes r₁ r₂ d := by
  cases end₁ : (r₁.run d).1.isSuccess with
  | false =>
    cases end₂ : (r₂.run d).1.isSuccess with
    | false =>
      have hsame₁ := eq_of_failed whole₁ end₁
      have hsame₂ := eq_of_failed whole₂ end₂
      exact ⟨by rw [hsame₂], by rw [hsame₁], fun place => by
        rw [hsame₁, hsame₂, hsame₁]
        exact .refl⟩
    | true =>
      obtain ⟨u₂, e₂, h₂⟩ := isSuccess_iff_saves.mp end₂
      exact commutes_of_failed apart covered lasting₂ whole₁ end₁ h₂
  | true =>
    obtain ⟨u₁, e₁, h₁⟩ := isSuccess_iff_saves.mp end₁
    cases end₂ : (r₂.run d).1.isSuccess with
    | false => exact (commutes_of_failed apart.symm covered lasting₁ whole₂ end₂ h₁).symm
    | true =>
      obtain ⟨u₂, e₂, h₂⟩ := isSuccess_iff_saves.mp end₂
      exact ⟨(apart.run_after h₂ lasting₂ covered whole₁).1,
        (apart.symm.run_after h₁ lasting₁ covered whole₂).1,
        apart.sameAt_of_both covered lasting₁ lasting₂ h₁ h₂⟩

/-- **Order.** Two requests overwrite different rows of one worksheet, without a header, and what
either of them saves outlasts saving. Whichever is first, each has the same outcome and all files
are the same in the end, unless a request spoils the file in which the other one finds the
worksheet. -/
theorem overwrites_commute_iff (r₁ r₂ : AddRequest) (d : Directory) (apart : Apart r₁ r₂ d)
    (covered : d.Covered) (lasting₁ : r₁.Lasting d) (lasting₂ : r₂.Lasting d) :
    Commutes r₁ r₂ d ↔ ¬ Takes r₁ r₂ d ∧ ¬ Takes r₂ r₁ d := by
  constructor
  · exact fun commutes => ⟨fun takes => takes.not_commutes apart commutes,
      fun takes => takes.not_commutes apart.symm commutes.symm⟩
  · rintro ⟨takes₁, takes₂⟩
    by_cases whole₁ : r₁.SpoilsFile d
    · exact commutes_of_spoilsFile apart whole₁ takes₁
    by_cases whole₂ : r₂.SpoilsFile d
    · exact (commutes_of_spoilsFile apart.symm whole₂ takes₂).symm
    exact commutes_of_not_spoilsFile apart covered lasting₁ lasting₂ whole₁ whole₂

/-! ### Two rows of one file -/

/-- A request to overwrite a row of the file of one cell. -/
def overwriteAt (file row token : String) : AddRequest :=
  ⟨file, "S", "", token, row, "", "|", ",", true⟩

theorem overwritesRows_at {file row : String} (token : String)
    (named : Text.isBlankText row = false) : (overwriteAt file row token).OverwritesRows where
  overwriting := rfl
  noHeader := by
    show (!Text.isBlankText "") = false
    decide
  named := named

/-- Both names lead to the same place. -/
theorem resolve_oneCell : oneCell.resolve (Path.ofText (Text.trim "b.xlsx")) =
    oneCell.resolve (Path.ofText (Text.trim "./b.xlsx")) := by
  decide +kernel

theorem apart_oneCell (token : String) :
    Apart (overwriteAt "b.xlsx" "0" token) (overwriteAt "./b.xlsx" "1" "x") oneCell where
  first := overwritesRows_at token (by decide)
  second := overwritesRows_at "x" (by decide)
  file := resolve_oneCell
  sheet := rfl
  rows := by
    intro rows₁ rows₂ h₁ h₂ i hi₁ hi₂
    have hfirst : IndexSpec.parse "0" maxRowIndex = .ok (IndexSet.interval 0 1) := by rfl
    have hsecond : IndexSpec.parse "1" maxRowIndex = .ok (IndexSet.interval 1 1) := by rfl
    cases hfirst.symm.trans h₁
    cases hsecond.symm.trans h₂
    have hlow := IndexSet.mem_interval.mp hi₁
    have hhigh := IndexSet.mem_interval.mp hi₂
    omega

theorem covered_oneCell : oneCell.Covered :=
  covered_fileOf (Sheet.covered_empty.put ..)

theorem not_spoilsFile_of_isSuccess (h : (r.run d).1.isSuccess = true) : ¬ r.SpoilsFile d := by
  intro spoils
  have hcode := (lost_of_spoilsFile spoils).1
  rw [Outcome.isSuccess, hcode] at h
  exact absurd h (by decide)

/-- The file is called by two names, and a row is overwritten by each. -/
theorem overwrites_commute_oneCell :
    let r₁ := overwriteAt "b.xlsx" "0" "1"
    let r₂ := overwriteAt "./b.xlsx" "1" "x"
    Apart r₁ r₂ oneCell ∧ oneCell.Covered ∧ r₁.Lasting oneCell ∧ r₂.Lasting oneCell ∧
      Commutes r₁ r₂ oneCell := by
  intro r₁ r₂
  have lasting₁ : r₁.Lasting oneCell := lasting_of_draft (by decide +kernel)
  have lasting₂ : r₂.Lasting oneCell := lasting_of_draft (by decide +kernel)
  have whole₁ : ¬ r₁.SpoilsFile oneCell := not_spoilsFile_of_isSuccess (by decide +kernel)
  have whole₂ : ¬ r₂.SpoilsFile oneCell := not_spoilsFile_of_isSuccess (by decide +kernel)
  have apart := apart_oneCell "1"
  exact ⟨apart, covered_oneCell, lasting₁, lasting₂,
    (overwrites_commute_iff r₁ r₂ oneCell apart covered_oneCell lasting₁ lasting₂).mpr
      ⟨fun takes => whole₁ takes.1, fun takes => whole₂ takes.1⟩⟩

theorem spoilsFile_at {token : String} {n : Int} (hblank : Text.isBlankText token = false)
    (hparse : Payload.parse "|" "," token = .ok ⟨[[token]]⟩)
    (hcoerce : coerce token = .ok (.integer n)) (hn : (Binary64.ofInt n).isFinite = false) :
    (overwriteAt "b.xlsx" "0" token).SpoilsFile oneCell := by
  let sheet := (∅ : Sheet).put 0 0 (some (.text "a"))
  let u : Subject := ⟨"b.xlsx", "S", ⟨[("S", sheet)]⟩, sheet⟩
  let p : Plan := ⟨⟨[[token]]⟩, IndexSet.interval 0 1, IndexSet.interval 0 1⟩
  let e := sheet.put 0 0 (some (.integer n))
  have hsubject : (overwriteAt "b.xlsx" "0" token).subject oneCell = .ok u := by
    simp only [subject, overwriteAt, hblank]
    rfl
  have hplan : (overwriteAt "b.xlsx" "0" token).plan sheet = .ok p := by
    simp only [plan, overwriteAt, hparse]
    rfl
  have hwrite : Sheet.writeToken true sheet ⟨0, 0, token⟩ = .done e := by
    simp only [Sheet.writeToken, hcoerce]
    rfl
  have hedit : (overwriteAt "b.xlsx" "0" token).edit p sheet = .ok e := by
    refine ((overwritesRows_at token (by decide)).edit_eq_ok_iff (placed_of_plan hplan)).mpr ?_
    exact Progress.run_cons_eq_done.mpr ⟨e, hwrite, rfl⟩
  have hdraft : (overwriteAt "b.xlsx" "0" token).draft oneCell = .ok ⟨u, p, e⟩ :=
    draft_eq_ok_iff.mpr ⟨hsubject, hplan, hedit⟩
  have can : oneCell.CanSave "b.xlsx" := ⟨by decide, by decide⟩
  refine ⟨_, hdraft, can, ("S", e), List.mem_singleton_self _, .inr ⟨0, 0, n, ?_, hn⟩⟩
  rw [Sheet.cell_put, if_pos ⟨rfl, rfl⟩]

/-- A number that no file can hold goes to one row. A text for another row can be written before
that, but not afterwards. -/
theorem not_commutes_tooLarge :
    let r₁ := overwriteAt "b.xlsx" "0" (String.ofList tooLarge)
    let r₂ := overwriteAt "./b.xlsx" "1" "x"
    Apart r₁ r₂ oneCell ∧ oneCell.Covered ∧ r₁.Lasting oneCell ∧ r₂.Lasting oneCell ∧
      (r₂.run oneCell).1.isSuccess = true ∧
      (r₂.run (r₁.run oneCell).2).1.errorCode = some "READ_ERROR" := by
  intro r₁ r₂
  have hlist : (String.ofList tooLarge).toList = tooLarge := String.toList_ofList
  obtain ⟨hblank, hparse, hcoerce⟩ := token_tooLarge hlist
  have spoils : r₁.SpoilsFile oneCell := spoilsFile_at hblank hparse hcoerce not_isFinite_tooLarge
  have lasting₁ : r₁.Lasting oneCell := by
    intro t ht hw
    obtain ⟨t', ht', _, hw'⟩ := spoils
    cases ht.symm.trans ht'
    exact absurd hw' hw
  have lasting₂ : r₂.Lasting oneCell := lasting_of_draft (by decide +kernel)
  have hsuccess : (r₂.run oneCell).1.isSuccess = true := by decide +kernel
  have apart := apart_oneCell (String.ofList tooLarge)
  obtain ⟨u₂, _, h₂⟩ := isSuccess_iff_saves.mp hsuccess
  obtain ⟨_, _, _, hrewritten⟩ := lost_of_spoilsFile spoils
  exact ⟨apart, covered_oneCell, lasting₁, lasting₂, hsuccess,
    errorCode_of_archive h₂.subject (hrewritten.of_resolve apart.file.symm)⟩

end AddRequest

end SheetActions
