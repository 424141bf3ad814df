import SheetActions.Proofs.Markup
import SheetActions.Proofs.Outcomes
import SheetActions.Proofs.Rows

/-! Overwriting again.

A request that overwrites the rows that it names has the same targets each time, whatever is on the
sheet (`plan_congr_of_named`), unless a header makes room for itself on an empty sheet. So the cells
that it writes become the same again, and the others are as they were opened and saved
(`stored_of_runs`): the sheet stays as the first run left it, if those cells do (`Steady`). Values
that were opened from a file do, unless they may drift (`Saves.settled`). -/
namespace SheetActions

/-! ### Where the data goes again -/

namespace Placement
variable {spec : String} {count : Nat} {hasHeader reserve reserve' : Bool}

/-- Rows that are named are the same on all sheets where they make room for a header, and on all
others. -/
theorem resolveRows_congr (used used' : Nat) (named : Text.isBlankText spec = false)
    (h : (hasHeader && reserve) = (hasHeader && reserve')) :
    resolveRows spec used count hasHeader reserve =
      resolveRows spec used' count hasHeader reserve' := by
  rw [resolveRows_of_named named, resolveRows_of_named named, h]

end Placement

namespace AddRequest
variable {r : AddRequest} {s t : Sheet}

/-- The plan for overwriting named rows depends on a sheet only by whether it is empty, and only
if there is a header. -/
theorem plan_congr_of_named (overwriting : r.overwrite = true)
    (named : Text.isBlankText r.rows = false)
    (start : r.hasHeader = true → (s.usedRows = 0 ↔ t.usedRows = 0)) : r.plan s = r.plan t := by
  have hreserve : (r.hasHeader && r.reservesHeader s) = (r.hasHeader && r.reservesHeader t) := by
    simp only [reservesHeader, overwriting]
    cases hheader : r.hasHeader with
    | false => rfl
    | true => simp [start hheader]
  simp only [plan, Placement.resolveRows_congr s.usedRows t.usedRows named hreserve]

end AddRequest

/-! ### Writing again -/

namespace Sheet
variable {s t e f : Sheet} {l : List Target}

/-- Tokens that were written can be written to any other sheet, over what is there. -/
theorem exists_run_of_run (h : Progress.run (writeToken true) s l = .done e) (t : Sheet) :
    ∃ f, Progress.run (writeToken true) t l = .done f := by
  induction l generalizing s t with
  | nil => exact ⟨t, rfl⟩
  | cons a l ih =>
    obtain ⟨m, ha, hl⟩ := Progress.run_cons_eq_done.mp h
    obtain ⟨_, hrow, v, kept, hv, hkept, rfl⟩ := writeToken_eq_done ha
    have hcontent : contentOf? a.token = some kept :=
      toOption_eq_some.mpr (bind_eq_ok.mpr ⟨v, hv, hkept⟩)
    obtain ⟨f, hf⟩ := ih hl (t.put a.row a.column kept)
    exact ⟨f, Progress.run_cons_eq_done.mpr ⟨_, writeToken_of_contentOf? hrow hcontent, hf⟩⟩

/-- The cells that tokens are written to become the same on all sheets. -/
theorem cell_of_runs (distinct : (l.map Target.place).Nodup)
    (h : Progress.run (writeToken true) s l = .done e)
    (h' : Progress.run (writeToken true) t l = .done f) {a : Target} (ha : a ∈ l) :
    f.cell a.row a.column = e.cell a.row a.column := by
  obtain ⟨_, v, kept, hv, hkept, he⟩ := content_of_run distinct h a ha
  obtain ⟨_, v', kept', hv', hkept', hf⟩ := content_of_run distinct h' a ha
  cases hv.symm.trans hv'
  cases hkept.symm.trans hkept'
  rw [he, hf]

/-- A cell that is settled is kept once more. -/
theorem cell_stored_again {r c : Nat}
    (settled : ∀ w, s.stored.cell r c = some w → w.Settled (s.style r c)) :
    s.stored.loaded.stored.cell r c = s.stored.cell r c := by
  rw [cell_stored, cell_loaded]
  cases hw : s.stored.cell r c with
  | none => rfl
  | some w => exact settled w hw

/-- A sheet was written to, saved and opened again. Where the tokens are written to it once more,
the same is saved as before, as far as the other cells are settled. -/
theorem stored_of_runs (distinct : (l.map Target.place).Nodup)
    (h : Progress.run (writeToken true) s l = .done e)
    (h' : Progress.run (writeToken true) e.stored.loaded l = .done f)
    (settled : ∀ r c, (∀ a ∈ l, a.place ≠ (r, c)) → ∀ w, e.stored.cell r c = some w →
      w.Settled (e.style r c)) : f.stored = e.stored := by
  refine stored_congr (fun r c => ?_) (fun r c => (style_of_run h' r c).trans rfl)
    fun r => (height_of_run h' r).trans rfl
  by_cases htouched : ∃ a ∈ l, a.place = (r, c)
  · obtain ⟨a, ha, hplace⟩ := htouched
    cases hplace
    rw [cell_stored, cell_stored, cell_of_runs distinct h h' ha]
  · have haway : ∀ a ∈ l, a.place ≠ (r, c) := fun a ha hplace => htouched ⟨a, ha, hplace⟩
    rw [← cell_stored_again (settled r c haway), cell_stored, cell_of_run h' haway, ← cell_stored]

/-- A sheet that tokens were written to can be saved. So can any other such sheet then, once the
tokens are written to it. -/
theorem savable_of_written (distinct : (l.map Target.place).Nodup)
    (h : Progress.run (writeToken true) s l = .done e)
    (h' : Progress.run (writeToken true) t l = .done f)
    (savable : e.Savable) (before : t.Savable) : f.Savable where
  columns := (columns_run_le_iff h').mpr
    ⟨before.columns, ((columns_run_le_iff h).mp savable.columns).2⟩
  storable := fun r c v hv => by
    by_cases htouched : ∃ a ∈ l, a.place = (r, c)
    · obtain ⟨a, ha, hplace⟩ := htouched
      cases hplace
      rw [cell_of_runs distinct h h' ha] at hv
      exact savable.storable _ _ v hv
    · rw [cell_of_run h' fun a ha hplace => htouched ⟨a, ha, hplace⟩] at hv
      exact before.storable r c v hv

/-- And it can be saved again. -/
theorem savable_of_runs (distinct : (l.map Target.place).Nodup)
    (h : Progress.run (writeToken true) s l = .done e)
    (h' : Progress.run (writeToken true) e.stored.loaded l = .done f)
    (savable : e.Savable) (covered : e.Covered) : f.Savable :=
  savable_of_written distinct h h' savable (savable.reloaded covered)

end Sheet

/-! ### Running a request again -/

namespace AddRequest
variable {r : AddRequest} {d : Directory} {u : Subject} {p : Plan} {header : List String}
  {s e f : Sheet}

/-- With overwriting a sheet is changed by writing the tokens. -/
theorem edit_eq_ok_iff_of_overwrite (overwriting : r.overwrite = true) (placed : r.Placed s p)
    (hheader : r.headerTokens = .ok header) :
    r.edit p s = .ok e ↔
      Progress.run (Sheet.writeToken true) s (allTargets p header) = .done e := by
  have hopen : r.openTargets p s = .done s := by
    simp only [openTargets, overwriting, if_true]
    rfl
  have hwrite := write_eq placed hopen hheader
  simp only [edit, hopen, bind_eq_ok, mapError_eq_ok, Progress.toExcept_eq_ok]
  constructor
  · rintro ⟨o, ho, h⟩
    obtain rfl := Progress.done_inj ho
    rwa [hwrite, Progress.toExcept_eq_ok] at h
  · intro h
    exact ⟨s, rfl, by rwa [hwrite, Progress.toExcept_eq_ok]⟩

/-- What a request found and what it left on its worksheet make it do the same the next time: a
header is taken for new both times or not at all, the file can be opened, and the cells that it
does not write to are kept. -/
structure Steady (r : AddRequest) (u : Subject) (p : Plan) (header : List String) (s : Sheet) :
    Prop where
  start : r.hasHeader = true → (u.sheet.usedRows = 0 ↔ s.usedRows = 0)
  markup : s.Markup
  settled : ∀ i j w, s.cell i j = some w → (∀ a ∈ allTargets p header, a.place ≠ (i, j)) →
    w.mayDrift (s.style i j) = true → w.Settled (s.style i j)

theorem steady_iff :
    r.Steady u p header s ↔ (r.hasHeader = true → (u.sheet.usedRows = 0 ↔ s.usedRows = 0)) ∧
      (s.values.toList.all fun x => x.2.2.isMarkup) = true ∧
      ∀ x ∈ s.values.toList, (∀ a ∈ allTargets p header, a.place ≠ (x.1, x.2.1)) →
        x.2.2.mayDrift (s.style x.1 x.2.1) = true → x.2.2.Settled (s.style x.1 x.2.1) := by
  rw [← Sheet.markup_iff, ← Sheet.forall_cell_iff (P := fun i j w =>
    (∀ a ∈ allTargets p header, a.place ≠ (i, j)) → w.mayDrift (s.style i j) = true →
      w.Settled (s.style i j))]
  exact ⟨fun h => ⟨h.start, h.markup, h.settled⟩, fun h => ⟨h.1, h.2.1, h.2.2⟩⟩

instance (r : AddRequest) (u : Subject) (p : Plan) (header : List String) (s : Sheet) :
    Decidable (r.Steady u p header s) :=
  decidable_of_iff _ steady_iff.symm

/-- The values that were opened from the file are settled, unless they may drift. -/
theorem Saves.settled (saves : r.Saves d u e) (filed : d.Filed) {l : List Sheet.Target}
    (h : Progress.run (Sheet.writeToken true) u.sheet l = .done e) {i j : Nat} {w : Value}
    (haway : ∀ a ∈ l, a.place ≠ (i, j)) (hw : e.stored.cell i j = some w)
    (hdrift : w.mayDrift (e.style i j) = false) : w.Settled (e.style i j) := by
  have found := found_of_subject saves.subject
  have hloaded : u.sheet.Loaded := (filed.openForChange found.opened).sheet? found.sheet
  rw [Sheet.cell_stored, Sheet.cell_of_run h haway] at hw
  rw [Sheet.style_of_run h] at hdrift ⊢
  obtain ⟨v, hv, hw⟩ := Option.bind_eq_some_iff.mp hw
  obtain ⟨k, hk, rfl⟩ := hloaded i j v hv
  exact Value.settled_of_loaded hk hw hdrift

/-- A request that overwrites named rows, run again, saves the same sheet. -/
theorem Saves.again (saves : r.Saves d u e) (overwriting : r.overwrite = true)
    (named : Text.isBlankText r.rows = false) (filed : d.Filed) (covered : d.Covered)
    (hp : r.plan u.sheet = .ok p) (hheader : r.headerTokens = .ok header)
    (steady : r.Steady u p header e.stored) :
    ∃ f, r.Saves (r.run d).2 (u.reopened e) f ∧ f.stored = e.stored := by
  have found := found_of_subject saves.subject
  have placed := placed_of_plan hp
  obtain ⟨p', hp', hedit⟩ := changed_eq_some.mp saves.changed
  cases hp.symm.trans hp'
  have hrun := (edit_eq_ok_iff_of_overwrite overwriting placed hheader).mp hedit
  have hdistinct := nodup_allTargets placed hheader
  -- the same tokens go to the same cells of the sheet as it is opened again
  have hstart : r.hasHeader = true → (u.sheet.usedRows = 0 ↔ e.stored.loaded.usedRows = 0) := by
    rw [Sheet.usedRows_loaded]
    exact steady.start
  have hagain : r.plan e.stored.loaded = .ok p :=
    (plan_congr_of_named overwriting named hstart).symm.trans hp
  obtain ⟨f, hf⟩ := Sheet.exists_run_of_run hrun e.stored.loaded
  have hchanged : r.changed e.stored.loaded = some f := changed_eq_some.mpr ⟨p, hagain,
    (edit_eq_ok_iff_of_overwrite overwriting (placed_of_plan hagain) hheader).mpr hf⟩
  have hcovered := saves.covered covered
  have hsame : f.stored = e.stored := by
    refine Sheet.stored_of_runs hdistinct hrun hf fun i j haway w hw => ?_
    cases hdrift : w.mayDrift (e.style i j) with
    | false => exact saves.settled filed hrun haway hw hdrift
    | true => exact steady.settled i j w hw haway hdrift
  have hmarkup := Workbook.isMarkup_stored_put (Directory.isMarkup_openForChange found.opened)
    found.sheet steady.markup
  refine ⟨f, ⟨saves.subject_of_isMarkup hmarkup, hchanged, saves.canSave_iff.mpr saves.can, ?_, ?_⟩,
    hsame⟩
  · exact Sheet.savable_of_runs hdistinct hrun hf saves.sheet (hcovered.sheet? saves.sheet?_put)
  · intro x hx _
    obtain ⟨y, hy, rfl⟩ := List.mem_map.mp hx
    obtain ⟨z, hz, rfl⟩ := List.mem_map.mp hy
    exact (saves.savable z hz).reloaded (hcovered z hz)

/-- Run in a directory, a request succeeds and leaves its worksheet as it is. -/
structure Repeats (r : AddRequest) (d : Directory) : Prop where
  success : (r.run d).1.isSuccess = true
  sheet : ∃ s, d.sheet? (Text.trim r.file) (Text.trim r.sheet) = some s ∧
    (r.run d).2.sheet? (Text.trim r.file) (Text.trim r.sheet) = some s

/-- **Overwriting again.** A request overwrites rows that it names. If it succeeds and is steady,
then run once more it succeeds again and leaves its worksheet as the first run left it. The
directory is `Filed` and `Covered` as all are. -/
theorem overwrite_again (r : AddRequest) (d : Directory) (overwriting : r.overwrite = true)
    (named : Text.isBlankText r.rows = false) (filed : d.Filed) (covered : d.Covered)
    (success : (r.run d).1.isSuccess = true)
    (steady : ∀ u p header s, r.subject d = .ok u → r.plan u.sheet = .ok p →
      r.headerTokens = .ok header → (r.run d).2.sheet? u.file u.sheetName = some s →
        r.Steady u p header s) : r.Repeats (r.run d).2 := by
  obtain ⟨u, e, saves⟩ := isSuccess_iff_saves.mp success
  obtain ⟨p, hp, hedit⟩ := changed_eq_some.mp saves.changed
  obtain ⟨_, _, header, _, _, hheader, _⟩ := edit_eq_ok hedit
  obtain ⟨f, hagain, hsame⟩ := saves.again overwriting named filed covered hp hheader
    (steady u p header e.stored saves.subject hp hheader saves.sheet?)
  have found := found_of_subject saves.subject
  refine ⟨isSuccess_iff_saves.mpr ⟨_, f, hagain⟩, e.stored, ?_⟩
  rw [← found.file, ← found.sheetName]
  refine ⟨saves.sheet?, ?_⟩
  rw [← hsame]
  exact hagain.sheet?

/-! ### A ledger -/

/-- A file with one worksheet. -/
def fileOf (s : Sheet) : Directory :=
  .ofFile "b.xlsx" ⟨[("S", s)]⟩

theorem filed_fileOf (h : s.Filed) : (fileOf s).Filed :=
  Directory.all_ofFile fun x hx => by
    obtain rfl := List.mem_singleton.mp hx
    exact h

theorem covered_fileOf (h : s.Covered) : (fileOf s).Covered :=
  Directory.all_ofFile fun x hx => by
    obtain rfl := List.mem_singleton.mp hx
    exact h

/-- A header, and a row for a moment with an amount and a span. -/
def ledger : Sheet :=
  let moment : Value := .dateTime ⟨2024, 1, 31⟩ ⟨8, 30, 15, 0⟩
  let amount : Value := .float (Binary64.ofDecimal false 1 (-1))
  (((((∅ : Sheet).put 0 0 (some (.text "day"))).put 1 0 (some moment)).put 1 1 (some amount)).put
    1 2 (some (.span 5400000000))).stored

/-- The same header, and two rows that are not next to each other. -/
def entries : AddRequest :=
  ⟨"b.xlsx", "S", "day,amount", "x,1|y,2.5", "2,4", "", "|", ",", true⟩

/-- Entering the rows twice is entering them once. -/
theorem overwrite_again_entries :
    entries.overwrite = true ∧ Text.isBlankText entries.rows = false ∧ (fileOf ledger).Filed ∧
      (fileOf ledger).Covered ∧ (entries.run (fileOf ledger)).1.isSuccess = true ∧
      entries.Repeats (entries.run (fileOf ledger)).2 := by
  have hsuccess : (entries.run (fileOf ledger)).1.isSuccess = true := by decide +kernel
  have hsteady : ((entries.subject (fileOf ledger)).toOption.all fun u =>
      (entries.plan u.sheet).toOption.all fun p => entries.headerTokens.toOption.all fun header =>
        ((entries.run (fileOf ledger)).2.sheet? u.file u.sheetName).all fun s =>
          decide (entries.Steady u p header s)) = true := by decide +kernel
  have filed : (fileOf ledger).Filed := filed_fileOf (Sheet.filed_stored _)
  have covered : (fileOf ledger).Covered := covered_fileOf (Sheet.covered_stored _)
  refine ⟨rfl, by decide, filed, covered, hsuccess, ?_⟩
  refine overwrite_again entries (fileOf ledger) rfl (by decide) filed covered hsuccess ?_
  intro u p header s hu hp hheader hs
  rw [hu, Except.toOption, Option.all_some, hp, Except.toOption, Option.all_some, hheader,
    Except.toOption, Option.all_some, hs, Option.all_some] at hsteady
  exact of_decide_eq_true hsteady

/-! ### What is not repeated -/

/-- A request overwrites rows that it names and succeeds, but the same request would do something
else afterwards. -/
structure Wavers (r : AddRequest) (d : Directory) : Prop where
  overwriting : r.overwrite = true
  named : Text.isBlankText r.rows = false
  filed : d.Filed
  covered : d.Covered
  success : (r.run d).1.isSuccess = true
  differs : ¬ r.Repeats (r.run d).2

/-- A cell that the second run leaves with another content tells it from the first. -/
theorem not_repeats_of_cell (i j : Nat)
    (h : ((d.sheet? (Text.trim r.file) (Text.trim r.sheet)).bind fun s => s.cell i j) ≠
      (((r.run d).2.sheet? (Text.trim r.file) (Text.trim r.sheet)).bind fun s => s.cell i j)) :
    ¬ r.Repeats d :=
  fun ⟨_, s, hs, hs'⟩ => h (by rw [hs, hs'])

/-- A request to overwrite the row with the index 1. -/
def overwriteOne (header token : String) : AddRequest :=
  ⟨"b.xlsx", "S", header, token, "1", "", "|", ",", true⟩

/-- A span of more than eight thousand years. -/
def longSpan : Sheet :=
  ((∅ : Sheet).put 0 0 (some (.span 260463106739000000))).stored

/-- The greatest of all numbers. -/
def greatestNumber : Sheet :=
  (∅ : Sheet).put 0 0 (some (.float (.finite false (2 ^ 53 - 1) Binary64.greatestExponent)))

theorem filed_empty : (∅ : Sheet).Filed :=
  fun _ _ _ hv => nomatch hv

theorem filed_greatestNumber : greatestNumber.Filed := by
  intro i j v hv
  rw [greatestNumber, Sheet.cell_put] at hv
  split at hv
  · cases hv
    exact fun _ => ⟨by norm_num, by decide, le_rfl, .inr (by norm_num)⟩
  · cases hv

/-- A header on an empty sheet makes room for itself, but only the first time. A text that markup
cannot hold keeps the file from being opened again. A long span is read as another one each time
that it is opened, and the greatest number is saved as a number beyond all of them. -/
theorem wavers_overwriteOne :
    (overwriteOne "h" "1").Wavers (fileOf ∅) ∧
      (overwriteOne "" "a\uFFFFb").Wavers (fileOf ∅) ∧
      (overwriteOne "" "1").Wavers (fileOf longSpan) ∧
      (overwriteOne "" "1").Wavers (fileOf greatestNumber) := by
  have filed : (fileOf ∅).Filed := filed_fileOf filed_empty
  have covered : (fileOf ∅).Covered := covered_fileOf Sheet.covered_empty
  have hfails : ((overwriteOne "" "a\uFFFFb").run
      ((overwriteOne "" "a\uFFFFb").run (fileOf ∅)).2).1.isSuccess = false := by decide +kernel
  refine ⟨⟨rfl, by decide, filed, covered, by decide +kernel, ?_⟩,
    ⟨rfl, by decide, filed, covered, by decide +kernel, fun h => ?_⟩,
    ⟨rfl, by decide, filed_fileOf (Sheet.filed_stored _), covered_fileOf (Sheet.covered_stored _),
      by decide +kernel, ?_⟩,
    ⟨rfl, by decide, filed_fileOf filed_greatestNumber, covered_fileOf (Sheet.covered_empty.put ..),
      by decide +kernel, ?_⟩⟩
  · exact not_repeats_of_cell 1 0 (by decide +kernel)
  · cases h.success.symm.trans hfails
  · exact not_repeats_of_cell 0 0 (by decide +kernel)
  · exact not_repeats_of_cell 0 0 (by decide +kernel)

end AddRequest

end SheetActions
