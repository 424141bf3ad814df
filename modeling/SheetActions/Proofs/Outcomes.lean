import SheetActions.Proofs.Faults

/-! The code of a failed request.

A token is written unless its cell cannot take it, and then writing breaks down. Once the
target rows are open this is all that can happen, with and without overwriting
(`writeRows_eq`). So the code that a request ends with is told stage by
stage (`errorCode_run_iff`): that of finding the worksheet, of planning, of opening rows, of
writing, and of saving, which only ever fails to write. -/
namespace SheetActions
variable {k : Option FailureKind}

/-! ### Data -/

namespace Payload

theorem failsAs_split {delimiter text : String} (h : FailsAs (split delimiter text) k) :
    k = none := by
  unfold split at h
  split at h
  · exact absurd h not_failsAs_ok
  · exact (failsAs_error_iff.mp h).symm

/-- Data that cannot be split breaks down. -/
theorem failsAs_parse {rowDelimiter columnDelimiter text : String}
    (h : FailsAs (parse rowDelimiter columnDelimiter text) k) : k = none := by
  rcases failsAs_bind_iff.mp h with h | ⟨rows, _, h⟩
  · exact failsAs_split h
  rcases failsAs_bind_iff.mp h with h | ⟨_, _, h⟩
  · obtain ⟨row, _, h⟩ := exists_failsAs_of_mapM h
    exact failsAs_split (failsAs_map_iff.mp h)
  · exact absurd h not_failsAs_ok

end Payload

/-! ### Writing -/

namespace Sheet
variable {s : Sheet}

theorem failsAs_coerce {token : String} (h : FailsAs (coerce token) k) : k = none := by
  obtain ⟨f, hf, hk⟩ := h
  unfold coerce at hf
  split at hf
  · cases hf
  · split at hf
    · cases hf
      exact hk.symm
    · cases hf

theorem failsAs_content {v : Value} (h : FailsAs (content v) k) : k = none := by
  obtain ⟨f, hf, hk⟩ := h
  unfold content at hf
  split at hf
  · cases hf
    exact hk.symm
  · simp only at hf
    split at hf
    · cases hf
      exact hk.symm
    · cases hf
  · cases hf

theorem writeToken_of_contentOf? {a : Target} {kept : Option Value} (hr : a.row ≤ maxRowIndex)
    (h : contentOf? a.token = some kept) :
    writeToken true s a = .done (s.put a.row a.column kept) := by
  have hend := end?_writeToken true s a
  rw [h, if_neg (not_or.mpr ⟨fun hoff => Bool.noConfusion hoff.1, Nat.not_lt.mpr hr⟩)] at hend
  exact Progress.end?_eq_some.mp hend

/-- A token that its cell cannot take makes writing break down. -/
theorem failsAs_writeToken {a : Target} (hr : a.row ≤ maxRowIndex)
    (h : contentOf? a.token = none) :
    FailsAs (writeToken true s a).toExcept k ↔ k = none := by
  have hnone : ∀ {x : Progress Sheet} {f : Fault}, x.toExcept = .error f → f.kind? = none →
      (FailsAs x.toExcept k ↔ k = none) := by
    intro x f hx hf
    rw [hx, failsAs_error_iff, hf, eq_comm]
  have hfails : (coerce a.token >>= content).toOption = none := h
  cases hv : coerce a.token with
  | error f =>
    refine hnone (f := f) ?_ (failsAs_coerce ⟨f, hv, rfl⟩)
    simp only [writeToken, hv, Bool.not_true, Bool.false_and, Bool.false_eq_true, if_false]
    rfl
  | ok v =>
    cases hkept : content v with
    | error f =>
      refine hnone (f := f) ?_ (failsAs_content ⟨f, hkept, rfl⟩)
      simp only [writeToken, hv, Bool.not_true, Bool.false_and, Bool.false_eq_true, if_false,
        enter, if_neg (Nat.not_lt.mpr hr), Option.map_some, hkept]
      rfl
    | ok kept =>
      rw [hv] at hfails
      change (content v).toOption = none at hfails
      rw [hkept] at hfails
      cases hfails

/-- Tokens for rows of the grid are all written, unless a cell cannot take one of them. -/
theorem failsAs_run_iff {l : List Target} (grid : ∀ a ∈ l, a.row ≤ maxRowIndex) :
    FailsAs (Progress.run (writeToken true) s l).toExcept k ↔
      k = none ∧ ∃ a ∈ l, contentOf? a.token = none := by
  induction l generalizing s with
  | nil =>
    refine iff_of_false not_failsAs_ok ?_
    intro h
    obtain ⟨_, _, ha, _⟩ := h
    cases ha
  | cons a l ih =>
    obtain ⟨hr, hl⟩ := List.forall_mem_cons.mp grid
    rw [Progress.run_cons, Progress.toExcept_andThen, failsAs_bind_iff]
    simp only [List.exists_mem_cons_iff]
    cases h : contentOf? a.token with
    | none =>
      rw [failsAs_writeToken hr h]
      constructor
      · intro hfails
        rcases hfails with hk | ⟨t, ht, hrest⟩
        · exact ⟨hk, .inl rfl⟩
        · exact ⟨((ih hl).mp hrest).1, .inl rfl⟩
      · exact fun hk => .inl hk.1
    | some kept =>
      have hok : (writeToken true s a).toExcept = .ok (s.put a.row a.column kept) := by
        rw [writeToken_of_contentOf? hr h]
        rfl
      simp only [hok, not_failsAs_ok, false_or, Except.ok.injEq, exists_eq_left', ih hl,
        reduceCtorEq]

theorem failsAs_enter {r c : Nat} {v : Option Value} (h : FailsAs (s.enter r c v).toExcept k) :
    k = none := by
  unfold enter at h
  split at h
  · exact (failsAs_error_iff.mp h).symm
  · split at h
    · exact absurd h not_failsAs_ok
    · exact absurd h not_failsAs_ok
    · rename_i f hf
      obtain ⟨value, _, hcontent⟩ := Option.map_eq_some_iff.mp hf
      exact failsAs_content ⟨f, hcontent, failsAs_error_iff.mp h⟩

/-- A token is refused for what its cell holds, or writing it breaks down. -/
theorem failsAs_writeToken_any {overwrite : Bool} {t : Target}
    (h : FailsAs (writeToken overwrite s t).toExcept k) : k = none ∨ k = some .shiftFailure := by
  unfold writeToken at h
  split at h
  · exact .inr (failsAs_error_iff.mp h).symm
  · split at h
    · exact .inl (failsAs_enter h)
    · rename_i f hf
      exact .inl (failsAs_coerce ⟨f, hf, failsAs_error_iff.mp h⟩)

theorem failsAs_writeRows {data : Payload} {rows columns : IndexSet} {overwrite : Bool}
    (h : FailsAs (s.writeRows data rows columns overwrite).toExcept k) :
    k = none ∨ k = some .shiftFailure ∨ k = some .doesNotFit := by
  unfold writeRows at h
  split at h
  · rename_i f hf
    exact .inr (.inr (Placement.failsAs_checkFits ⟨f, hf, failsAs_error_iff.mp h⟩))
  · obtain ⟨_, _, _, h⟩ := exists_failsAs_of_run h
    exact (failsAs_writeToken_any h).imp_right .inl

theorem failsAs_openRows {rows : IndexSet} (h : FailsAs (s.openRows rows).toExcept k) :
    k = none ∨ k = some .shiftFailure := by
  obtain ⟨f, hf, rfl⟩ := h
  rw [Progress.toExcept_eq_error, openRows_eq_openRuns] at hf
  rcases fault_of_openRuns hf with hshift | ⟨_, rfl⟩
  · exact .inr (Fault.isShiftFailure_iff.mp hshift)
  · exact .inl rfl

end Sheet

/-! ### Saving -/

namespace Directory
variable {d : Directory} {file : String} {w : Workbook}

theorem failsAs_store {named : String} {content : Content}
    (h : FailsAs (d.store file named content).toExcept k) :
    k = some .writeFailure ∨ k = some .permissionDenied := by
  unfold store at h
  split at h
  · exact absurd h not_failsAs_ok
  · have hk := failsAs_error_iff.mp h
    unfold storeFault at hk
    split at hk
    · exact .inr hk.symm
    · exact .inl hk.symm

/-- A workbook that is not saved could not be written, or was not permitted to be. -/
theorem failsAs_save (h : FailsAs (d.save file w).toExcept k) :
    k = some .writeFailure ∨ k = some .permissionDenied := by
  unfold save at h
  split at h
  · exact .inl (failsAs_error_iff.mp h).symm
  · split at h
    · rw [Progress.toExcept_andThen] at h
      rcases failsAs_bind_iff.mp h with h | ⟨_, _, h⟩
      · exact failsAs_store h
      · exact .inl (failsAs_error_iff.mp h).symm
    · exact failsAs_store h

end Directory

/-! ### Requests -/

namespace AddRequest
variable {r : AddRequest} {d : Directory} {u : Subject} {p : Plan} {s o : Sheet}
  {header : List String}

/-- A plan is refused for a specification, for the row of the header or for its size. -/
theorem failsAs_plan {data : Payload}
    (hdata : Payload.parse r.rowDelimiter r.columnDelimiter r.data = .ok data)
    (h : FailsAs (r.plan s) k) :
    k = none ∨ k = some .invalidIndex ∨ k = some .invalidInput ∨ k = some .doesNotFit := by
  simp only [plan, hdata] at h
  rcases failsAs_bind_iff.mp h with h | ⟨_, hok, h⟩
  · exact absurd h not_failsAs_ok
  cases hok
  rcases failsAs_bind_iff.mp h with h | ⟨rows, _, h⟩
  · rcases Placement.failsAs_resolveRows h with h | rfl
    · exact (IndexSpec.failsAs_parse h).imp_right .inl
    · exact .inr (.inl rfl)
  rcases failsAs_ite_iff.mp h with ⟨_, h⟩ | ⟨_, h⟩
  · rcases failsAs_bind_iff.mp h with h | ⟨_, hthrow, _⟩
    · exact .inr (.inr (.inl (failsAs_error_iff.mp h).symm))
    · cases hthrow
  rcases failsAs_bind_iff.mp h with h | ⟨columns, _, h⟩
  · rcases Placement.failsAs_resolveColumns h with h | rfl
    · exact (IndexSpec.failsAs_parse h).imp_right .inl
    · exact .inr (.inl rfl)
  rcases failsAs_bind_iff.mp h with h | ⟨_, _, h⟩
  · exact .inr (.inr (.inr (Placement.failsAs_checkFits h)))
  · exact absurd h not_failsAs_ok

/-- A plan breaks down when a specification is overlong that the stages before leave to it. -/
theorem failsAs_plan_none_iff {data : Payload}
    (hdata : Payload.parse r.rowDelimiter r.columnDelimiter r.data = .ok data) :
    FailsAs (r.plan s) none ↔ IndexSpec.Overlong r.rows maxRowIndex ∨
      ∃ rows, Placement.resolveRows r.rows s.usedRows data.rowCount r.hasHeader
          (r.reservesHeader s) = .ok rows ∧
        ¬(r.hasHeader ∧ Placement.headerRow ∈ rows) ∧
        IndexSpec.Overlong r.columns maxColumnIndex := by
  have hbind : r.plan s = (Placement.resolveRows r.rows s.usedRows data.rowCount r.hasHeader
      (r.reservesHeader s) >>= fun rows => do
        if r.hasHeader ∧ Placement.headerRow ∈ rows then throw headerRowTaken
        let columns ← Placement.resolveColumns r.columns data.columnCount
        Placement.checkFits data rows columns
        return ⟨data, rows, columns⟩) := by
    simp only [plan, hdata]
    rfl
  rw [hbind, failsAs_bind_iff, Placement.failsAs_resolveRows_none_iff]
  refine or_congr_right (exists_congr fun rows => and_congr_right fun _ => ?_)
  rw [failsAs_ite_iff, failsAs_bind_iff]
  have hthrow : ¬ FailsAs (throw headerRowTaken : Except Fault PUnit) none := by
    intro h
    cases failsAs_error_iff.mp h
  constructor
  · intro h
    rcases h with ⟨_, h | ⟨_, h, _⟩⟩ | ⟨hfree, h⟩
    · exact absurd h hthrow
    · cases h
    · refine ⟨hfree, ?_⟩
      rcases failsAs_bind_iff.mp h with h | ⟨columns, _, h⟩
      · exact Placement.failsAs_resolveColumns_none_iff.mp h
      · rcases failsAs_bind_iff.mp h with h | ⟨_, _, h⟩
        · cases Placement.failsAs_checkFits h
        · exact absurd h not_failsAs_ok
  · intro h
    refine .inr ⟨h.1, failsAs_bind_iff.mpr (.inl ?_)⟩
    exact Placement.failsAs_resolveColumns_none_iff.mpr h.2

/-- Rows that cannot be opened are a failure of their own, as long as all columns have names. -/
theorem failsAs_openTargets (named : s.extent.columns ≤ Sheet.namedColumns)
    (h : FailsAs (r.openTargets p s).toExcept k) :
    r.overwrite = false ∧ (s.openRows p.rows).fault ≠ none ∧ k = some .shiftFailure := by
  unfold openTargets at h
  split at h
  · exact absurd h not_failsAs_ok
  · rename_i hoff
    obtain ⟨f, hf, rfl⟩ := h
    have hfault : (s.openRows p.rows).fault = some f := by
      unfold Progress.toExcept at hf
      split at hf
      · cases hf
      · rename_i g hg
        cases hf
        exact hg
    have hkind := hfault
    rw [Sheet.openRows_eq_openRuns] at hkind
    refine ⟨by simpa using hoff, by rw [hfault]; exact Option.some_ne_none f, ?_⟩
    rcases Sheet.fault_of_openRuns hkind with hshift | ⟨hunnamed, _⟩
    · exact Fault.isShiftFailure_iff.mp hshift
    · omega

/-- Whatever names the columns have, rows are opened, or they cannot be moved, or opening them
breaks down. -/
theorem failsAs_openTargets_any (h : FailsAs (r.openTargets p s).toExcept k) :
    k = none ∨ k = some .shiftFailure := by
  unfold openTargets at h
  split at h
  · exact absurd h not_failsAs_ok
  · exact Sheet.failsAs_openRows h

/-- In the grid the rows of the data and of the header are. -/
theorem row_le_of_placed (placed : r.Placed s p) :
    ∀ a ∈ allTargets p header, a.row ≤ maxRowIndex := by
  intro a ha
  rcases List.mem_append.mp ha with ha | ha
  · obtain ⟨i, _, _, _, _, hi, _⟩ := Sheet.mem_targets.mp ha
    exact Placement.le_of_resolveRows placed.rows _ (List.mem_of_getElem? hi)
  · rw [(Sheet.mem_headerTargets.mp ha).1]
    exact Nat.zero_le _

/-- Once the targets are open the data is written as if it were to overwrite: no target cell
holds a value that would have to be kept. -/
theorem writeRows_eq (placed : r.Placed s p) (hopen : r.openTargets p s = .done o) :
    o.writeRows p.data p.rows p.columns r.overwrite =
      Progress.run (Sheet.writeToken true) o (Sheet.targets p.data p.rows p.columns) := by
  have hfits : Placement.checkFits p.data p.rows p.columns = .ok () :=
    Placement.checkFits_eq_ok_iff.mpr ⟨placed.rowsFit, placed.columnsFit⟩
  simp only [Sheet.writeRows, hfits]
  cases hoverwrite : r.overwrite with
  | true => rfl
  | false =>
    simp only [openTargets, hoverwrite, Bool.false_eq_true, if_false] at hopen
    refine Sheet.run_writeToken_of_blank false (Sheet.nodup_targets ..) fun a ha => ?_
    obtain ⟨i, _, _, _, _, hi, _⟩ := Sheet.mem_targets.mp ha
    exact (Sheet.opened_of_done hopen).blank _ (List.mem_of_getElem? hi) _

/-- All tokens are written in one go, those of the header last. -/
theorem write_eq (placed : r.Placed s p) (hopen : r.openTargets p s = .done o)
    (hheader : r.headerTokens = .ok header) :
    r.write p o = (Progress.run (Sheet.writeToken true) o (allTargets p header)).toExcept := by
  simp only [write, writeRows_eq placed hopen, hheader, allTargets, Progress.run_append,
    Progress.toExcept_andThen]
  rfl

theorem headerTokens_eq_ok (h : r.columnDelimiter.isEmpty = false) :
    ∃ header, r.headerTokens = .ok header := by
  unfold headerTokens
  split
  · rw [Payload.tokens, Payload.split_eq h]
    exact ⟨_, rfl⟩
  · exact ⟨[], rfl⟩

/-- Writing to rows that may not be open can also fail for what the cells hold. -/
theorem failsAs_write_any (h : FailsAs (r.write p s) k) :
    k = none ∨ k = some .shiftFailure ∨ k = some .doesNotFit := by
  rcases failsAs_bind_iff.mp h with h | ⟨_, _, h⟩
  · exact Sheet.failsAs_writeRows h
  rcases failsAs_bind_iff.mp h with h | ⟨_, _, h⟩
  · rcases failsAs_ite_iff.mp h with ⟨_, h⟩ | ⟨_, h⟩
    · exact .inl (Payload.failsAs_split (failsAs_map_iff.mp h))
    · exact absurd h not_failsAs_ok
  · obtain ⟨_, _, _, h⟩ := exists_failsAs_of_run h
    exact (Sheet.failsAs_writeToken_any h).imp_right .inl

/-- Writing fails only when a cell cannot take a token, and then it breaks down. -/
theorem failsAs_write_iff (placed : r.Placed s p) (hopen : r.openTargets p s = .done o)
    (hheader : r.headerTokens = .ok header) :
    FailsAs (r.write p o) k ↔
      k = none ∧ ∃ a ∈ allTargets p header, Sheet.contentOf? a.token = none := by
  rw [write_eq placed hopen hheader, Sheet.failsAs_run_iff (row_le_of_placed placed)]

/-! ### Runs -/

/-- All stages but saving, where it does not matter which of them fails. -/
theorem mapError_draft : (r.draft d).mapError Prod.snd = do
    let u ← r.subject d
    let p ← r.plan u.sheet
    let o ← (r.openTargets p u.sheet).toExcept
    let e ← r.write p o
    return ⟨u, p, e⟩ := by
  have hstage : ∀ {α : Type} (x : Except Fault α) (stage : Stage),
      (x.mapError (stage, ·)).mapError Prod.snd = x := by
    intro α x stage
    cases x <;> rfl
  have hpure : ∀ {α : Type} (a : α),
      (pure a : Except (Stage × Fault) α).mapError Prod.snd = .ok a := fun _ => rfl
  simp only [draft, change, edit, mapError_bind, hstage, hpure, bind_assoc]
  rfl

theorem failsAs_draft_iff : FailsAs ((r.draft d).mapError Prod.snd) k ↔
    FailsAs (r.subject d) k ∨ ∃ u, r.subject d = .ok u ∧
      (FailsAs (r.plan u.sheet) k ∨ ∃ p, r.plan u.sheet = .ok p ∧
        (FailsAs (r.openTargets p u.sheet).toExcept k ∨
          ∃ o, r.openTargets p u.sheet = .done o ∧ FailsAs (r.write p o) k)) := by
  simp only [mapError_draft, failsAs_bind_iff, not_failsAs_ok, and_false, exists_false, or_false,
    Progress.toExcept_eq_ok, pure, Except.pure]

/-- A request ends with the code of the stage that fails first. -/
theorem errorCode_run_iff : (r.run d).1.errorCode = some (FailureKind.codeOf k) ↔
    FailsAs ((r.draft d).mapError Prod.snd) k ∨
      ∃ t, r.draft d = .ok t ∧ FailsAs (d.save t.subject.file t.workbook).toExcept k := by
  cases ht : r.draft d with
  | error cause =>
    have hrun : r.run d = (.ofFault cause.1.during cause.2, d) := by simp only [run, ht]
    rw [hrun, Outcome.errorCode_ofFault_iff]
    refine ⟨fun h => .inl (failsAs_error_iff.mpr h), fun h => ?_⟩
    rcases h with h | ⟨t, h, _⟩
    · exact failsAs_error_iff.mp h
    · cases h
  | ok t =>
    simp only [mapError_ok, not_failsAs_ok, false_or, Except.ok.injEq, exists_eq_left']
    rcases hsave : d.save t.subject.file t.workbook with ⟨d', _ | f⟩
    · rw [run_of_done ht hsave]
      refine iff_of_false (fun h => ?_) not_failsAs_ok
      cases h
    · rw [run_of_stopped ht hsave, Outcome.errorCode_ofFault_iff]
      exact failsAs_error_iff.symm

/-- A request succeeds, or it ends with the code of a failure. -/
theorem isSuccess_or_errorCode (r : AddRequest) (d : Directory) :
    (r.run d).1.isSuccess = true ∨
      ∃ k, (r.run d).1.errorCode = some (FailureKind.codeOf k) := by
  have ended := ended_run r d
  generalize r.run d = result at ended ⊢
  cases ended with
  | stopped | refused | spoiled => exact .inr ⟨_, Outcome.errorCode_ofFault ..⟩
  | saved => exact .inl rfl

end AddRequest

end SheetActions
