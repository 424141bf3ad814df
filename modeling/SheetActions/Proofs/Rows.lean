import SheetActions.Proofs.ReadingBack
import SheetActions.Proofs.Unread

/-! The rows of data.

Rows that are named are the rows that the specification denotes, each moved down by one if a header
comes in above them, whatever is on the sheet (`resolveRows_of_named`). Without a specification the
rows follow the used rows. Either way they lie in the grid, or the specification is refused. Row 0
is the row of the header, if there is one: appended rows stay behind it, and moved rows below it, so
data is refused for it only when it was named for a sheet with rows that are overwritten
(`mem_headerRow_iff`). -/
namespace SheetActions

namespace Placement
variable {spec : String} {used count : Nat} {hasHeader reserve : Bool} {rows : IndexSet} {f : Fault}

/-! ### Rows behind the used rows -/

/-- To have no specification is the same as to have an empty one. -/
theorem resolveRows_getD (spec : Option String) :
    resolveRows (spec.getD "") used count hasHeader reserve =
      resolveRows spec used count hasHeader reserve := by
  cases spec <;> rfl

theorem appendStart_eq :
    appendStart used hasHeader = max used (if hasHeader then 1 else 0) := by
  cases hasHeader <;> simp [appendStart, headerRow]

theorem toList_of_resolveRows_of_blank (blank : Text.isBlankText spec = true)
    (h : resolveRows spec used count hasHeader reserve = .ok rows) :
    rows.toList = List.range' (appendStart used hasHeader) count := by
  rw [resolveRows_of_blank blank] at h
  split at h
  · cases h
  · cases h
    rfl

theorem exists_error_of_blank_iff (blank : Text.isBlankText spec = true) :
    (∃ f, resolveRows spec used count hasHeader reserve = .error f) ↔
      0 < count ∧ maxRowIndex < appendStart used hasHeader + count - 1 := by
  rw [resolveRows_of_blank blank]
  split
  · simp only [Except.error.injEq, exists_eq', true_iff]
    omega
  · simp only [reduceCtorEq, exists_false, false_iff]
    omega

/-! ### Rows that are named -/

theorem max?_eq_iff {t : IndexSet} {greatest n : Nat} (h : t.max? = some greatest)
    (hle : ∀ i ∈ t, i ≤ n) : greatest = n ↔ n ∈ t := by
  have hmem : greatest ∈ t := List.mem_of_getLast? h
  constructor
  · rintro rfl
    exact hmem
  · intro hn
    exact Nat.le_antisymm (hle greatest hmem) (le_of_max? h n hn)

/-- The refusal of rows that are moved past the last row of the grid. -/
def pastGrid (spec : String) : Fault :=
  .refusal (.invalidIndex spec (IndexSpec.Flaw.rowPastSheet (maxRowIndex + 1)).reason none)

/-- Rows that are named are read, and moved down by one if a header comes in above them. -/
theorem resolveRows_of_named (named : Text.isBlankText spec = false) :
    resolveRows spec used count hasHeader reserve =
      IndexSpec.parse spec maxRowIndex >>= fun explicit =>
        if hasHeader && reserve then
          if maxRowIndex ∈ explicit then .error (pastGrid spec) else .ok (explicit.shift 1)
        else .ok explicit := by
  cases hspec : IndexSpec.parse spec maxRowIndex with
  | error f => simp only [resolveRows, IndexSpec.parseOptional_some, hspec, bind, Except.bind]
  | ok explicit =>
    obtain ⟨greatest, hmax⟩ := IndexSpec.exists_max_of_parse named hspec
    have hgrid : ∀ i ∈ explicit, i ≤ maxRowIndex := fun i hi =>
      Int.ofNat_le.mp (IndexSpec.le_of_parse hspec i hi)
    rw [resolveRows_of_parse hspec hmax]
    -- it is the greatest row that is checked, and one past the grid means that it was the last row
    show _ = if hasHeader && reserve then _ else _
    split
    · simp only [checkStop, ← max?_eq_iff hmax hgrid]
      have hle := hgrid greatest (List.mem_of_getLast? hmax)
      by_cases hlast : greatest = maxRowIndex
      · rw [if_pos (by omega), if_pos hlast, hlast]
        rfl
      · rw [if_neg (by omega), if_neg hlast]
        rfl
    · rfl

theorem resolveRows_eq_ok_iff (named : Text.isBlankText spec = false) :
    resolveRows spec used count hasHeader reserve = .ok rows ↔
      ∃ explicit, IndexSpec.parse spec maxRowIndex = .ok explicit ∧
        ¬(hasHeader = true ∧ reserve = true ∧ maxRowIndex ∈ explicit) ∧
        rows = if hasHeader && reserve then explicit.shift 1 else explicit := by
  rw [resolveRows_of_named named, bind_eq_ok]
  refine exists_congr fun explicit => and_congr_right fun _ => ?_
  cases hasHeader <;> cases reserve <;>
    by_cases hpast : maxRowIndex ∈ explicit <;> simp [hpast, eq_comm]

theorem resolveRows_eq_error_iff (named : Text.isBlankText spec = false) :
    resolveRows spec used count hasHeader reserve = .error f ↔
      IndexSpec.parse spec maxRowIndex = .error f ∨
        ∃ explicit, IndexSpec.parse spec maxRowIndex = .ok explicit ∧
          hasHeader = true ∧ reserve = true ∧ maxRowIndex ∈ explicit ∧ f = pastGrid spec := by
  rw [resolveRows_of_named named, bind_eq_error]
  refine or_congr_right (exists_congr fun explicit => and_congr_right fun _ => ?_)
  cases hasHeader <;> cases reserve <;>
    by_cases hpast : maxRowIndex ∈ explicit <;> simp [hpast, eq_comm]

/-! ### Rows that cannot be had -/

/-- Rows that cannot be had are refused with the specification, if it is not overlong. -/
theorem refused_of_resolveRows (short : Text.ShortRuns spec.toList)
    (h : resolveRows spec used count hasHeader reserve = .error f) :
    ∃ reason item, f = .refusal (.invalidIndex spec reason item) := by
  cases hblank : Text.isBlankText spec with
  | true =>
    rw [resolveRows_of_blank hblank] at h
    split at h
    · exact ⟨_, _, (Except.error.inj h).symm⟩
    · cases h
  | false =>
    rcases (resolveRows_eq_error_iff hblank).mp h with hparse | ⟨_, _, _, _, _, rfl⟩
    · have hread : f.kind? ≠ none := fun hnone =>
        IndexSpec.not_overlong_of_shortRuns short ((IndexSpec.overlong_iff hparse).mpr hnone)
      obtain ⟨_, _, hunread⟩ := IndexSpec.unread_of_parse hparse
      cases hunread with
      | refused flaw => exact ⟨_, _, rfl⟩
      | overlong => exact absurd rfl hread
    · exact ⟨_, _, rfl⟩

end Placement

/-! ### The row of the header -/

namespace AddRequest
variable {r : AddRequest} {d : Directory} {u : Subject} {s : Sheet} {data : Payload}
  {rows : IndexSet}

/-- The row of the header is among the rows of the data only if it was named for a sheet whose rows
are overwritten. -/
theorem mem_headerRow_iff (header : r.hasHeader = true)
    (h : Placement.resolveRows r.rows s.usedRows data.rowCount r.hasHeader (r.reservesHeader s) =
      .ok rows) :
    Placement.headerRow ∈ rows ↔ r.overwrite = true ∧ s.usedRows ≠ 0 ∧
      ∃ explicit, IndexSpec.parse r.rows maxRowIndex = .ok explicit ∧ 0 ∈ explicit := by
  cases hblank : Text.isBlankText r.rows with
  | true =>
    refine iff_of_false (fun hmem => ?_) ?_
    · rw [Placement.resolveRows_of_blank hblank, header] at h
      split at h
      · cases h
      · cases h
        have hstart := (IndexSet.mem_interval.mp hmem).1
        simp [Placement.appendStart, Placement.headerRow] at hstart
    · rintro ⟨_, _, explicit, hexplicit, hmem⟩
      rw [IndexSpec.parse_of_blank hblank] at hexplicit
      cases hexplicit
      exact absurd hmem IndexSet.not_mem_empty
  | false =>
    obtain ⟨explicit, hexplicit, _, rfl⟩ := (Placement.resolveRows_eq_ok_iff hblank).mp h
    have hreserve : r.reservesHeader s = false ↔ r.overwrite = true ∧ s.usedRows ≠ 0 := by
      simp [reservesHeader, header]
    rw [header, Bool.true_and, hexplicit, ← and_assoc, ← hreserve]
    simp only [Except.ok.injEq, exists_eq_left']
    cases r.reservesHeader s with
    | true =>
      refine iff_of_false (fun hmem => ?_) (fun hmem => Bool.noConfusion hmem.1)
      obtain ⟨j, _, hj⟩ := IndexSet.mem_shift.mp hmem
      cases hj
    | false => exact (and_iff_right rfl).symm

section Resolved
variable (hdata : Payload.parse r.rowDelimiter r.columnDelimiter r.data = .ok data)
  (h : Placement.resolveRows r.rows s.usedRows data.rowCount r.hasHeader (r.reservesHeader s) =
    .ok rows)
include hdata h

theorem plan_of_mem_headerRow (header : r.hasHeader = true) (hmem : Placement.headerRow ∈ rows) :
    r.plan s = .error headerRowTaken := by
  rw [header] at h
  simp only [plan, hdata, header]
  show (Placement.resolveRows _ _ _ _ _ >>= _) = _
  rw [h]
  exact (if_pos ⟨trivial, hmem⟩).trans rfl

/-- With its rows at hand a plan fails with an invalid input only for the row of the header. -/
theorem mem_headerRow_of_failsAs_plan (hfails : FailsAs (r.plan s) (some .invalidInput)) :
    r.hasHeader = true ∧ Placement.headerRow ∈ rows := by
  simp only [plan, hdata] at hfails
  rcases failsAs_bind_iff.mp hfails with hfails | ⟨_, hok, hfails⟩
  · exact absurd hfails not_failsAs_ok
  cases hok
  rcases failsAs_bind_iff.mp hfails with hfails | ⟨_, hrows, hfails⟩
  · rw [h] at hfails
    exact absurd hfails not_failsAs_ok
  cases h.symm.trans hrows
  rcases failsAs_ite_iff.mp hfails with ⟨htaken, _⟩ | ⟨_, hfails⟩
  · exact htaken
  rcases failsAs_bind_iff.mp hfails with hfails | ⟨_, _, hfails⟩
  · rcases Placement.failsAs_resolveColumns hfails with hfails | hkind
    · exact absurd hfails IndexSpec.not_failsAs_invalidInput
    · cases hkind
  rcases failsAs_bind_iff.mp hfails with hfails | ⟨_, _, hfails⟩
  · cases Placement.failsAs_checkFits hfails
  · exact absurd hfails not_failsAs_ok

end Resolved

/-- Data for the row of the header is what is refused once there are rows and a header. -/
theorem run_eq_headerRowTaken_iff (hu : r.subject d = .ok u)
    (hdata : Payload.parse r.rowDelimiter r.columnDelimiter r.data = .ok data)
    (header : r.hasHeader = true)
    (h : Placement.resolveRows r.rows u.sheet.usedRows data.rowCount r.hasHeader
      (r.reservesHeader u.sheet) = .ok rows) :
    r.run d = (.ofFault Stage.resolving.during headerRowTaken, d) ↔
      Placement.headerRow ∈ rows := by
  constructor
  · intro hrun
    have hcode : (r.run d).1.errorCode =
        some (FailureKind.codeOf (some .invalidInput)) := by
      rw [hrun]
      exact Outcome.errorCode_ofFault ..
    rcases errorCode_run_iff.mp hcode with hdraft | ⟨_, _, hsave⟩
    · rcases failsAs_draft_iff.mp hdraft with hsubject | ⟨u', hu', hstage⟩
      · rw [hu] at hsubject
        exact absurd hsubject not_failsAs_ok
      · cases hu.symm.trans hu'
        rcases hstage with hplan | ⟨p, hp, hopen | ⟨o, ho, hwrite⟩⟩
        · exact (mem_headerRow_of_failsAs_plan hdata h hplan).2
        -- the stages behind the plan fail in other ways
        · rcases failsAs_openTargets_any hopen with hkind | hkind <;> cases hkind
        · rcases failsAs_write_any hwrite with hkind | hkind | hkind <;> cases hkind
    · rcases Directory.failsAs_save hsave with hkind | hkind <;> cases hkind
  · intro hmem
    have hchange : r.change u.sheet = .error (.resolving, headerRowTaken) := by
      simp only [change, plan_of_mem_headerRow hdata h header hmem]
      rfl
    exact run_of_draft_error (draft_eq_error_iff.mpr (.inr ⟨u, hu, hchange⟩))

/-- **Rows.** The rows of data lie in the grid, in ascending order, or they are refused with their
specification, if that has no run of digits that is too long. Without a specification, or with a
blank one, they are as many as the data has, from behind the used rows on, or behind the header if
there are none; they are refused if the last one is past the grid. Rows that are named are those
that the specification denotes, one further down for a header that comes in above them, and neither
the sheet nor the data matters; they are refused if the specification is, or if the last row of the
grid is to move down. So where a request with a header has its rows, it is refused for row 0 just
when it overwrites rows of a sheet that is not empty and names row 0. -/
theorem resolveRows_spec (spec : Option String) (used count : Nat) (hasHeader reserve : Bool)
    (short : ∀ text, spec = some text → Text.ShortRuns text.toList) :
    ((∃ reason item, Placement.resolveRows spec used count hasHeader reserve =
        .error (.refusal (.invalidIndex (spec.getD "") reason item))) ∨
      ∃ rows, Placement.resolveRows spec used count hasHeader reserve = .ok rows ∧
        rows.toList.Pairwise (· < ·) ∧ ∀ i ∈ rows, i ≤ maxRowIndex) ∧
    ((∀ text, spec = some text → Text.isBlankText text = true) →
      (∀ rows, Placement.resolveRows spec used count hasHeader reserve = .ok rows →
        rows.toList = List.range' (max used (if hasHeader then 1 else 0)) count ∧
          ∀ i ∈ rows, used ≤ i) ∧
      ((∃ f, Placement.resolveRows spec used count hasHeader reserve = .error f) ↔
        0 < count ∧ maxRowIndex < max used (if hasHeader then 1 else 0) + count - 1)) ∧
    (∀ text, spec = some text → Text.isBlankText text = false →
      (∀ used' count', Placement.resolveRows spec used' count' hasHeader reserve =
        Placement.resolveRows spec used count hasHeader reserve) ∧
      (∀ rows, Placement.resolveRows spec used count hasHeader reserve = .ok rows →
        ∃ explicit, IndexSpec.parse text maxRowIndex = .ok explicit ∧
          rows = if hasHeader ∧ reserve then explicit.shift 1 else explicit) ∧
      ((∃ f, Placement.resolveRows spec used count hasHeader reserve = .error f) ↔
        (∃ f, IndexSpec.parse text maxRowIndex = .error f) ∨ hasHeader ∧ reserve ∧
          ∃ explicit, IndexSpec.parse text maxRowIndex = .ok explicit ∧ maxRowIndex ∈ explicit)) ∧
    ∀ (r : AddRequest) (d : Directory) (u : Subject) (data : Payload) (rows : IndexSet),
      spec = some r.rows → r.hasHeader = true → r.subject d = .ok u →
      Payload.parse r.rowDelimiter r.columnDelimiter r.data = .ok data →
      Placement.resolveRows r.rows u.sheet.usedRows data.rowCount r.hasHeader
        (r.reservesHeader u.sheet) = .ok rows →
      (r.run d = (.ofFault Stage.resolving.during headerRowTaken, d) ↔
        r.overwrite = true ∧ u.sheet.usedRows ≠ 0 ∧
          ∃ explicit, IndexSpec.parse r.rows maxRowIndex = .ok explicit ∧ 0 ∈ explicit) := by
  refine ⟨?_, fun blank => ?_, ?_, ?_⟩
  · have short : Text.ShortRuns (spec.getD "").toList := by
      cases spec with
      | none => exact Text.shortRuns_of_length (by decide)
      | some text => exact short text rfl
    rw [← Placement.resolveRows_getD spec]
    cases h : Placement.resolveRows (spec.getD "") used count hasHeader reserve with
    | error f =>
      obtain ⟨reason, item, rfl⟩ := Placement.refused_of_resolveRows short h
      exact .inl ⟨reason, item, rfl⟩
    | ok rows =>
      exact .inr ⟨rows, rfl, rows.ascending, Placement.le_of_resolveRows h⟩
  · have blank : Text.isBlankText (spec.getD "") = true := by
      cases spec with
      | none => decide
      | some text => exact blank text rfl
    rw [← Placement.appendStart_eq, ← Placement.resolveRows_getD spec]
    exact ⟨fun rows h => ⟨Placement.toList_of_resolveRows_of_blank blank h,
      Placement.le_of_resolveRows_of_blank blank h⟩, Placement.exists_error_of_blank_iff blank⟩
  · rintro text rfl named
    refine ⟨fun used' count' => ?_, fun rows h => ?_, ?_⟩
    · rw [Placement.resolveRows_of_named named, Placement.resolveRows_of_named named]
    · obtain ⟨explicit, hexplicit, _, rfl⟩ := (Placement.resolveRows_eq_ok_iff named).mp h
      exact ⟨explicit, hexplicit, by simp⟩
    · simp only [Placement.resolveRows_eq_error_iff named, exists_or]
      refine or_congr_right ?_
      constructor
      · rintro ⟨_, explicit, hexplicit, header, hreserve, hmem, _⟩
        exact ⟨header, hreserve, explicit, hexplicit, hmem⟩
      · rintro ⟨header, hreserve, explicit, hexplicit, hmem⟩
        exact ⟨_, explicit, hexplicit, header, hreserve, hmem, rfl⟩
  · intro r d u data rows _ header hu hdata h
    rw [run_eq_headerRowTaken_iff hu hdata header h, mem_headerRow_iff header h]

/-- A header and a row of data over rows of a sheet. -/
def overFirst (rows : String) : AddRequest :=
  ⟨"a.xlsx", "S", "h", "x", rows, "", "|", ",", true⟩

/-- Behind five rows two more are found. Row 0 of a sheet with two rows is refused. -/
theorem resolveRows_spec_overFirst :
    (∃ rows, Placement.resolveRows none 5 2 true true = .ok rows ∧ rows.toList = [5, 6]) ∧
    (Text.ShortRuns "0".toList ∧ Text.isBlankText "0" = false ∧
      (overFirst "0").run twoRows = (.ofFault Stage.resolving.during headerRowTaken, twoRows)) := by
  have hnamed : Text.isBlankText "0" = false := by decide
  have hshort : Text.ShortRuns "0".toList := Text.shortRuns_of_length (by decide)
  obtain ⟨_, happended, _⟩ := resolveRows_spec none 5 2 true true nofun
  obtain ⟨_, _, _, hrefused⟩ := resolveRows_spec "0" 2 1 true false
    fun _ htext => Option.some.inj htext ▸ hshort
  have hrows : Placement.resolveRows none 5 2 true true = .ok (.interval 5 2) := by rfl
  have hdata : Payload.parse "|" "," "x" = .ok ⟨[["x"]]⟩ := by rfl
  obtain ⟨u, hu, hused, hreserve⟩ : ∃ u, (overFirst "0").subject twoRows = .ok u ∧
      u.sheet.usedRows = 2 ∧ (overFirst "0").reservesHeader u.sheet = false :=
    ⟨_, rfl, by decide, by decide⟩
  have hzero : Placement.resolveRows "0" u.sheet.usedRows 1 true
      ((overFirst "0").reservesHeader u.sheet) = .ok (.interval 0 1) := by
    rw [hreserve, hused]
    rfl
  have hfirst := hrefused (overFirst "0") twoRows u _ _ rfl (by decide) hu hdata hzero
  refine ⟨⟨_, hrows, (happended nofun).1 _ hrows |>.1⟩, hshort, hnamed, ?_⟩
  exact hfirst.mpr ⟨rfl, by omega, .interval 0 1, by rfl, by decide⟩

end AddRequest

end SheetActions
