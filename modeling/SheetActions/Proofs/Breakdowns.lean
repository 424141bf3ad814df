import SheetActions.Proofs.Failing
import SheetActions.Proofs.Outcomes

/-! When adding data breaks down.

A request that was read from a form has delimiters that are not empty
(`delimiters_of_ofJson`), so its data can always be split. What is left to break down on is
text that is handed on as it came: the digits of an index or of a token that are too many
to be read, and control characters that no cell can hold (`BreaksDown`). Everything else is a
success or a failure that has a kind (`breaksDown_iff`). -/
namespace SheetActions

/-! ### Requests from forms -/

namespace Checked
variable {α β : Type}

theorem ap_eq_valid {f : Checked (α → β)} {x : Checked α} {b : β} (h : f.ap x = .valid b) :
    ∃ g a, f = .valid g ∧ x = .valid a ∧ b = g a := by
  cases f <;> cases x <;> cases h
  exact ⟨_, _, rfl, rfl, rfl⟩

end Checked

/-- What is filled in has a property that the default and all that is checked have. -/
theorem Form.optional_ind {α : Type} {P : α → Prop} {j : Json} {name : String} {default a : α}
    {check : Json → Except Problem α} (hdefault : P default)
    (hcheck : ∀ v b, check v = .ok b → P b) (h : optional j name default check = .valid a) :
    P a := by
  unfold optional at h
  split at h
  · rename_i v _
    cases hv : check v with
    | error problem =>
      rw [hv] at h
      cases h
    | ok b =>
      rw [hv] at h
      cases h
      exact hcheck v _ hv
  · cases h
    exact hdefault

namespace Settings
variable {environment : List (String × String)} {settings : Settings}

theorem isEmpty_of_filledText {j : Json} {s : String} (h : Form.filledText j = .ok s) :
    s.isEmpty = false := by
  obtain ⟨t, _, h⟩ := bind_eq_ok.mp h
  split at h
  · obtain ⟨_, hthrow, _⟩ := bind_eq_ok.mp h
    cases hthrow
  · rename_i hfilled
    cases h
    simpa using hfilled

theorem isEmpty_of_optional {j : Json} {name default s : String}
    (hdefault : default.isEmpty = false)
    (h : Form.optional j name default Form.filledText = .valid s) : s.isEmpty = false :=
  Form.optional_ind (P := fun s => s.isEmpty = false) hdefault
    (fun _ _ hv => isEmpty_of_filledText hv) h

/-- The delimiters of the settings are not empty. -/
theorem delimiters_of_ofEnvironment (h : ofEnvironment environment = .valid settings) :
    settings.rowDelimiter.isEmpty = false ∧ settings.columnDelimiter.isEmpty = false := by
  obtain ⟨_, column, h₁, hcolumn, rfl⟩ := Checked.ap_eq_valid h
  obtain ⟨_, row, h₂, hrow, rfl⟩ := Checked.ap_eq_valid h₁
  obtain ⟨_, _, h₃, _, rfl⟩ := Checked.ap_eq_valid h₂
  obtain ⟨_, _, h₄, _, rfl⟩ := Checked.ap_eq_valid h₃
  obtain ⟨_, _, h₅, _, rfl⟩ := Checked.ap_eq_valid h₄
  obtain ⟨_, _, h₆, _, rfl⟩ := Checked.ap_eq_valid h₅
  obtain ⟨_, _, h₇, _, rfl⟩ := Checked.ap_eq_valid h₆
  cases h₇
  exact ⟨isEmpty_of_optional (by decide) hrow, isEmpty_of_optional (by decide) hcolumn⟩

end Settings

theorem Request.isEmpty_of_delimiterField {settings : Checked Settings}
    {default : Settings → String} {j : Json} {name s : String}
    (hdefault : ∀ t, settings = .valid t → (default t).isEmpty = false)
    (h : delimiterField settings default j name = .valid s) : s.isEmpty = false := by
  unfold delimiterField at h
  split at h
  · cases h
    split
    · exact hdefault _ rfl
    · rename_i hfilled
      simpa using hfilled
  · cases h
    exact hdefault _ rfl
  · cases h
    exact hdefault _ rfl
  all_goals first
    | cases h
    | split at h
      · cases h
      · rename_i hfilled
        cases h
        simpa using hfilled

section Delimiters
variable {environment : List (String × String)} {j : Json} {s : String}

theorem Request.isEmpty_of_rowDelimiterField
    (h : rowDelimiterField (Settings.ofEnvironment environment) j = .valid s) : s.isEmpty = false :=
  isEmpty_of_delimiterField (fun _ ht => (Settings.delimiters_of_ofEnvironment ht).1) h

theorem Request.isEmpty_of_columnDelimiterField
    (h : columnDelimiterField (Settings.ofEnvironment environment) j = .valid s) :
    s.isEmpty = false :=
  isEmpty_of_delimiterField (fun _ ht => (Settings.delimiters_of_ofEnvironment ht).2) h

end Delimiters

namespace AddRequest
variable {r : AddRequest} {d : Directory} {u : Subject} {s : Sheet}

/-- The delimiters of a request that was read from a form are not empty. -/
theorem delimiters_of_ofJson {environment : List (String × String)} {j : Json}
    (h : ofJson (Settings.ofEnvironment environment) j = .valid r) :
    r.rowDelimiter.isEmpty = false ∧ r.columnDelimiter.isEmpty = false := by
  obtain ⟨_, _, h₁, _, rfl⟩ := Checked.ap_eq_valid h
  obtain ⟨_, column, h₂, hcolumn, rfl⟩ := Checked.ap_eq_valid h₁
  obtain ⟨_, row, h₃, hrow, rfl⟩ := Checked.ap_eq_valid h₂
  obtain ⟨_, _, h₄, _, rfl⟩ := Checked.ap_eq_valid h₃
  obtain ⟨_, _, h₅, _, rfl⟩ := Checked.ap_eq_valid h₄
  obtain ⟨_, _, h₆, _, rfl⟩ := Checked.ap_eq_valid h₅
  obtain ⟨_, _, h₇, _, rfl⟩ := Checked.ap_eq_valid h₆
  obtain ⟨_, _, h₈, _, rfl⟩ := Checked.ap_eq_valid h₇
  obtain ⟨_, _, h₉, _, rfl⟩ := Checked.ap_eq_valid h₈
  cases h₉
  exact ⟨Request.isEmpty_of_rowDelimiterField hrow, Request.isEmpty_of_columnDelimiterField hcolumn⟩

/-! ### Data and tokens -/

/-- At delimiters that are not empty all data can be split. -/
theorem exists_parse (hrow : r.rowDelimiter.isEmpty = false)
    (hcolumn : r.columnDelimiter.isEmpty = false) :
    ∃ data, Payload.parse r.rowDelimiter r.columnDelimiter r.data = .ok data := by
  have htokens : ∀ rows : List String,
      ∃ tokens, rows.mapM (Payload.tokens r.columnDelimiter) = .ok tokens := by
    intro rows
    induction rows with
    | nil => exact ⟨[], rfl⟩
    | cons row rows ih =>
      obtain ⟨rest, hrest⟩ := ih
      rw [List.mapM_cons, Payload.tokens, Payload.split_eq hcolumn, hrest]
      exact ⟨_, rfl⟩
  obtain ⟨tokens, h⟩ := htokens _
  exact ⟨⟨tokens⟩, Payload.parse_eq_ok.mpr ⟨_, Payload.split_eq hrow r.data, h⟩⟩

/-- An integer with more digits than are read. -/
def IsOverlong (token : String) : Prop :=
  ∃ negative digits, Numeral.read? token.toList = some (.integer negative digits) ∧
    Numeral.digitLimit < digits.length

/-- A text with a control character in the part of it that a cell holds. -/
def HoldsControl (token : String) : Prop :=
  Numeral.read? token.toList = none ∧
    ∃ c ∈ token.toList.take Sheet.textLimit, Sheet.isIllegal c = true

/-- The tokens that a cell cannot take. -/
theorem contentOf?_eq_none_iff {token : String} :
    Sheet.contentOf? token = none ↔ IsOverlong token ∨ HoldsControl token := by
  simp only [Sheet.contentOf?, coerce, IsOverlong, HoldsControl]
  cases hread : Numeral.read? token.toList with
  | none =>
    simp only [reduceCtorEq, false_and, exists_false, false_or, true_and]
    show (Sheet.content (.text token)).toOption = none ↔ _
    simp only [Sheet.content, ← List.any_eq_true]
    split
    · rename_i hany
      exact iff_of_true rfl hany
    · rename_i hnone
      exact iff_of_false (Option.some_ne_none _) hnone
  | some numeral =>
    simp only [Option.some.injEq, reduceCtorEq, false_and, or_false]
    cases numeral with
    | integer negative digits =>
      simp only [Numeral.excess?]
      by_cases hlong : digits.length > Numeral.digitLimit
      · rw [if_pos hlong]
        exact iff_of_true rfl ⟨negative, digits, rfl, hlong⟩
      · rw [if_neg hlong]
        refine iff_of_false (Option.some_ne_none _) fun h => ?_
        obtain ⟨_, _, heq, h⟩ := h
        cases heq
        exact hlong h
    | decimal negative digits exponent =>
      refine iff_of_false (Option.some_ne_none _) fun h => ?_
      obtain ⟨_, _, heq, _⟩ := h
      cases heq

/-! ### Requests -/

/-- How a request for a sheet breaks down: on the rows that it names, on the columns once the rows
are known, or on a token once the sheet is ready to take it. -/
inductive BreaksDown (r : AddRequest) (s : Sheet) : Prop where
  | rows : IndexSpec.Overlong r.rows maxRowIndex → BreaksDown r s
  | columns {data : Payload} {rows : IndexSet} :
      Payload.parse r.rowDelimiter r.columnDelimiter r.data = .ok data →
      Placement.resolveRows r.rows s.usedRows data.rowCount r.hasHeader (r.reservesHeader s) =
        .ok rows →
      ¬(r.hasHeader ∧ Placement.headerRow ∈ rows) →
      IndexSpec.Overlong r.columns maxColumnIndex → BreaksDown r s
  | token {p : Plan} {o : Sheet} {header : List String} {a : Sheet.Target} :
      r.plan s = .ok p → r.openTargets p s = .done o → r.headerTokens = .ok header →
      a ∈ allTargets p header → IsOverlong a.token ∨ HoldsControl a.token → BreaksDown r s

/-- With delimiters that are not empty and columns that have names, this is how a draft breaks
down. -/
theorem failsAs_draft_none_iff (hrow : r.rowDelimiter.isEmpty = false)
    (hcolumn : r.columnDelimiter.isEmpty = false)
    (named : u.sheet.extent.columns ≤ Sheet.namedColumns) (hu : r.subject d = .ok u) :
    FailsAs ((r.draft d).mapError Prod.snd) none ↔ r.BreaksDown u.sheet := by
  obtain ⟨data, hdata⟩ := exists_parse hrow hcolumn
  obtain ⟨header, hheader⟩ := headerTokens_eq_ok hcolumn
  simp only [failsAs_draft_iff, hu, not_failsAs_ok, false_or, Except.ok.injEq, exists_eq_left']
  constructor
  · intro h
    rcases h with hplan | ⟨p, hp, hedit⟩
    · rcases (failsAs_plan_none_iff hdata).mp hplan with hrows | ⟨rows, hrows, hfree, hcolumns⟩
      · exact .rows hrows
      · exact .columns hdata hrows hfree hcolumns
    · rcases hedit with hopen | ⟨o, hopen, hwrite⟩
      · cases (failsAs_openTargets named hopen).2.2
      · obtain ⟨_, a, ha, hnone⟩ :=
          (failsAs_write_iff (placed_of_plan hp) hopen hheader).mp hwrite
        exact .token hp hopen hheader ha (contentOf?_eq_none_iff.mp hnone)
  · intro h
    cases h with
    | rows hrows => exact .inl ((failsAs_plan_none_iff hdata).mpr (.inl hrows))
    | columns hdata' hrows hfree hcolumns =>
      cases hdata.symm.trans hdata'
      exact .inl ((failsAs_plan_none_iff hdata).mpr (.inr ⟨_, hrows, hfree, hcolumns⟩))
    | token hp hopen hheader ha htoken =>
      refine .inr ⟨_, hp, .inr ⟨_, hopen, ?_⟩⟩
      exact (failsAs_write_iff (placed_of_plan hp) hopen hheader).mpr
        ⟨rfl, _, ha, contentOf?_eq_none_iff.mpr htoken⟩

/-- **Breaking down.** Of the requests that can be read from a form and that find their
worksheet, in files whose columns have names, just those that break down on digits or control
characters end with the code of a breakdown. Any other one succeeds, or it fails with the code
of a kind. -/
theorem breaksDown_iff (environment : List (String × String)) (j : Json) (r : AddRequest)
    (d : Directory) (u : Subject)
    (hr : ofJson (Settings.ofEnvironment environment) j = .valid r)
    (named : d.All fun s => s.extent.columns ≤ Sheet.namedColumns) (hu : r.subject d = .ok u) :
    ((r.run d).1.errorCode = some Outcome.internalCode ↔ r.BreaksDown u.sheet) ∧
      (¬ r.BreaksDown u.sheet → (r.run d).1.isSuccess = true ∨
        ∃ kind : FailureKind, (r.run d).1.errorCode = some kind.code) := by
  obtain ⟨hrow, hcolumn⟩ := delimiters_of_ofJson hr
  have found := found_of_subject hu
  have hnamed : u.sheet.extent.columns ≤ Sheet.namedColumns :=
    (Directory.All.openForChange (Q := fun s => s.extent.columns ≤ Sheet.namedColumns) named
      (Nat.zero_le _) (fun _ h => h) found.opened).sheet? found.sheet
  have hiff : (r.run d).1.errorCode = some Outcome.internalCode ↔ r.BreaksDown u.sheet := by
    rw [← failsAs_draft_none_iff hrow hcolumn hnamed hu]
    refine (errorCode_run_iff (k := none)).trans (or_iff_left ?_)
    intro h
    obtain ⟨t, _, hsave⟩ := h
    rcases Directory.failsAs_save hsave with hkind | hkind <;> cases hkind
  refine ⟨hiff, fun hnot => ?_⟩
  rcases isSuccess_or_errorCode r d with hsuccess | ⟨_ | kind, hcode⟩
  · exact .inl hsuccess
  · exact absurd (hiff.mp hcode) hnot
  · exact .inr ⟨kind, hcode⟩

/-- The form for one token in the file of one cell. -/
def formOf (token : String) : Json :=
  .object [("excel_file_name", .text "b.xlsx"), ("worksheet_name", .text "S"),
    ("row_data", .text token)]

theorem ofJson_formOf (token : String) :
    ofJson (Settings.ofEnvironment []) (formOf token) = .valid (single token) := by
  rfl

theorem named_oneCell : oneCell.All fun s => s.extent.columns ≤ Sheet.namedColumns := by
  refine Directory.all_ofFile fun e he => ?_
  obtain rfl := List.mem_singleton.mp he
  decide

/-- A number is added to the file of one cell without a breakdown. -/
theorem breaksDown_iff_single :
    ofJson (Settings.ofEnvironment []) (formOf "1") = .valid (single "1") ∧
      (oneCell.All fun s => s.extent.columns ≤ Sheet.namedColumns) ∧
      ∃ u, (single "1").subject oneCell = .ok u ∧ ¬ (single "1").BreaksDown u.sheet := by
  have hsuccess : ((single "1").run oneCell).1.isSuccess = true := by decide +kernel
  have hcode : ((single "1").run oneCell).1.errorCode = none := by decide +kernel
  obtain ⟨t, ht, _⟩ := isSuccess_iff.mp hsuccess
  have hu := (draft_eq_ok_iff.mp ht).1
  refine ⟨ofJson_formOf "1", named_oneCell, t.subject, hu, fun h => ?_⟩
  have hiff := breaksDown_iff [] (formOf "1") (single "1") oneCell t.subject (ofJson_formOf "1")
    named_oneCell hu
  have hinternal := hiff.1.mpr h
  rw [hcode] at hinternal
  cases hinternal

/-- A text with a control character does break down. -/
theorem internalCode_control :
    ofJson (Settings.ofEnvironment []) (formOf "a\u0001b") = .valid (single "a\u0001b") ∧
      (oneCell.All fun s => s.extent.columns ≤ Sheet.namedColumns) ∧
      (∃ u, (single "a\u0001b").subject oneCell = .ok u) ∧
      ((single "a\u0001b").run oneCell).1.errorCode = some Outcome.internalCode :=
  ⟨ofJson_formOf _, named_oneCell, ⟨_, rfl⟩, by decide +kernel⟩

end AddRequest

end SheetActions
