import SheetActions.Proofs.RefusedNames
import SheetActions.Proofs.Reports

/-! Breaking down on an empty delimiter.

Three texts are split: data on its way to a plan, its header when the plan is carried out, and the
names of new worksheets. Nothing else that adding data does can break down like that
(`Delimited`). So a request for data comes to the empty delimiter just when it has one and finds
its worksheet (`AddRequest.exists_draft_eq_iff`), and a request for a new workbook just when
it has one and the name of its file will do (`CreateRequest.names_eq_iff`). -/
namespace SheetActions

section Delimited
variable {α β : Type} {x : Except Fault α}

/-- A stage does not break down on the empty delimiter. -/
def Delimited (x : Except Fault α) : Prop :=
  FailsOnly (· ≠ .breakdown .emptyDelimiter) x

theorem Delimited.ne (h : Delimited x) : x ≠ .error (.breakdown .emptyDelimiter) :=
  fun hx => h _ hx rfl

theorem delimited_ok (a : α) : Delimited (.ok a : Except Fault α) := failsOnly_ok a

theorem delimited_refusal (r : Refusal) : Delimited (.error (.refusal r) : Except Fault α) :=
  failsOnly_error nofun

theorem delimited_breakdown {b : Breakdown} (h : b ≠ .emptyDelimiter) :
    Delimited (.error (.breakdown b) : Except Fault α) :=
  failsOnly_error fun heq => h (Fault.breakdown.inj heq)

/-- A stage whose failures are all foreseen. -/
theorem delimited_of_not_failsAs (h : ¬ FailsAs x none) : Delimited x := by
  intro f hf heq
  exact h ⟨f, hf, congrArg Fault.kind? heq⟩

theorem delimited_bind {g : α → Except Fault β} (hx : Delimited x) (hg : ∀ a, Delimited (g a)) :
    Delimited (x >>= g) :=
  failsOnly_bind hx hg

theorem delimited_ite {c : Prop} [Decidable c] {y : Except Fault α} (hx : Delimited x)
    (hy : Delimited y) : Delimited (if c then x else y) :=
  failsOnly_ite hx hy

/-- Work in steps of which none breaks down like that. -/
theorem delimited_run {σ : Type} {step : σ → α → Progress σ}
    (h : ∀ t a, Delimited (step t a).toExcept) (s : σ) (l : List α) :
    Delimited (Progress.run step s l).toExcept := by
  induction l generalizing s with
  | nil => exact delimited_ok s
  | cons a l ih =>
    rw [Progress.run_cons, Progress.toExcept_andThen]
    exact delimited_bind (h s a) ih

end Delimited

/-! ### Stages that do not split -/

namespace Input

theorem delimited_required {value message field : String} :
    Delimited (required value message field) :=
  delimited_ite (delimited_refusal _) (delimited_ok _)

theorem delimited_fileName (value : String) : Delimited (fileName value) := delimited_required

theorem delimited_sheetName (value : String) : Delimited (sheetName value) := delimited_required

end Input

namespace IndexSpec
variable {spec : String} {greatest : Int}

theorem delimited_parseBound {item : String} (bound : List Char) :
    Delimited (parseBound spec item greatest bound) :=
  delimited_ite (delimited_refusal _) <| delimited_ite (delimited_breakdown nofun) <|
    delimited_ite (delimited_refusal _) (delimited_ok _)

theorem delimited_parseItem (item : List Char) : Delimited (parseItem spec greatest item) := by
  refine delimited_ite (delimited_refusal _) ?_
  split
  · exact delimited_bind (delimited_parseBound _) fun _ => delimited_ok _
  · refine delimited_bind (delimited_parseBound _) fun a => ?_
    refine delimited_bind (delimited_parseBound _) fun b => ?_
    exact delimited_ite (delimited_refusal _) (delimited_ok _)
  · exact delimited_refusal _

theorem delimited_parse : Delimited (parse spec greatest) := by
  have hitems : ∀ items t, Delimited (parseItems spec greatest t items) := by
    intro items
    induction items with
    | nil => exact delimited_ok
    | cons item items ih => exact fun t => delimited_bind (delimited_parseItem _) fun _ => ih _
  exact delimited_ite (delimited_ok _) (hitems _ _)

end IndexSpec

namespace Placement
variable {spec : String} {count : Nat}

theorem delimited_checkStop (stop : Nat) : Delimited (checkStop spec stop) :=
  delimited_ite (delimited_refusal _) (delimited_ok _)

theorem delimited_resolveRows {used : Nat} {hasHeader reserve : Bool} :
    Delimited (resolveRows spec used count hasHeader reserve) := by
  refine delimited_bind IndexSpec.delimited_parse fun explicit => ?_
  split
  · split
    · exact delimited_bind (delimited_checkStop _) fun _ => delimited_ok _
    · exact delimited_ok _
  · simp only
    split
    · exact delimited_bind (delimited_checkStop _) fun _ => delimited_ok _
    · exact delimited_ok _

theorem delimited_resolveColumns : Delimited (resolveColumns spec count) := by
  refine delimited_bind IndexSpec.delimited_parse fun explicit => ?_
  exact delimited_ite (delimited_ok _) (delimited_ite (delimited_refusal _) (delimited_ok _))

theorem delimited_checkFits {data : Payload} {rows columns : IndexSet} :
    Delimited (checkFits data rows columns) :=
  delimited_ite (delimited_refusal _) (delimited_ite (delimited_refusal _) (delimited_ok _))

end Placement

namespace Sheet
variable {s : Sheet}

theorem delimited_content (v : Value) : Delimited (content v) := by
  unfold content
  split
  · exact delimited_breakdown nofun
  · exact delimited_ite (delimited_breakdown nofun) (delimited_ok _)
  · exact delimited_ok _

theorem delimited_coerce (token : String) : Delimited (coerce token) := by
  unfold coerce
  split
  · exact delimited_ok _
  · split
    · exact delimited_breakdown nofun
    · exact delimited_ok _

theorem delimited_enter {r c : Nat} {v : Value} : Delimited (s.enter r c (some v)).toExcept := by
  unfold enter
  split
  · exact delimited_breakdown nofun
  · simp only [Option.map_some]
    split
    · contradiction
    · exact delimited_ok _
    · rename_i f hf
      exact failsOnly_error (delimited_content v f (Option.some.inj hf))

theorem delimited_writeToken (overwrite : Bool) (s : Sheet) (t : Target) :
    Delimited (writeToken overwrite s t).toExcept := by
  unfold writeToken
  split
  · exact delimited_refusal _
  · split
    · exact delimited_enter
    · rename_i f hf
      exact failsOnly_error (delimited_coerce t.token f hf)

theorem delimited_writeRows {data : Payload} {rows columns : IndexSet} {overwrite : Bool} :
    Delimited (s.writeRows data rows columns overwrite).toExcept := by
  unfold writeRows
  split
  · rename_i f hf
    exact failsOnly_error (Placement.delimited_checkFits f hf)
  · exact delimited_run (delimited_writeToken overwrite) _ _

theorem delimited_openRows {rows : IndexSet} : Delimited (s.openRows rows).toExcept := by
  intro f hf
  rw [Progress.toExcept_eq_error, openRows_eq_openRuns] at hf
  rcases fault_of_openRuns hf with ⟨_, _, _, _, rfl⟩ | ⟨_, rfl⟩ <;> nofun

end Sheet

namespace Directory
variable {d : Directory} {file : String}

theorem delimited_openFailure {formats words : List String} {x : Except String Workbook} :
    Delimited (x.mapError (openFailure formats words file)) := by
  cases x with
  | ok w => exact delimited_ok w
  | error reason =>
    refine failsOnly_error fun heq => ?_
    have hkind := kind?_openFailure formats words file reason
    rw [heq] at hkind
    rcases hkind with hkind | hkind <;> cases hkind

theorem delimited_accept {formats : List String} : Delimited (d.accept formats file) := by
  refine delimited_ite (delimited_refusal _) ?_
  cases d.find (Path.ofText file) with
  | ok found => exact delimited_ok found.2
  | error flaw =>
    cases flaw with
    | nameTooLong => exact delimited_breakdown nofun
    | _ => exact delimited_refusal _

theorem delimited_openForChange : Delimited (d.openForChange file) :=
  delimited_bind delimited_accept fun _ => delimited_openFailure

end Directory

/-! ### Splitting -/

namespace Payload
variable {rowDelimiter columnDelimiter text : String}

/-- Any text has a row, so that both delimiters are used on it. -/
theorem parse_of_isEmpty (h : rowDelimiter.isEmpty = true ∨ columnDelimiter.isEmpty = true) :
    parse rowDelimiter columnDelimiter text = .error (.breakdown .emptyDelimiter) := by
  rw [parse, bind_eq_error]
  cases hrow : rowDelimiter.isEmpty with
  | true => exact .inl (split_of_isEmpty hrow text)
  | false =>
    have hcolumn : columnDelimiter.isEmpty = true := by simpa [hrow] using h
    have hsplit := split_eq hrow text
    obtain ⟨row, rows, hrows⟩ := List.exists_cons_of_ne_nil (ne_nil_of_split hsplit)
    refine .inr ⟨_, hsplit, bind_eq_error.mpr (.inl ?_)⟩
    rw [hrows, List.mapM_cons, tokens, split_of_isEmpty hcolumn]
    rfl

end Payload

/-! ### Requests -/

namespace AddRequest
variable {r : AddRequest} {d : Directory} {s : Sheet} {p : Plan}

theorem delimited_subject : Delimited (r.subject d) := by
  refine delimited_bind (Input.delimited_fileName _) fun file => ?_
  refine delimited_ite (delimited_refusal _) ?_
  refine delimited_bind (Input.delimited_sheetName _) fun name => ?_
  refine delimited_bind Directory.delimited_openForChange fun w => ?_
  refine delimited_bind (delimited_of_not_failsAs fun h => ?_) fun s => delimited_ok _
  cases Directory.failsAs_sheet h

theorem delimited_plan (hrow : r.rowDelimiter.isEmpty = false)
    (hcolumn : r.columnDelimiter.isEmpty = false) : Delimited (r.plan s) := by
  obtain ⟨data, hdata⟩ := exists_parse hrow hcolumn
  rw [plan, hdata, ok_bind]
  refine delimited_bind Placement.delimited_resolveRows fun rows => ?_
  refine delimited_ite (delimited_refusal _) ?_
  refine delimited_bind Placement.delimited_resolveColumns fun columns => ?_
  exact delimited_bind Placement.delimited_checkFits fun _ => delimited_ok _

theorem delimited_openTargets : Delimited (r.openTargets p s).toExcept := by
  unfold openTargets
  split
  · exact delimited_ok _
  · exact Sheet.delimited_openRows

theorem delimited_write (hcolumn : r.columnDelimiter.isEmpty = false) :
    Delimited (r.write p s) := by
  obtain ⟨header, hheader⟩ := headerTokens_eq_ok hcolumn
  refine delimited_bind Sheet.delimited_writeRows fun _ => ?_
  rw [hheader, ok_bind]
  exact delimited_run (Sheet.delimited_writeToken true) _ _

/-- Adding data comes to the empty delimiter just when one of the two is empty, unless the worksheet
is not found before. -/
theorem exists_draft_eq_iff : (∃ stage, r.draft d = .error (stage, .breakdown .emptyDelimiter)) ↔
    (∃ u, r.subject d = .ok u) ∧
      (r.rowDelimiter.isEmpty = true ∨ r.columnDelimiter.isEmpty = true) := by
  have hstage : (∃ stage, r.draft d = .error (stage, .breakdown .emptyDelimiter)) ↔
      (r.draft d).mapError Prod.snd = .error (.breakdown .emptyDelimiter) := by
    rcases r.draft d with ⟨stage, f⟩ | t <;> simp [Except.mapError]
  rw [hstage, mapError_draft, bind_eq_error]
  constructor
  · intro h
    rcases h with h | ⟨u, hu, h⟩
    · exact absurd h delimited_subject.ne
    · refine ⟨⟨u, hu⟩, ?_⟩
      by_contra hnot
      simp only [not_or, Bool.not_eq_true] at hnot
      refine absurd h (Delimited.ne ?_)
      refine delimited_bind (delimited_plan hnot.1 hnot.2) fun p => ?_
      exact delimited_bind delimited_openTargets fun o =>
        delimited_bind (delimited_write hnot.2) fun _ => delimited_ok _
  · intro h
    obtain ⟨⟨u, hu⟩, hempty⟩ := h
    refine .inr ⟨u, hu, ?_⟩
    rw [plan, Payload.parse_of_isEmpty hempty]
    rfl

end AddRequest

/-- Reading the names of new worksheets comes to the empty delimiter just when theirs is empty,
unless the name of the file is refused before. -/
theorem CreateRequest.names_eq_iff {r : CreateRequest} :
    r.names = .error (.breakdown .emptyDelimiter) ↔
      Text.isBlankText r.file = false ∧ r.Suffixed ∧ r.delimiter.isEmpty = true := by
  constructor
  · intro h
    rcases bind_eq_error.mp h with hfile | ⟨file, hfile, _⟩
    · exact absurd hfile (Input.delimited_fileName _).ne
    have named := (Input.required_eq_ok_iff.mp hfile).1
    by_cases hsuffix : r.Suffixed
    · refine ⟨named, hsuffix, ?_⟩
      by_contra hfilled
      rw [names_of_suffixed named hsuffix] at h
      cases hparse : SheetNames.parse r.delimiter r.sheetNames with
      | ok names =>
        rw [hparse] at h
        cases h
      | error f =>
        obtain ⟨flaw, _, rfl⟩ := (SheetNames.parse_eq_error_iff (by simpa using hfilled)).mp hparse
        rw [hparse] at h
        cases h
    · rw [names_of_not_suffixed named hsuffix] at h
      cases h
  · intro h
    obtain ⟨named, hsuffix, hempty⟩ := h
    rw [names_of_suffixed named hsuffix, SheetNames.parse, SheetNames.split,
      Payload.split_of_isEmpty hempty]
    rfl

end SheetActions
