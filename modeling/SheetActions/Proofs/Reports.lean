import SheetActions.Proofs.Failing
import SheetActions.Proofs.Outcomes
import SheetActions.Proofs.Sending
import SheetActions.Tool.Call

/-!
The two shapes of an outcome.

Every request for an action ends in one of two ways (`Request.two_shapes`). It succeeds, and the
outcome has no diagnostic text and no code; or a fault ends it, and the outcome says so in a text
that is not empty, has a diagnostic text that starts with the name of a class of errors, and has a
code that the table of statuses knows. An agent and a caller over HTTP are told the same of it, as
long as the reply can be sent: a text of it may not hold a surrogate without its partner
(`Request.unanswered_loneSurrogate`).

What a fault says is its own for all kinds but one: a refused input brings its message along. So
a stage `Speaks` if it never fails as a refused input (`speaks_of_not_failsAs`), and only the few
stages that refuse inputs have their messages looked at. -/
namespace SheetActions

/-! ### What a fault says -/

/-- The text that a caller is told. -/
def Fault.told : Fault → String
  | .refusal r => r.message
  | .breakdown b => "Unexpected error: " ++ b.message

theorem Text.append_ne_empty_left {s : String} (h : s ≠ "") (t : String) : s ++ t ≠ "" :=
  fun happend => h (String.append_eq_empty_iff.mp happend).1

theorem Text.append_ne_empty_right {t : String} (h : t ≠ "") (s : String) : s ++ t ≠ "" :=
  fun happend => h (String.append_eq_empty_iff.mp happend).2

open Text in
/-- Only a refused input could leave its message out: any other one has words around what it is
about. -/
theorem Refusal.message_ne_empty {r : Refusal} (h : r.kind ≠ .invalidInput) : r.message ≠ "" := by
  cases r with
  | input => exact absurd rfl h
  | fileNotFound => exact append_ne_empty_left (by decide) _
  | sheetNotFound => exact append_ne_empty_right (by decide) _
  | doesNotFit => exact append_ne_empty_right (by decide) _
  | invalidFormat => exact append_ne_empty_left (append_ne_empty_right (by decide) _) _
  | invalidIndex => exact append_ne_empty_left (append_ne_empty_left (by decide) _) _
  | shiftFailure | readFailure | writeFailure =>
    exact append_ne_empty_left (append_ne_empty_left (append_ne_empty_right (by decide) _) _) _
  | permissionDenied => exact append_ne_empty_left (append_ne_empty_right (by decide) _) _

theorem Fault.told_ne_empty {f : Fault} (h : f.kind? ≠ some .invalidInput) : f.told ≠ "" := by
  cases f with
  | breakdown b => exact Text.append_ne_empty_left (by decide) _
  | refusal r => exact Refusal.message_ne_empty fun hkind => h (congrArg some hkind)

/-- Every code that a caller can be told has a status. -/
theorem Fault.exists_status (f : Fault) :
    ∃ status, statusTable.lookup (FailureKind.codeOf f.kind?) = some status := by
  cases f with
  | breakdown => exact ⟨500, rfl⟩
  | refusal r => cases r <;> exact ⟨_, rfl⟩

/-- The names of the classes of errors, by the codes that tell of them. -/
def classNames : List (String × List String) :=
  [("VALIDATION_ERROR", ["ValidationError"]), ("INVALID_RANGE", ["InvalidRangeError"]),
   ("INDEX_OUT_OF_RANGE", ["IndexOutOfRangeError"]),
   ("INVALID_FILE_FORMAT", ["InvalidFileFormatError"]), ("FILE_NOT_FOUND", ["FileNotFoundError"]),
   ("SHEET_NOT_FOUND", ["SheetNotFoundError"]), ("PERMISSION_DENIED", ["PermissionError"]),
   ("SHIFT_FAILURE", ["ShiftFailureError"]), ("READ_ERROR", ["ReadError"]),
   ("WRITE_ERROR", ["WriteError"]),
   ("INTERNAL_ERROR", ["ValueError", "IndexError", "IllegalCharacterError", "OSError",
     "UnicodeEncodeError", "FileNotFoundError", "FileExistsError", "NotADirectoryError",
     "IsADirectoryError", "PermissionError"])]

/-- The label of a fault is the name of a class that its code tells of. -/
theorem Fault.exists_classNames (f : Fault) : ∃ names,
    classNames.lookup (FailureKind.codeOf f.kind?) = some names ∧ f.label ∈ names := by
  cases f with
  | refusal r => cases r <;> exact ⟨_, rfl, List.mem_singleton_self _⟩
  | breakdown b =>
    refine ⟨_, rfl, ?_⟩
    cases b with
    | badPath path flaw =>
      cases flaw <;> simp [label, Breakdown.label, PathFlaw.label, Text.SurrogateRun.label]
    | _ => simp [label, Breakdown.label]

/-! ### Shapes -/

namespace Outcome

/-- The shape of success. -/
structure Succeeds (o : Outcome) : Prop where
  returnCode : o.returnCode = "0"
  exception : o.exception = ""
  errorCode : o.errorCode = none

/-- The shape of a failure that a fault caused. -/
structure FailsWith (o : Outcome) (f : Fault) : Prop where
  returnCode : o.returnCode = "-1"
  returnResult : o.returnResult = f.told
  told : f.told ≠ ""
  exception : ∃ names rest, classNames.lookup (FailureKind.codeOf f.kind?) = some names ∧
    f.label ∈ names ∧ o.exception = f.label ++ rest
  outputs : o.outputs = []
  errorCode : o.errorCode = some (FailureKind.codeOf f.kind?)
  status : statusTable.lookup (FailureKind.codeOf f.kind?) = some o.status

theorem succeeds_succeeded (result : String) (outputs : List (String × String)) :
    (succeeded result outputs).Succeeds :=
  ⟨rfl, rfl, rfl⟩

theorem failsWith_ofFault {f : Fault} (h : f.told ≠ "") (during : String) :
    (ofFault during f).FailsWith f where
  returnCode := returnCode_ofFault during f
  returnResult := by cases f <;> rfl
  told := h
  exception := by
    obtain ⟨names, hnames, hlabel⟩ := f.exists_classNames
    refine ⟨names, during ++ ": " ++ f.message, hnames, hlabel, ?_⟩
    cases f <;> simp [ofFault, failed, String.append_assoc]
  outputs := by cases f <;> rfl
  errorCode := errorCode_ofFault during f
  status := by
    obtain ⟨status, hstatus⟩ := f.exists_status
    rw [Outcome.status, isSuccess_ofFault, errorCode_ofFault, Option.getD_some, hstatus]
    rfl

/-- An outcome has at most one of the shapes. -/
theorem Succeeds.not_failsWith {o : Outcome} (h : o.Succeeds) : ¬ ∃ f, o.FailsWith f := by
  rintro ⟨f, hf⟩
  have hcodes := h.returnCode.symm.trans hf.returnCode
  exact absurd hcodes (by decide)

end Outcome

/-! ### Stages that speak -/

section Speaks
variable {α β σ : Type} {x : Except Fault α}

/-- A stage that fails tells why. -/
def Speaks (x : Except Fault α) : Prop :=
  ∀ f, x = .error f → f.told ≠ ""

theorem speaks_of_not_failsAs (h : ¬ FailsAs x (some .invalidInput)) : Speaks x :=
  fun f hf => f.told_ne_empty fun hkind => h ⟨f, hf, hkind⟩

theorem speaks_ok (a : α) : Speaks (.ok a : Except Fault α) := failsOnly_ok a

theorem speaks_error {f : Fault} (h : f.told ≠ "") : Speaks (.error f : Except Fault α) :=
  failsOnly_error h

theorem speaks_bind {g : α → Except Fault β} (hx : Speaks x) (hg : ∀ a, Speaks (g a)) :
    Speaks (x >>= g) :=
  failsOnly_bind hx hg

theorem speaks_ite {c : Prop} [Decidable c] {y : Except Fault α} (hx : Speaks x) (hy : Speaks y) :
    Speaks (if c then x else y) :=
  failsOnly_ite hx hy

end Speaks

namespace Input

theorem speaks_required {value message field : String} (h : message ≠ "") :
    Speaks (required value message field) :=
  speaks_ite (speaks_error h) (speaks_ok _)

theorem speaks_fileName (value : String) : Speaks (fileName value) :=
  speaks_required (by decide)

theorem speaks_sheetName (value : String) : Speaks (sheetName value) :=
  speaks_required (by decide)

end Input

/-! ### How stages fail -/

variable {k : Option FailureKind}

namespace Directory
variable {d : Directory} {file : String}

theorem failsAs_accept {formats : List String} (h : FailsAs (d.accept formats file) k) :
    k = none ∨ k = some .fileNotFound ∨ k = some .invalidFormat := by
  simp only [accept] at h
  rcases failsAs_ite_iff.mp h with ⟨_, h⟩ | ⟨_, h⟩
  · exact .inr (.inr (failsAs_error_iff.mp h).symm)
  · split at h
    · exact absurd h not_failsAs_ok
    · exact .inl (failsAs_error_iff.mp h).symm
    · exact .inr (.inl (failsAs_error_iff.mp h).symm)

theorem kind?_openFailure (formats words : List String) (file reason : String) :
    (openFailure formats words file reason).kind? = some .invalidFormat ∨
      (openFailure formats words file reason).kind? = some .readFailure := by
  unfold openFailure
  split
  · exact .inl rfl
  · exact .inr rfl

/-- How a workbook is not opened. -/
def OpenFailure (k : Option FailureKind) : Prop :=
  k = none ∨ k = some .fileNotFound ∨ k = some .invalidFormat ∨ k = some .readFailure

theorem openFailure_of_mapError {formats words : List String} {x : Except String Workbook}
    (h : FailsAs (x.mapError (openFailure formats words file)) k) : OpenFailure k := by
  cases x with
  | ok => exact absurd h not_failsAs_ok
  | error reason =>
    have hk := failsAs_error_iff.mp h
    rcases kind?_openFailure formats words file reason with hkind | hkind
    · exact .inr (.inr (.inl (hk.symm.trans hkind)))
    · exact .inr (.inr (.inr (hk.symm.trans hkind)))

theorem openFailure_of_accept {formats : List String} (h : FailsAs (d.accept formats file) k) :
    OpenFailure k :=
  (failsAs_accept h).imp_right (Or.imp_right Or.inl)

theorem failsAs_openForChange (h : FailsAs (d.openForChange file) k) : OpenFailure k := by
  rcases failsAs_bind_iff.mp h with h | ⟨_, _, h⟩
  · exact openFailure_of_accept h
  · exact openFailure_of_mapError h

theorem failsAs_openForReading (h : FailsAs (d.openForReading file) k) : OpenFailure k := by
  rcases failsAs_bind_iff.mp h with h | ⟨_, _, h⟩
  · exact openFailure_of_accept h
  · exact openFailure_of_mapError h

theorem OpenFailure.ne_invalidInput (h : OpenFailure k) : k ≠ some .invalidInput := by
  rcases h with rfl | rfl | rfl | rfl <;> simp

theorem failsAs_sheet {w : Workbook} {name : String} (h : FailsAs (w.sheet name) k) :
    k = some .sheetNotFound := by
  unfold Workbook.sheet at h
  split at h
  · exact absurd h not_failsAs_ok
  · exact (failsAs_error_iff.mp h).symm

theorem failsAs_read {name : String} (h : FailsAs (d.read file name) k) :
    OpenFailure k ∨ k = some .sheetNotFound := by
  rcases failsAs_bind_iff.mp h with h | ⟨w, _, h⟩
  · exact .inl (failsAs_openForReading h)
  rcases failsAs_bind_iff.mp h with h | ⟨s, _, h⟩
  · exact .inr (failsAs_sheet h)
  simp only at h
  split at h
  · exact .inl (.inr (.inr (.inr (failsAs_error_iff.mp h).symm)))
  · exact absurd h not_failsAs_ok

theorem failsAs_isPresent {p : Path} (h : FailsAs (d.isPresent p) k) : k = none := by
  unfold isPresent at h
  split at h
  · exact absurd h not_failsAs_ok
  · exact (failsAs_error_iff.mp h).symm
  · exact absurd h not_failsAs_ok

theorem failsAs_settle {p : Path} {flaw : PathFlaw}
    (h : FailsAs (settle file p d flaw).toExcept k) :
    k = none ∨ k = some .writeFailure ∨ k = some .permissionDenied := by
  unfold settle at h
  split at h
  · exact absurd h not_failsAs_ok
  · have hk := failsAs_error_iff.mp h
    unfold folderFault at hk
    split at hk
    · exact .inl hk.symm
    · split at hk
      · exact .inr (.inr hk.symm)
      · exact .inr (.inl hk.symm)

theorem failsAs_makeFolders {components : List String}
    (h : FailsAs (makeFolders file d components).toExcept k) :
    k = none ∨ k = some .writeFailure ∨ k = some .permissionDenied := by
  induction components generalizing d with
  | nil => exact absurd h not_failsAs_ok
  | cons component before ih =>
    simp only [makeFolders] at h
    split at h
    · exact absurd h not_failsAs_ok
    · rw [Progress.toExcept_andThen] at h
      rcases failsAs_bind_iff.mp h with h | ⟨_, _, h⟩
      · exact ih h
      · split at h
        · exact absurd h not_failsAs_ok
        · exact failsAs_settle h
    · exact failsAs_settle h

theorem failsAs_ensureFolder (h : FailsAs (d.ensureFolder file).toExcept k) :
    k = none ∨ k = some .writeFailure ∨ k = some .permissionDenied := by
  unfold ensureFolder at h
  extract_lets folder at h
  split at h
  · rename_i f hf
    exact .inl (failsAs_isPresent ⟨f, hf, failsAs_error_iff.mp h⟩)
  · exact absurd h not_failsAs_ok
  · exact failsAs_makeFolders h

theorem failsAs_requireAccess (h : FailsAs (requireAccess file d).toExcept k) :
    k = some .permissionDenied := by
  unfold requireAccess at h
  split at h
  · exact absurd h not_failsAs_ok
  · exact (failsAs_error_iff.mp h).symm

theorem failsAs_prepare (h : FailsAs (d.prepare file).toExcept k) :
    k = none ∨ k = some .writeFailure ∨ k = some .permissionDenied := by
  unfold prepare at h
  split at h
  · rename_i f hf
    exact .inl (failsAs_isPresent ⟨f, hf, failsAs_error_iff.mp h⟩)
  · exact .inr (.inl (failsAs_error_iff.mp h).symm)
  · rw [Progress.toExcept_andThen] at h
    rcases failsAs_bind_iff.mp h with h | ⟨_, _, h⟩
    · exact failsAs_ensureFolder h
    · exact .inr (.inr (failsAs_requireAccess h))

/-- A workbook that is not created was not written, or was not permitted to be, or its path cannot
be followed. -/
theorem failsAs_create {names : List String} (h : FailsAs (d.create file names).toExcept k) :
    k = none ∨ k = some .writeFailure ∨ k = some .permissionDenied := by
  unfold create at h
  rw [Progress.toExcept_andThen] at h
  rcases failsAs_bind_iff.mp h with h | ⟨_, _, h⟩
  · exact failsAs_prepare h
  · split at h
    · exact .inr (.inl (failsAs_error_iff.mp h).symm)
    · exact .inr (failsAs_store h)

end Directory

theorem failsAs_numberOf {text : String} (h : FailsAs (numberOf text) k) : k = none :=
  Sheet.failsAs_coerce (failsAs_map_iff.mp h)

/-- A search ends early only at a cell that it breaks down on. -/
theorem Reading.failsAs_search {v : Reading} {criterion : Criterion} {c : Comparison}
    {column : Nat} {rows : List Nat} (h : FailsAs (v.search criterion c column rows) k) :
    k = none := by
  simp only [search] at h
  split at h
  · rename_i f hf
    obtain ⟨row, _, hrow⟩ := List.exists_of_findSome?_eq_some hf
    split at hrow
    · rename_i hg
      cases hrow
      have hadmits : FailsAs (criterion.admits c (v.cell row column)) k :=
        ⟨f, hg, failsAs_error_iff.mp h⟩
      rcases failsAs_bind_iff.mp hadmits with hnumber | ⟨_, _, hverdict⟩
      · unfold Criterion.cellNumber at hnumber
        split at hnumber
        · exact absurd hnumber not_failsAs_ok
        · exact failsAs_numberOf hnumber
      · split at hverdict
        · exact absurd hverdict not_failsAs_ok
        · exact absurd hverdict not_failsAs_ok
    · cases hrow
  · exact absurd h not_failsAs_ok

/-! ### Actions that speak -/

namespace IndexSpec
variable {spec : String} {greatest : Int}

theorem speaks_parse : Speaks (parse spec greatest) :=
  speaks_of_not_failsAs not_failsAs_invalidInput

end IndexSpec

namespace Placement
variable {spec : String}

theorem speaks_resolveRows {used count : Nat} {hasHeader reserve : Bool} :
    Speaks (resolveRows spec used count hasHeader reserve) := by
  refine speaks_of_not_failsAs fun h => ?_
  rcases failsAs_resolveRows h with h | h
  · exact IndexSpec.not_failsAs_invalidInput h
  · cases h

theorem speaks_resolveColumns {count : Nat} : Speaks (resolveColumns spec count) := by
  refine speaks_of_not_failsAs fun h => ?_
  rcases failsAs_resolveColumns h with h | h
  · exact IndexSpec.not_failsAs_invalidInput h
  · cases h

theorem speaks_checkFits {data : Payload} {rows columns : IndexSet} :
    Speaks (checkFits data rows columns) := by
  refine speaks_of_not_failsAs fun h => ?_
  cases failsAs_checkFits h

end Placement

namespace AddRequest
variable {r : AddRequest} {d : Directory}

theorem speaks_subject : Speaks (r.subject d) := by
  refine speaks_bind (Input.speaks_fileName _) fun file => ?_
  refine speaks_ite (speaks_error (by decide)) ?_
  refine speaks_bind (Input.speaks_sheetName _) fun name => ?_
  refine speaks_bind (speaks_of_not_failsAs fun h => ?_) fun w => ?_
  · exact (Directory.failsAs_openForChange h).ne_invalidInput rfl
  refine speaks_bind (speaks_of_not_failsAs fun h => ?_) fun s => speaks_ok _
  cases Directory.failsAs_sheet h

theorem speaks_plan {s : Sheet} : Speaks (r.plan s) := by
  refine speaks_bind (speaks_of_not_failsAs fun h => ?_) fun data => ?_
  · cases Payload.failsAs_parse h
  refine speaks_bind Placement.speaks_resolveRows fun rows => ?_
  refine speaks_ite (speaks_error (by decide)) ?_
  refine speaks_bind Placement.speaks_resolveColumns fun columns => ?_
  exact speaks_bind Placement.speaks_checkFits fun _ => speaks_ok _

theorem speaks_openTargets {p : Plan} {s : Sheet} : Speaks (r.openTargets p s).toExcept := by
  refine speaks_of_not_failsAs fun h => ?_
  rcases failsAs_openTargets_any h with h | h <;> cases h

theorem speaks_write {p : Plan} {s : Sheet} : Speaks (r.write p s) := by
  refine speaks_of_not_failsAs fun h => ?_
  rcases failsAs_write_any h with h | h | h <;> cases h

theorem speaks_draft : Speaks ((r.draft d).mapError Prod.snd) := by
  rw [mapError_draft]
  refine speaks_bind speaks_subject fun u => ?_
  refine speaks_bind speaks_plan fun p => ?_
  refine speaks_bind speaks_openTargets fun o => ?_
  exact speaks_bind speaks_write fun e => speaks_ok _

/-- Adding data succeeds, or a fault that speaks ends it. -/
theorem succeeds_or_failsWith (r : AddRequest) (d : Directory) :
    (r.run d).1.Succeeds ∨ ∃ f, (r.run d).1.FailsWith f := by
  cases ht : r.draft d with
  | error cause =>
    have htold : cause.2.told ≠ "" := speaks_draft (r := r) (d := d) _ (by rw [ht]; rfl)
    have hrun : r.run d = (.ofFault cause.1.during cause.2, d) := by simp only [run, ht]
    rw [hrun]
    exact .inr ⟨_, Outcome.failsWith_ofFault htold _⟩
  | ok t =>
    rcases hsave : d.save t.subject.file t.workbook with ⟨d', _ | f⟩
    · rw [run_of_done ht hsave]
      exact .inl (Outcome.succeeds_succeeded _ _)
    · have hfails : FailsAs (d.save t.subject.file t.workbook).toExcept f.kind? :=
        ⟨f, by rw [hsave]; rfl, rfl⟩
      have htold : f.told ≠ "" := by
        refine f.told_ne_empty ?_
        rcases Directory.failsAs_save hfails with h | h <;> rw [h] <;> decide
      rw [run_of_stopped ht hsave]
      exact .inr ⟨f, Outcome.failsWith_ofFault htold _⟩

end AddRequest

namespace ReadRequest
variable {r : ReadRequest} {d : Directory}

theorem speaks_reading : Speaks (r.reading d) := by
  refine speaks_bind (Input.speaks_fileName _) fun file => ?_
  refine speaks_bind (Input.speaks_sheetName _) fun name => ?_
  refine speaks_of_not_failsAs fun h => ?_
  rcases Directory.failsAs_read h with h | h
  · exact h.ne_invalidInput rfl
  · cases h

theorem speaks_answer {v : Reading} : Speaks (r.answer v) := by
  refine speaks_bind ?_ fun rows => speaks_bind ?_ fun columns => speaks_ok _
  · exact speaks_bind IndexSpec.speaks_parse fun explicit => speaks_ite (speaks_ok _) (speaks_ok _)
  · exact speaks_bind IndexSpec.speaks_parse fun explicit => speaks_ite (speaks_ok _) (speaks_ok _)

theorem succeeds_or_failsWith (r : ReadRequest) (d : Directory) :
    (r.run d).Succeeds ∨ ∃ f, (r.run d).FailsWith f := by
  unfold run
  split
  · rename_i o ho
    obtain ⟨v, _, ho⟩ := bind_eq_ok.mp ho
    obtain ⟨rows, _, ho⟩ := bind_eq_ok.mp ho
    obtain ⟨columns, _, ho⟩ := bind_eq_ok.mp ho
    cases ho
    exact .inl (Outcome.succeeds_succeeded _ _)
  · rename_i f hf
    have htold : f.told ≠ "" := speaks_bind speaks_reading (fun v => speaks_answer) f hf
    exact .inr ⟨f, Outcome.failsWith_ofFault htold _⟩

end ReadRequest

namespace SearchRequest
variable {r : SearchRequest} {d : Directory}

theorem speaks_found : Speaks (r.found d) := by
  refine speaks_bind (Input.speaks_fileName _) fun file => ?_
  refine speaks_bind (Input.speaks_sheetName _) fun name => ?_
  refine speaks_bind ?_ fun column => ?_
  · unfold requiredColumn
    split
    · exact speaks_ok _
    · exact speaks_error (by decide)
  refine speaks_bind ?_ fun criterion => ?_
  · refine speaks_bind (speaks_bind (speaks_of_not_failsAs fun h => ?_) fun _ => speaks_ok _) ?_
    · cases failsAs_numberOf h
    · intro criterion
      refine speaks_ite (speaks_bind (speaks_error ?_) fun _ => speaks_ok _) (speaks_ok _)
      exact Text.append_ne_empty_right (by decide) _
  refine speaks_bind (speaks_of_not_failsAs fun h => ?_) fun v => ?_
  · rcases Directory.failsAs_read h with h | h
    · exact h.ne_invalidInput rfl
    · cases h
  refine speaks_of_not_failsAs fun h => ?_
  cases Reading.failsAs_search h

theorem succeeds_or_failsWith (r : SearchRequest) (d : Directory) :
    (r.run d).Succeeds ∨ ∃ f, (r.run d).FailsWith f := by
  unfold run
  split
  · exact .inl (Outcome.succeeds_succeeded _ _)
  · rename_i f hf
    exact .inr ⟨f, Outcome.failsWith_ofFault (speaks_found f hf) _⟩

end SearchRequest

namespace SheetNames

theorem Flaw.message_ne_empty (flaw : Flaw) : flaw.message ≠ "" := by
  cases flaw with
  | noName => decide
  | tooLong | reservedCharacter | repeated => exact Text.append_ne_empty_right (by decide) _

theorem speaks_parse (delimiter text : String) : Speaks (parse delimiter text) := by
  refine speaks_bind (speaks_of_not_failsAs fun h => ?_) fun names => ?_
  · cases Payload.failsAs_split (failsAs_map_iff.mp h)
  · split
    · exact speaks_ok _
    · exact speaks_error (Flaw.message_ne_empty _)

end SheetNames

namespace CreateRequest
variable {r : CreateRequest} {d : Directory}

theorem speaks_names : Speaks r.names := by
  refine speaks_bind (Input.speaks_fileName _) fun file => ?_
  refine speaks_ite (speaks_of_not_failsAs fun h => ?_) ?_
  · cases failsAs_error_iff.mp h
  · exact speaks_bind (SheetNames.speaks_parse _ _) fun sheets => speaks_ok _

theorem succeeds_or_failsWith (r : CreateRequest) (d : Directory) :
    (r.run d).1.Succeeds ∨ ∃ f, (r.run d).1.FailsWith f := by
  unfold run
  split
  · rename_i f hf
    exact .inr ⟨f, Outcome.failsWith_ofFault (speaks_names f hf) _⟩
  · rename_i file sheets _
    simp only
    split
    · rename_i f hf
      have hfails : FailsAs (d.create file sheets).toExcept f.kind? := by
        refine ⟨f, ?_, rfl⟩
        rw [Progress.toExcept, hf]
      have htold : f.told ≠ "" := by
        refine f.told_ne_empty ?_
        rcases Directory.failsAs_create hfails with h | h | h <;> rw [h] <;> decide
      exact .inr ⟨f, Outcome.failsWith_ofFault htold _⟩
    · exact .inl (Outcome.succeeds_succeeded _ _)

end CreateRequest

/-! ### All actions -/

theorem Request.succeeds_or_failsWith (r : Request) (d : Directory) :
    (r.run d).1.Succeeds ∨ ∃ f, (r.run d).1.FailsWith f := by
  cases r with
  | add r | read r | search r | create r =>
    simp only [run]
    exact r.succeeds_or_failsWith d

/-- The path of an action leads to it. -/
theorem Http.Route.ofPath?_path (a : Action) : ofPath? (action a).path = some (.action a) := by
  have hat : atPath? (action a).path = some (.action a) := by
    cases a <;> simp [atPath?, all, path, Action.all]
  rw [ofPath?, hat]
  rfl

section Callers
variable {settings : Checked Settings} {a : Action} {fields : List (String × Json)} {r : Request}
  (h : Request.ofJson settings a (.object fields) = .valid r)
include h

/-- An agent is given the outcome. -/
theorem Tool.execute_of_valid (d : Directory) :
    execute settings d a.name (.object fields) = (.done (r.run d).1, (r.run d).2) := by
  simp only [execute, Action.ofName?_name, h, Checked.toExcept]

/-- A caller over HTTP is given the outcome, if it can be sent. -/
theorem Http.answer_of_valid (d : Directory) {body : Body}
    (hbody : body.arrived = .ok (some (.object fields))) :
    answer settings true d "POST" (Route.action a).path body =
      ((Reply.ofOutcome (r.run d).1).send, (r.run d).2) := by
  have hread : readRequest settings a (some (.object fields)) = .ok r := by
    simp only [readRequest, h, Checked.toExcept, mapError_ok]
  simp only [answer, Route.ofPath?_path, act, hbody, hread]
  rfl

end Callers

namespace Outcome
variable {o : Outcome} {f : Fault} (h : o.FailsWith f)
include h

/-- An agent is told of a failure by its code and its text. -/
theorem FailsWith.error_of_toolReply : ∃ details,
    (Tool.Reply.done o).toJson.field? "error" =
      some (.object ([("error_code", .text (FailureKind.codeOf f.kind?)), ("message", .text f.told)]
        ++ details)) := by
  have hfailed : o.isSuccess = false := by
    rw [isSuccess, h.returnCode]
    rfl
  refine ⟨[("details", textsToJson o.flattened)], ?_⟩
  simp only [Tool.Reply.toJson, hfailed, h.errorCode, h.returnResult]
  rfl

/-- A caller over HTTP is told of a failure by the same code and text. -/
theorem FailsWith.fields_of_httpReply :
    (Http.Reply.ofOutcome o).body.field? "errorCode" =
        some (.text (FailureKind.codeOf f.kind?)) ∧
      (Http.Reply.ofOutcome o).body.field? "returnResult" = some (.text f.told) := by
  simp only [Http.Reply.ofOutcome, toJson, h.errorCode, h.returnResult]
  exact ⟨rfl, rfl⟩

end Outcome

namespace Request

/-- **Two shapes.** A request always ends, in just one of the two shapes. Read from the same fields,
it has this outcome for an agent and over HTTP, and both are told of a failure by the same code
and the same text. Over HTTP this takes that all texts of the outcome can be encoded; else there is
an error in place of the reply. -/
theorem two_shapes (r : Request) (d : Directory) :
    Xor (r.run d).1.Succeeds (∃ f, (r.run d).1.FailsWith f) ∧
      ∀ (settings : Checked Settings) (a : Action) (fields : List (String × Json))
        (body : Http.Body),
        ofJson settings a (.object fields) = .valid r → body.arrived = .ok (some (.object fields)) →
          Tool.execute settings d a.name (.object fields) = (.done (r.run d).1, (r.run d).2) ∧
          Http.answer settings true d "POST" (Http.Route.action a).path body =
            ((Http.Reply.ofOutcome (r.run d).1).send, (r.run d).2) ∧
          ((Http.Reply.ofOutcome (r.run d).1).send = .ok (.ofOutcome (r.run d).1) ↔
            (r.run d).1.IsEncodable) ∧
          (¬ (r.run d).1.IsEncodable → ∃ run,
            (Http.Reply.ofOutcome (r.run d).1).send = .error (.notEncodable run)) ∧
          ∀ f, (r.run d).1.FailsWith f → ∃ e code,
            (Tool.Reply.done (r.run d).1).toJson.field? "error" = some e ∧
              e.field? "error_code" = some (.text code) ∧ e.field? "message" = some (.text f.told) ∧
              (Http.Reply.ofOutcome (r.run d).1).body.field? "errorCode" = some (.text code) ∧
              (Http.Reply.ofOutcome (r.run d).1).body.field? "returnResult" =
                some (.text f.told) := by
  refine ⟨?_, fun settings a fields body h hbody => ⟨?_, ?_, ?_, fun hnot => ?_, fun f hf => ?_⟩⟩
  · rcases r.succeeds_or_failsWith d with hsucceeds | hfails
    · exact .inl ⟨hsucceeds, hsucceeds.not_failsWith⟩
    · exact .inr ⟨hfails, fun hsucceeds => hsucceeds.not_failsWith hfails⟩
  · exact Tool.execute_of_valid h d
  · exact Http.answer_of_valid h d hbody
  · exact Http.Reply.send_ofOutcome_iff
  · obtain ⟨run, _, _, hsend⟩ := Http.Reply.send_ofOutcome_of_not hnot
    exact ⟨run, hsend⟩
  · obtain ⟨details, herror⟩ := hf.error_of_toolReply
    exact ⟨_, _, herror, rfl, rfl, hf.fields_of_httpReply⟩

/-- A form that names a file and a worksheet of it. -/
def cellsOf (file sheet : String) : List (String × Json) :=
  [("excel_file_name", .text file), ("worksheet_name", .text sheet)]

/-- The request of such a form. -/
def allCells (file sheet : String) : Request :=
  .read ⟨file, sheet, true, 0, "", "", "|", ","⟩

theorem ofJson_cellsOf (file sheet : String) :
    ofJson (Settings.ofEnvironment []) .read (.object (cellsOf file sheet)) =
      .valid (allCells file sheet) := rfl

/-- Without the file the request fails as one for a file that was not found, and over HTTP the
status says the same. -/
theorem two_shapes_missingFile :
    let o := ((allCells "b.xlsx" "S").run ∅).1
    let body := Http.Body.value (some (.object (cellsOf "b.xlsx" "S")))
    ofJson (Settings.ofEnvironment []) .read (.object (cellsOf "b.xlsx" "S")) =
        .valid (allCells "b.xlsx" "S") ∧
      (∃ f, o.FailsWith f) ∧ o.returnResult = "Excel file not found: b.xlsx" ∧
      o.exception = "FileNotFoundError: Excel file not found: b.xlsx" ∧ o.IsEncodable ∧
      ∃ reply, Http.answer (Settings.ofEnvironment []) true ∅ "POST" "/excel/get-cell" body =
          (.ok reply, ∅) ∧ reply.status = 404 ∧
        reply.body.field? "errorCode" = some (.text "FILE_NOT_FOUND") := by
  intro o body
  obtain ⟨hshape, htold⟩ := two_shapes (allCells "b.xlsx" "S") ∅
  have hcode : o.errorCode = some "FILE_NOT_FOUND" := by decide +kernel
  have hresult : o.returnResult = "Excel file not found: b.xlsx" := by decide +kernel
  have hexception : o.exception = "FileNotFoundError: Excel file not found: b.xlsx" := by
    decide +kernel
  have houtputs : o.outputs = [] := by decide +kernel
  have hencodable : o.IsEncodable := by
    refine ⟨?_, ?_, ?_, fun code h => ?_, by rw [houtputs]; exact nofun⟩
    · decide +kernel
    · rw [hresult]
      decide
    · decide +kernel
    · cases hcode.symm.trans h
      decide
  have hfails : ∃ f, o.FailsWith f := by
    rcases hshape with ⟨hsucceeds, _⟩ | ⟨hfails, _⟩
    · cases hsucceeds.errorCode.symm.trans hcode
    · exact hfails
  have hkept : ((allCells "b.xlsx" "S").run ∅).2 = ∅ := rfl
  obtain ⟨_, hanswer, hsend, _⟩ :=
    htold _ _ (cellsOf "b.xlsx" "S") body (ofJson_cellsOf "b.xlsx" "S") rfl
  rw [hsend.mpr hencodable, hkept] at hanswer
  refine ⟨ofJson_cellsOf _ _, hfails, hresult, hexception, hencodable, .ofOutcome o, ?_, ?_, ?_⟩
  · exact hanswer
  · decide +kernel
  · show some (Json.ofText? o.errorCode) = _
    rw [hcode]
    rfl

/-- A worksheet is asked for by a name that is one surrogate. An agent is told that it does not
exist, and over HTTP there is no reply. -/
theorem unanswered_loneSurrogate :
    let settings := Settings.ofEnvironment []
    let d := AddRequest.oneCell
    let form := Json.object (cellsOf "b.xlsx" (String.singleton (Text.ofUnit 0xD800)))
    let body := "\x7b\"excel_file_name\":\"b.xlsx\",\"worksheet_name\":\"\\ud800\"\x7d"
    form.print = body ∧
      (((Tool.execute settings d "get_cell" form).1.toJson.field? "error").bind
        (·.field? "error_code")).map Json.print = some "\"SHEET_NOT_FOUND\"" ∧
      Http.unanswered? (Http.answer settings true d "POST" "/excel/get-cell" (.raw body)).1 =
        some (.notEncodable ⟨45, [0xD800]⟩) := by
  refine ⟨?_, ?_, ?_⟩ <;> decide +kernel

end Request

end SheetActions
