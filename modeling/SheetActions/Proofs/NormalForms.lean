import SheetActions.Action.Run
import SheetActions.Proofs.EmptyDelimiters
import SheetActions.Proofs.ToolArguments

/-! Requests as forms.

The fields of a request are a form again, with nothing left to be filled in. What is read from
a form has no empty delimiter, and a new workbook has names for its worksheets
(`Request.normal_of_ofJson`). A request like that is read from its own fields, whatever the
settings are (`Request.Normal.ofJson_toJson`). So the second reading changes nothing, and no
text of the request is split at the empty delimiter (`Request.reread`). -/
namespace SheetActions

/-! ### Forms that are filled in -/

namespace Checked
variable {α β : Type}

theorem ap_of {f : Checked (α → β)} {x : Checked α} {g : α → β} {a : α} (hf : f = .valid g)
    (hx : x = .valid a) : f.ap x = .valid (g a) := by
  rw [hf, hx]
  rfl

theorem map_eq_valid_iff {f : α → β} {x : Checked α} {b : β} :
    x.map f = .valid b ↔ ∃ a, x = .valid a ∧ f a = b := by
  cases x <;> simp [map]

end Checked

/-- What stands in a field is what its check makes of it. -/
theorem Form.optional_of {α : Type} {j v : Json} {name : String} {default a : α}
    {check : Json → Except Problem α} (h : j.field? name = some v) (hv : check v = .ok a) :
    optional j name default check = .valid a := by
  rw [optional, h]
  show Checked.ofField name (check v) = _
  rw [hv]
  rfl

/-- A natural number is read as such. -/
theorem Form.natFrom_natCast (n : Nat) : natFrom 0 (.integer n) = .ok n := by
  have hwhole : wholeFrom (0 : Nat) (.integer n) = .ok n :=
    wholeFrom_eq_ok_iff.mpr ⟨rfl, Int.ofNat_le.mpr (Nat.zero_le n)⟩
  rw [natFrom, hwhole]
  rfl

namespace Request
variable {j : Json} {name s : String}

theorem textField_of (h : j.field? name = some (.text s)) : textField j name = .valid s :=
  Form.optional_of h rfl

theorem flagField_of {default b : Bool} (h : j.field? name = some (.boolean b)) :
    flagField j name default = .valid b :=
  Form.optional_of h rfl

theorem firstRowField_of {n : Nat} (h : j.field? "first_row_index" = some (.integer n)) :
    firstRowField j = .valid n :=
  Form.optional_of h (Form.natFrom_natCast n)

theorem columnField_of {column : Option Nat} (h : j.field? "column_index_to_query" =
      some ((column.map fun (c : Nat) => Json.integer c).getD .null)) :
    columnField j = .valid column := by
  refine Form.optional_of h ?_
  cases column with
  | none => rfl
  | some c => exact congrArg (Except.map some) (Form.natFrom_natCast c)

theorem comparisonField_of {c : Comparison} (h : j.field? "operator" = some (.text c.symbol)) :
    comparisonField j = .valid c := by
  refine Form.optional_of h ?_
  cases c <;> rfl

/-- The settings have no say in a delimiter that is given. -/
theorem delimiterField_of {settings : Checked Settings} {default : Settings → String}
    (h : j.field? name = some (.text s)) (hs : s.isEmpty = false) :
    delimiterField settings default j name = .valid s := by
  cases settings <;> simp [delimiterField, h, hs]

theorem defaultedField_of {default : String} {isDefault : String → Bool}
    (h : j.field? name = some (.text s)) (hs : isDefault s = false) :
    defaultedField j name default isDefault = .valid s := by
  refine Form.optional_of h ?_
  simp [hs]

end Request

/-! ### Requests without blanks -/

open Request

theorem AddRequest.ofJson_toJson {settings : Checked Settings} {r : AddRequest}
    (hrow : r.rowDelimiter.isEmpty = false) (hcolumn : r.columnDelimiter.isEmpty = false) :
    ofJson settings r.toJson = .valid r := by
  cases r
  refine Checked.ap_of ?_ (flagField_of rfl)
  refine Checked.ap_of ?_ (delimiterField_of rfl hcolumn)
  refine Checked.ap_of ?_ (delimiterField_of rfl hrow)
  iterate 5 refine Checked.ap_of ?_ (textField_of rfl)
  exact Checked.ap_of rfl (textField_of rfl)

theorem ReadRequest.ofJson_toJson {settings : Checked Settings} {r : ReadRequest}
    (hrow : r.rowDelimiter.isEmpty = false) (hcolumn : r.columnDelimiter.isEmpty = false) :
    ofJson settings r.toJson = .valid r := by
  cases r
  refine Checked.ap_of ?_ (delimiterField_of rfl hcolumn)
  refine Checked.ap_of ?_ (delimiterField_of rfl hrow)
  iterate 2 refine Checked.ap_of ?_ (textField_of rfl)
  refine Checked.ap_of ?_ (firstRowField_of rfl)
  refine Checked.ap_of ?_ (flagField_of rfl)
  refine Checked.ap_of ?_ (textField_of rfl)
  exact Checked.ap_of rfl (textField_of rfl)

theorem SearchRequest.ofJson_toJson (r : SearchRequest) : ofJson r.toJson = .valid r := by
  cases r
  refine Checked.ap_of ?_ (firstRowField_of rfl)
  refine Checked.ap_of ?_ (flagField_of rfl)
  refine Checked.ap_of ?_ (textField_of rfl)
  refine Checked.ap_of ?_ (comparisonField_of rfl)
  refine Checked.ap_of ?_ (columnField_of rfl)
  refine Checked.ap_of ?_ (textField_of rfl)
  exact Checked.ap_of rfl (textField_of rfl)

theorem CreateRequest.ofJson_toJson {r : CreateRequest}
    (hnames : Text.isBlankText r.sheetNames = false) (hdelimiter : r.delimiter.isEmpty = false) :
    ofJson r.toJson = .valid r := by
  cases r
  refine Checked.ap_of ?_ (defaultedField_of rfl hdelimiter)
  refine Checked.ap_of ?_ (defaultedField_of rfl hnames)
  exact Checked.ap_of rfl (textField_of rfl)

/-! ### What a form leaves blank -/

theorem isDefault_of_defaultedField {j : Json} {name default s : String} {isDefault : String → Bool}
    (hdefault : isDefault default = false)
    (h : defaultedField j name default isDefault = .valid s) : isDefault s = false := by
  refine Form.optional_ind (P := fun s => isDefault s = false) hdefault (fun v t ht => ?_) h
  cases v with
  | null =>
    cases ht
    exact hdefault
  | text given =>
    cases ht
    split
    · exact hdefault
    · rename_i hfilled
      simpa using hfilled
  | _ => cases ht

theorem ReadRequest.delimiters_of_ofJson {environment : List (String × String)} {j : Json}
    {r : ReadRequest} (h : ofJson (Settings.ofEnvironment environment) j = .valid r) :
    r.rowDelimiter.isEmpty = false ∧ r.columnDelimiter.isEmpty = false := by
  obtain ⟨_, column, h₁, hcolumn, rfl⟩ := Checked.ap_eq_valid h
  obtain ⟨_, row, h₂, hrow, rfl⟩ := Checked.ap_eq_valid h₁
  obtain ⟨_, _, h₃, _, rfl⟩ := Checked.ap_eq_valid h₂
  obtain ⟨_, _, h₄, _, rfl⟩ := Checked.ap_eq_valid h₃
  obtain ⟨_, _, h₅, _, rfl⟩ := Checked.ap_eq_valid h₄
  obtain ⟨_, _, h₆, _, rfl⟩ := Checked.ap_eq_valid h₅
  obtain ⟨_, _, h₇, _, rfl⟩ := Checked.ap_eq_valid h₆
  obtain ⟨_, _, h₈, _, rfl⟩ := Checked.ap_eq_valid h₇
  cases h₈
  exact ⟨isEmpty_of_rowDelimiterField hrow, isEmpty_of_columnDelimiterField hcolumn⟩

theorem CreateRequest.filled_of_ofJson {j : Json} {r : CreateRequest}
    (h : ofJson j = .valid r) :
    Text.isBlankText r.sheetNames = false ∧ r.delimiter.isEmpty = false := by
  obtain ⟨_, delimiter, h₁, hdelimiter, rfl⟩ := Checked.ap_eq_valid h
  obtain ⟨_, names, h₂, hnames, rfl⟩ := Checked.ap_eq_valid h₁
  obtain ⟨_, _, h₃, _, rfl⟩ := Checked.ap_eq_valid h₂
  cases h₃
  exact ⟨isDefault_of_defaultedField (by decide) hnames,
    isDefault_of_defaultedField (by decide) hdelimiter⟩

/-! ### Normal requests -/

namespace Request

def action : Request → Action
  | .add _ => .add
  | .read _ => .read
  | .search _ => .search
  | .create _ => .create

def delimiters : Request → List String
  | .add r => [r.rowDelimiter, r.columnDelimiter]
  | .read r => [r.rowDelimiter, r.columnDelimiter]
  | .search _ => []
  | .create r => [r.delimiter]

/-- Nothing of a request is left to be filled in. -/
def Normal : Request → Prop
  | .add r => r.rowDelimiter.isEmpty = false ∧ r.columnDelimiter.isEmpty = false
  | .read r => r.rowDelimiter.isEmpty = false ∧ r.columnDelimiter.isEmpty = false
  | .search _ => True
  | .create r => Text.isBlankText r.sheetNames = false ∧ r.delimiter.isEmpty = false

variable {environment : List (String × String)} {settings : Checked Settings} {a : Action}
  {j : Json} {r : Request}

theorem action_of_ofJson (h : ofJson settings a j = .valid r) : r.action = a := by
  cases a <;> obtain ⟨_, _, rfl⟩ := Checked.map_eq_valid_iff.mp h <;> rfl

/-- Whatever is read from a form is normal. -/
theorem normal_of_ofJson (h : ofJson (Settings.ofEnvironment environment) a j = .valid r) :
    r.Normal := by
  cases a <;> obtain ⟨r, hr, rfl⟩ := Checked.map_eq_valid_iff.mp h
  case add => exact AddRequest.delimiters_of_ofJson hr
  case read => exact ReadRequest.delimiters_of_ofJson hr
  case search => trivial
  case create => exact CreateRequest.filled_of_ofJson hr

/-- A normal request is read from its own fields. -/
theorem Normal.ofJson_toJson (normal : r.Normal) :
    ofJson settings r.action r.toJson = .valid r := by
  cases r with
  | add r =>
    obtain ⟨hrow, hcolumn⟩ := normal
    exact Checked.map_eq_valid_iff.mpr ⟨r, AddRequest.ofJson_toJson hrow hcolumn, rfl⟩
  | read r =>
    obtain ⟨hrow, hcolumn⟩ := normal
    exact Checked.map_eq_valid_iff.mpr ⟨r, ReadRequest.ofJson_toJson hrow hcolumn, rfl⟩
  | search r => exact Checked.map_eq_valid_iff.mpr ⟨r, SearchRequest.ofJson_toJson r, rfl⟩
  | create r =>
    obtain ⟨hnames, hdelimiter⟩ := normal
    exact Checked.map_eq_valid_iff.mpr ⟨r, CreateRequest.ofJson_toJson hnames hdelimiter, rfl⟩

theorem Normal.isEmpty (normal : r.Normal) :
    ∀ delimiter ∈ r.delimiters, delimiter.isEmpty = false := by
  cases r with
  | add | read =>
    obtain ⟨hrow, hcolumn⟩ := normal
    exact List.forall_mem_cons.mpr ⟨hrow, List.forall_mem_singleton.mpr hcolumn⟩
  | search => nofun
  | create => exact List.forall_mem_singleton.mpr normal.2

/-- The normal requests are just those that are read from forms. -/
theorem normal_iff : r.Normal ↔
    ∃ j, ofJson (Settings.ofEnvironment environment) r.action j = .valid r :=
  ⟨fun normal => ⟨r.toJson, normal.ofJson_toJson⟩, fun ⟨_, h⟩ => normal_of_ofJson h⟩

/-! ### Reading again -/

/-- The request is not carried out because a text would have to be split at the empty delimiter. -/
def SplitsAtNothing (d : Directory) : Request → Prop
  | .add r => ∃ stage, r.draft d = .error (stage, .breakdown .emptyDelimiter)
  | .create r => r.names = .error (.breakdown .emptyDelimiter)
  | .read _ | .search _ => False

theorem Normal.not_splitsAtNothing (normal : r.Normal) (d : Directory) :
    ¬ r.SplitsAtNothing d := by
  intro h
  cases r with
  | add r =>
    obtain ⟨_, hempty⟩ := AddRequest.exists_draft_eq_iff.mp h
    rcases hempty with hrow | hcolumn
    · exact Bool.false_ne_true (normal.1.symm.trans hrow)
    · exact Bool.false_ne_true (normal.2.symm.trans hcolumn)
  | create r =>
    obtain ⟨_, _, hempty⟩ := CreateRequest.names_eq_iff.mp h
    exact Bool.false_ne_true (normal.2.symm.trans hempty)
  | read | search => exact h

/-- **Reading again.** A request that was read from a form is read from its own fields as the same
request, whatever the settings are by then. Its delimiters are not empty, so any text can be split
at them, and nothing that the request asks for ends in splitting at the empty delimiter. -/
theorem reread (environment : List (String × String)) (a : Action) (fields : List (String × Json))
    (r : Request) (h : ofJson (Settings.ofEnvironment environment) a (.object fields) = .valid r) :
    (∀ settings, ofJson settings a r.toJson = .valid r) ∧
      (∀ delimiter ∈ r.delimiters, delimiter ≠ "" ∧
        ∀ text, ∃ pieces, Payload.split delimiter text = .ok pieces) ∧
      ∀ d, ¬ r.SplitsAtNothing d := by
  have normal := normal_of_ofJson h
  refine ⟨fun settings => action_of_ofJson h ▸ normal.ofJson_toJson, fun delimiter hd => ?_,
    normal.not_splitsAtNothing⟩
  have hfilled := normal.isEmpty delimiter hd
  refine ⟨fun hempty => ?_, fun text => ⟨_, Payload.split_eq hfilled text⟩⟩
  rw [hempty] at hfilled
  cases hfilled

/-- A form with blanks of all kinds: a delimiter that is null, one that is empty, and a flag. -/
def blankForm : List (String × Json) :=
  [("excel_file_name", .text "b.xlsx"), ("worksheet_name", .text "S"), ("row_data", .text "1;2"),
    ("row_delimiter", .null), ("column_delimiter", .text ""), ("overwrite", .text " ")]

/-- An environment that gives the delimiter of rows. -/
def semicolons : List (String × String) :=
  [("EXCELDATA_DEFAULT_ROW_DELIMITER", ";")]

/-- What the form asks for in that environment. -/
def blanksFilled : Request :=
  .add ⟨"b.xlsx", "S", "", "1;2", "", "", ";", ",", false⟩

/-- The blanks are filled in from the environment and from the defaults. -/
theorem reread_blankForm :
    ofJson (Settings.ofEnvironment semicolons) .add (.object blankForm) = .valid blanksFilled ∧
      (∀ settings, ofJson settings .add blanksFilled.toJson = .valid blanksFilled) ∧
      ∀ d, ¬ blanksFilled.SplitsAtNothing d := by
  have h : ofJson (Settings.ofEnvironment semicolons) .add (.object blankForm) =
      .valid blanksFilled := by rfl
  have hagain := reread semicolons .add blankForm blanksFilled h
  exact ⟨h, hagain.1, hagain.2.2⟩

end Request

end SheetActions
