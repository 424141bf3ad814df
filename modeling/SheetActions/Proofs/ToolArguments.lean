import SheetActions.Proofs.Breakdowns
import SheetActions.Proofs.Reports

/-! Arguments that fit the schema of a tool.

The schema of a tool and the form of its request describe the same arguments twice. They agree
on all properties but the indices, where the schema asks for an integer and the form for one that
it can have: negative indices are refused, and so is an index that comes as a floating-point
number and has more than 64 bits (`RefusedIndex`). Any other call whose arguments fit the schema
is run (`exists_request_iff_of_accepts`). -/
namespace SheetActions

/-! ### What fits a schema -/

namespace Property
variable {p : Property} {value : Json}

/-- A value fits a property if it is of its kind and, where there are choices, one of them. -/
theorem mismatch?_eq_none_iff : p.mismatch? value = none ↔
    p.kind.admits value = true ∧ (p.choices ≠ [] → p.isChoice value = true) := by
  simp only [mismatch?]
  split
  · rename_i hkind
    simp_all
  · split
    · rename_i hkind hchoice
      simp_all
    · rename_i hkind hchoice
      simp_all

end Property

namespace Schema
variable {s : Schema} {arguments : Json}

theorem missing?_isNone_iff : (s.missing? arguments).isNone = true ↔
    ∀ name ∈ s.required, ∃ value, arguments.field? name = some value := by
  simp [missing?, Option.ne_none_iff_exists', Option.isNone_iff_eq_none]

theorem misfits_isEmpty_iff : (s.misfits arguments).isEmpty = true ↔ ∀ p ∈ s.properties,
    ∀ value, arguments.field? p.name = some value → p.mismatch? value = none := by
  simp only [misfits, List.isEmpty_iff, List.filterMap_eq_nil_iff]
  refine forall₂_congr fun p _ => ?_
  cases arguments.field? p.name with
  | none => simp
  | some value => cases hvalue : p.mismatch? value <;> simp [hvalue]

/-- Arguments fit a schema if no required property is missing and all that are there fit. -/
theorem accepts_iff : s.accepts arguments = true ↔
    (∀ name ∈ s.required, ∃ value, arguments.field? name = some value) ∧ ∀ p ∈ s.properties,
      ∀ value, arguments.field? p.name = some value → p.mismatch? value = none := by
  rw [accepts, Bool.and_eq_true, missing?_isNone_iff, misfits_isEmpty_iff]

/-- Where there are misfits, one of them is the last. -/
theorem lastMisfit?_eq_none_iff : s.lastMisfit? arguments = none ↔ s.misfits arguments = [] := by
  rw [lastMisfit?]
  cases s.misfits arguments with
  | nil => simp
  | cons first rest =>
    refine iff_of_false ?_ (List.cons_ne_nil first rest)
    rw [List.foldl_cons]
    generalize first = last
    induction rest generalizing last with
    | nil => nofun
    | cons misfit rest ih => exact ih _

/-- Nothing is wrong just with the arguments that fit. -/
theorem mismatch?_eq_none_iff : s.mismatch? arguments = none ↔ s.accepts arguments = true := by
  simp only [mismatch?, Option.or_eq_none_iff, Option.map_eq_none_iff, lastMisfit?_eq_none_iff,
    accepts, Bool.and_eq_true, Option.isNone_iff_eq_none, List.isEmpty_iff]

end Schema

/-- What a field holds is of a kind. -/
def Json.Takes (j : Json) (name : String) (kind : ValueKind) : Prop :=
  ∀ value, j.field? name = some value → kind.admits value = true

theorem Schema.takes_of_accepts {s : Schema} {j : Json} {name : String} {kind : ValueKind}
    (h : s.accepts j = true) (hp : ∃ p ∈ s.properties, p.name = name ∧ p.kind = kind) :
    j.Takes name kind := by
  intro value hvalue
  obtain ⟨p, hp, rfl, rfl⟩ := hp
  exact (Property.mismatch?_eq_none_iff.mp ((accepts_iff.mp h).2 p hp value hvalue)).1

/-! ### What a form takes -/

namespace Checked
variable {α β : Type}

/-- One more field can be filled in if it can be on its own. -/
theorem exists_ap_eq_valid_iff {f : Checked (α → β)} {x : Checked α} :
    (∃ b, f.ap x = .valid b) ↔ (∃ g, f = .valid g) ∧ ∃ a, x = .valid a := by
  constructor
  · rintro ⟨b, h⟩
    obtain ⟨g, a, hf, hx, _⟩ := ap_eq_valid h
    exact ⟨⟨g, hf⟩, a, hx⟩
  · rintro ⟨⟨g, rfl⟩, a, rfl⟩
    exact ⟨g a, rfl⟩

theorem exists_map_eq_valid_iff {f : α → β} {x : Checked α} :
    (∃ b, x.map f = .valid b) ↔ ∃ a, x = .valid a := by
  cases x with
  | valid a => exact iff_of_true ⟨f a, rfl⟩ ⟨a, rfl⟩
  | invalid issues => exact iff_of_false nofun nofun
  | aborted issues => exact iff_of_false nofun nofun

end Checked

/-- An index that no request has: a negative one, or one that is given as a floating-point number
and has more than 64 bits. -/
inductive RefusedIndex : Json → Prop where
  | negative {value : Json} {n : Int} : Form.index? value = some n → n < 0 → RefusedIndex value
  | tooLong {x : Binary64} {n : Int} : x.toInt? = some n → Form.wordBound ≤ n →
      RefusedIndex (.float x)

namespace Form
variable {j : Json} {name : String}

/-- A field that takes a value whenever there is one can be filled in. -/
theorem exists_optional_iff {α : Type} {default : α} {check : Json → Except Problem α} :
    (∃ a, optional j name default check = .valid a) ↔
      ∀ value, j.field? name = some value → ∃ a, check value = .ok a := by
  cases hfield : j.field? name with
  | none => simp [optional, hfield]
  | some value =>
    cases hvalue : check value <;> simp [optional, hfield, hvalue, Checked.ofField]

theorem wholeFrom_eq_ok_iff {value : Json} {least n : Int} :
    wholeFrom least value = .ok n ↔ whole value = .ok n ∧ least ≤ n := by
  rw [wholeFrom, bind_eq_ok]
  constructor
  · rintro ⟨m, hm, h⟩
    split at h
    · cases h
    · cases h
      exact ⟨hm, Int.not_lt.mp ‹_›⟩
  · rintro ⟨hn, hle⟩
    refine ⟨n, hn, ?_⟩
    rw [if_neg (Int.not_lt.mpr hle)]
    rfl

theorem exists_natFrom_iff {value : Json} {least : Nat} :
    (∃ m, natFrom least value = .ok m) ↔ ∃ n, whole value = .ok n ∧ least ≤ n := by
  simp only [← wholeFrom_eq_ok_iff]
  rw [natFrom]
  cases wholeFrom least value with
  | error problem => exact iff_of_false nofun nofun
  | ok n => exact iff_of_true ⟨_, rfl⟩ ⟨n, rfl⟩

theorem wholeFloat_of_toInt? {x : Binary64} {n : Int} (h : x.toInt? = some n) :
    wholeFloat x = if -wordBound < n ∧ n < wordBound then .ok n else .error .wholeTooLong := by
  have hfinite : x.isFinite = true := by
    cases x with
    | finite => rfl
    | _ => cases h
  rw [wholeFloat, hfinite, h]
  rfl

/-- A whole number is an index unless it is refused. -/
theorem exists_natFrom_zero_iff {value : Json} (h : ValueKind.whole.admits value = true) :
    (∃ n, natFrom 0 value = .ok n) ↔ ¬ RefusedIndex value := by
  rw [exists_natFrom_iff]
  cases value with
  | integer n =>
    constructor
    · rintro ⟨_, hwhole, hle⟩ ⟨hindex, hneg⟩
      cases hwhole
      cases hindex
      omega
    · exact fun hrefused => ⟨n, rfl, Int.not_lt.mp fun hneg => hrefused (.negative rfl hneg)⟩
  | float x =>
    obtain ⟨n, hn⟩ := Option.isSome_iff_exists.mp h
    have hbound : 0 < wordBound := by decide
    simp only [whole, wholeFloat_of_toInt? hn]
    constructor
    · rintro ⟨_, hwhole, hle⟩ hrefused
      split at hwhole
      · rename_i hword
        cases hwhole
        cases hrefused with
        | negative hindex hneg =>
          cases hindex.symm.trans hn
          omega
        | tooLong hindex hlong =>
          cases hindex.symm.trans hn
          omega
      · cases hwhole
    · intro hrefused
      have hle : 0 ≤ n := Int.not_lt.mp fun hneg => hrefused (.negative hn hneg)
      have hlt : n < wordBound := Int.not_le.mp fun hlong => hrefused (.tooLong hn hlong)
      exact ⟨n, if_pos ⟨by omega, hlt⟩, hle⟩
  | _ => cases h

end Form

namespace Request
variable {j : Json} {name : String}

theorem exists_textField (h : j.Takes name .text) : ∃ s, textField j name = .valid s := by
  refine Form.exists_optional_iff.mpr fun value hvalue => ?_
  cases value with
  | text s => exact ⟨s, rfl⟩
  | _ => cases h _ hvalue

theorem exists_flagField {default : Bool} (h : j.Takes name .truth) :
    ∃ b, flagField j name default = .valid b := by
  refine Form.exists_optional_iff.mpr fun value hvalue => ?_
  cases value with
  | boolean b => exact ⟨b, rfl⟩
  | _ => cases h _ hvalue

theorem exists_defaultedField {default : String} {isDefault : String → Bool}
    (h : j.Takes name .text) : ∃ s, defaultedField j name default isDefault = .valid s := by
  refine Form.exists_optional_iff.mpr fun value hvalue => ?_
  cases value with
  | text s => exact ⟨_, rfl⟩
  | _ => cases h _ hvalue

theorem exists_delimiterField {settings : Settings} {default : Settings → String}
    (h : j.Takes name .text) : ∃ s, delimiterField (.valid settings) default j name = .valid s := by
  simp only [delimiterField]
  cases hvalue : j.field? name with
  | none => exact ⟨_, rfl⟩
  | some value =>
    cases value with
    | text s => exact ⟨_, rfl⟩
    | _ => cases h _ hvalue

theorem exists_comparisonField
    (h : ∀ value, j.field? "operator" = some value → ∃ c : Comparison, value = .text c.symbol) :
    ∃ c, comparisonField j = .valid c := by
  refine Form.exists_optional_iff.mpr fun value hvalue => ?_
  obtain ⟨c, rfl⟩ := h value hvalue
  exact ⟨c, by cases c <;> rfl⟩

section Index
variable {value : Json} (h : ValueKind.whole.admits value = true)
include h

theorem isBlankField_of_whole : isBlankField value = false := by
  cases value with
  | text s => cases h
  | null => cases h
  | _ => rfl

theorem trimmed_of_whole : trimmed value = value := by
  cases value with
  | text s => cases h
  | _ => rfl

end Index

theorem exists_firstRowField_iff (h : j.Takes "first_row_index" .whole) :
    (∃ n, firstRowField j = .valid n) ↔
      ∀ value, j.field? "first_row_index" = some value → ¬ RefusedIndex value := by
  refine Form.exists_optional_iff.trans (forall₂_congr fun value hvalue => ?_)
  have hwhole := h value hvalue
  simp only [isBlankField_of_whole hwhole, trimmed_of_whole hwhole]
  exact Form.exists_natFrom_zero_iff hwhole

theorem exists_columnField_iff (h : j.Takes "column_index_to_query" .whole) :
    (∃ n, columnField j = .valid n) ↔
      ∀ value, j.field? "column_index_to_query" = some value → ¬ RefusedIndex value := by
  refine Form.exists_optional_iff.trans (forall₂_congr fun value hvalue => ?_)
  have hwhole := h value hvalue
  simp only [isBlankField_of_whole hwhole, trimmed_of_whole hwhole,
    ← Form.exists_natFrom_zero_iff hwhole]
  cases Form.natFrom 0 value with
  | error problem => exact iff_of_false nofun nofun
  | ok n => exact iff_of_true ⟨some n, rfl⟩ ⟨n, rfl⟩

end Request

/-! ### Requests from arguments that fit -/

section Forms
open Tool Request
variable {settings : Settings} {j : Json}

theorem AddRequest.exists_of_accepts (h : addSchema.accepts j = true) :
    ∃ r, AddRequest.ofJson (.valid settings) j = .valid r := by
  have takes : ∀ {name kind}, (∃ p ∈ addSchema.properties, p.name = name ∧ p.kind = kind) →
    j.Takes name kind := Schema.takes_of_accepts h
  simp only [ofJson, Checked.exists_ap_eq_valid_iff]
  exact ⟨⟨⟨⟨⟨⟨⟨⟨⟨⟨_, rfl⟩, exists_textField (takes (by decide))⟩,
    exists_textField (takes (by decide))⟩, exists_textField (takes (by decide))⟩,
    exists_textField (takes (by decide))⟩, exists_textField (takes (by decide))⟩,
    exists_textField (takes (by decide))⟩, exists_delimiterField (takes (by decide))⟩,
    exists_delimiterField (takes (by decide))⟩, exists_flagField (takes (by decide))⟩

theorem ReadRequest.exists_iff_of_accepts (h : readSchema.accepts j = true) :
    (∃ r, ReadRequest.ofJson (.valid settings) j = .valid r) ↔
      ∀ value, j.field? "first_row_index" = some value → ¬ RefusedIndex value := by
  have takes : ∀ {name kind}, (∃ p ∈ readSchema.properties, p.name = name ∧ p.kind = kind) →
    j.Takes name kind := Schema.takes_of_accepts h
  simp only [ofJson, Checked.exists_ap_eq_valid_iff,
    exists_firstRowField_iff (takes (by decide))]
  constructor
  · rintro ⟨⟨⟨⟨⟨_, hrow⟩, _⟩, _⟩, _⟩, _⟩
    exact hrow
  · intro hrow
    exact ⟨⟨⟨⟨⟨⟨⟨⟨⟨_, rfl⟩, exists_textField (takes (by decide))⟩,
      exists_textField (takes (by decide))⟩, exists_flagField (takes (by decide))⟩, hrow⟩,
      exists_textField (takes (by decide))⟩, exists_textField (takes (by decide))⟩,
      exists_delimiterField (takes (by decide))⟩, exists_delimiterField (takes (by decide))⟩

/-- An operator that fits the schema is the symbol of a comparison. -/
theorem exists_symbol_of_accepts (h : searchSchema.accepts j = true) {value : Json}
    (hvalue : j.field? "operator" = some value) : ∃ c : Comparison, value = .text c.symbol := by
  obtain ⟨p, hp, hname, hchoices⟩ : ∃ p ∈ searchSchema.properties, p.name = "operator" ∧
    p.choices = Comparison.all.map Comparison.symbol := by decide
  rw [← hname] at hvalue
  obtain ⟨_, hchoice⟩ :=
    Property.mismatch?_eq_none_iff.mp ((Schema.accepts_iff.mp h).2 p hp value hvalue)
  rw [hchoices] at hchoice
  cases value with
  | text s =>
    have hmem : s ∈ Comparison.all.map Comparison.symbol := by
      simpa [Property.isChoice, hchoices] using hchoice (by decide)
    obtain ⟨c, _, rfl⟩ := List.mem_map.mp hmem
    exact ⟨c, rfl⟩
  | _ => cases hchoice (by decide)

theorem SearchRequest.exists_iff_of_accepts (h : searchSchema.accepts j = true) :
    (∃ r, SearchRequest.ofJson j = .valid r) ↔
      (∀ value, j.field? "column_index_to_query" = some value → ¬ RefusedIndex value) ∧
      ∀ value, j.field? "first_row_index" = some value → ¬ RefusedIndex value := by
  have takes : ∀ {name kind}, (∃ p ∈ searchSchema.properties, p.name = name ∧ p.kind = kind) →
    j.Takes name kind := Schema.takes_of_accepts h
  simp only [ofJson, Checked.exists_ap_eq_valid_iff, exists_columnField_iff (takes (by decide)),
    exists_firstRowField_iff (takes (by decide))]
  constructor
  · rintro ⟨⟨⟨⟨⟨_, hcolumn⟩, _⟩, _⟩, _⟩, hrow⟩
    exact ⟨hcolumn, hrow⟩
  · rintro ⟨hcolumn, hrow⟩
    exact ⟨⟨⟨⟨⟨⟨⟨⟨_, rfl⟩, exists_textField (takes (by decide))⟩,
      exists_textField (takes (by decide))⟩, hcolumn⟩,
      exists_comparisonField fun _ => exists_symbol_of_accepts h⟩,
      exists_textField (takes (by decide))⟩, exists_flagField (takes (by decide))⟩, hrow⟩

theorem CreateRequest.exists_of_accepts (h : createSchema.accepts j = true) :
    ∃ r, CreateRequest.ofJson j = .valid r := by
  have takes : ∀ {name kind}, (∃ p ∈ createSchema.properties, p.name = name ∧ p.kind = kind) →
    j.Takes name kind := Schema.takes_of_accepts h
  simp only [ofJson, Checked.exists_ap_eq_valid_iff]
  exact ⟨⟨⟨⟨_, rfl⟩, exists_textField (takes (by decide))⟩,
    exists_defaultedField (takes (by decide))⟩, exists_defaultedField (takes (by decide))⟩

end Forms

/-! ### Calls of tools -/

namespace Tool
variable {settings : Settings} {a : Action} {fields : List (String × Json)}

/-- The indices among the properties of a tool. -/
def indexNames (a : Action) : List String :=
  ((schemaOf a).properties.map Property.name).filter
    ["first_row_index", "column_index_to_query"].contains

/-- Arguments that fit the schema of a tool are a request unless an index is refused. -/
theorem exists_request_iff_of_accepts {j : Json} (h : (schemaOf a).accepts j = true) :
    (∃ r, Request.ofJson (.valid settings) a j = .valid r) ↔
      ∀ name ∈ indexNames a, ∀ value, j.field? name = some value → ¬ RefusedIndex value := by
  cases a with
  | add =>
    rw [show indexNames .add = [] by decide]
    exact iff_of_true (Checked.exists_map_eq_valid_iff.mpr (AddRequest.exists_of_accepts h)) nofun
  | read =>
    rw [show indexNames .read = ["first_row_index"] by decide, List.forall_mem_singleton]
    exact Checked.exists_map_eq_valid_iff.trans (ReadRequest.exists_iff_of_accepts h)
  | search =>
    rw [show indexNames .search = ["column_index_to_query", "first_row_index"] by decide,
      List.forall_mem_cons, List.forall_mem_singleton]
    exact Checked.exists_map_eq_valid_iff.trans (SearchRequest.exists_iff_of_accepts h)
  | create =>
    rw [show indexNames .create = [] by decide]
    exact iff_of_true (Checked.exists_map_eq_valid_iff.mpr (CreateRequest.exists_of_accepts h))
      nofun

/-- **Calls with arguments that fit.** Where the settings are valid and the arguments of a call
fit the schema of the tool, they are a request unless an index of the tool is negative or a
floating-point number that has more than 64 bits. A request is run and its outcome is the answer;
anything else is rejected and changes nothing. -/
theorem call_of_accepts (settings : Settings) (d : Directory)
    (h : (schemaOf a).accepts (.object fields) = true) :
    ((∃ r, Request.ofJson (.valid settings) a (.object fields) = .valid r) ↔
      ∀ name ∈ indexNames a, ∀ value, (Json.object fields).field? name = some value →
        ¬ RefusedIndex value) ∧
    (∀ r, Request.ofJson (.valid settings) a (.object fields) = .valid r →
      call (.valid settings) d a.name (.object fields) =
        (.answered (.done (r.run d).1), (r.run d).2)) ∧
    ((¬ ∃ r, Request.ofJson (.valid settings) a (.object fields) = .valid r) →
      ∃ issues, call (.valid settings) d a.name (.object fields) =
        (.answered (.rejected issues), d)) := by
  have hcall : call (.valid settings) d a.name (.object fields) =
      (.answered (execute (.valid settings) d a.name (.object fields)).1,
        (execute (.valid settings) d a.name (.object fields)).2) := by
    simp only [call, mismatch?, Action.ofName?_name, Option.bind_some,
      Schema.mismatch?_eq_none_iff.mpr h]
  refine ⟨exists_request_iff_of_accepts h, fun r hr => ?_, fun hnone => ?_⟩
  · rw [hcall, execute_of_valid hr]
  · rw [hcall]
    simp only [execute, Action.ofName?_name]
    cases hform : Request.ofJson (.valid settings) a (.object fields) with
    | valid r => exact absurd ⟨r, hform⟩ hnone
    | invalid issues => exact ⟨issues, rfl⟩
    | aborted issues => exact ⟨issues, rfl⟩

/-- Arguments for reading a worksheet from a row on. -/
def cellsFrom (row : Json) : List (String × Json) :=
  [("excel_file_name", .text "b.xlsx"), ("worksheet_name", .text "S"), ("first_row_index", row)]

/-- A number with a point is an index if it is an integer. -/
theorem call_of_accepts_float :
    (schemaOf .read).accepts (.object (cellsFrom (.float (.ofInt 2)))) = true ∧
    ∃ settings r, Settings.ofEnvironment [] = .valid settings ∧
      Request.ofJson (.valid settings) .read (.object (cellsFrom (.float (.ofInt 2)))) = .valid r ∧
      call (.valid settings) ∅ "get_cell" (.object (cellsFrom (.float (.ofInt 2)))) =
        (.answered (.done (r.run ∅).1), (r.run ∅).2) := by
  have h : (schemaOf .read).accepts (.object (cellsFrom (.float (.ofInt 2)))) = true := by
    decide +kernel
  refine ⟨h, ⟨"0.0.0.0", 8000, false, .info, none, "|", ","⟩,
    .read ⟨"b.xlsx", "S", true, 2, "", "", "|", ","⟩, rfl, by rfl, ?_⟩
  exact (call_of_accepts _ ∅ h).2.1 _ (by rfl)

/-- From `2 ^ 63` on such a number fits the schema but is no index. -/
theorem not_request_of_longFloat :
    (schemaOf .read).accepts (.object (cellsFrom (.float (.ofInt (10 ^ 19))))) = true ∧
    (∀ name ∈ indexNames .read, ∀ value n,
      (Json.object (cellsFrom (.float (.ofInt (10 ^ 19))))).field? name = some value →
        Form.index? value = some n → 0 ≤ n) ∧
    ∃ settings, Settings.ofEnvironment [] = .valid settings ∧
      ¬ ∃ r, Request.ofJson (.valid settings) .read
        (.object (cellsFrom (.float (.ofInt (10 ^ 19))))) = .valid r := by
  have h : (schemaOf .read).accepts (.object (cellsFrom (.float (.ofInt (10 ^ 19))))) = true := by
    decide +kernel
  have hn : (Binary64.ofInt (10 ^ 19)).toInt? = some (10 ^ 19) := by decide +kernel
  have hnames : indexNames .read = ["first_row_index"] := by decide
  refine ⟨h, ?_, ⟨"0.0.0.0", 8000, false, .info, none, "|", ","⟩, rfl, fun hr => ?_⟩
  · rw [hnames, List.forall_mem_singleton]
    intro value n hvalue hindex
    cases hvalue
    cases hindex.symm.trans hn
    decide
  · have hall := (exists_request_iff_of_accepts h).mp hr
    rw [hnames, List.forall_mem_singleton] at hall
    exact hall _ rfl (.tooLong hn (by decide))

end Tool

end SheetActions
