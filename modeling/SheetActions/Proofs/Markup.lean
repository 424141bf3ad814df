import SheetActions.Proofs.Resaved

/-! What markup can hold.

A file with a character that markup cannot hold is refused, so what was opened to be changed has
none (`isMarkup_openForChange`). Saving and opening add none either (`Markup.stored`,
`Markup.loaded`): only what is written into a sheet can spoil its file. -/
namespace SheetActions

namespace Text

/-- Markup can hold all characters of a text. -/
def IsMarkupText (s : String) : Prop :=
  ∀ c ∈ s.toList, isMarkupChar c = true

instance (s : String) : Decidable (IsMarkupText s) :=
  List.decidableBAll _ s.toList

theorem isMarkupText_append {s t : String} (hs : IsMarkupText s) (ht : IsMarkupText t) :
    IsMarkupText (s ++ t) := by
  intro c hc
  rw [String.toList_append, List.mem_append] at hc
  exact hc.elim (hs c) (ht c)

theorem isMarkupText_toString (n : Nat) : IsMarkupText (toString n) := by
  intro c hc
  rw [toList_toString_nat] at hc
  have hdigit := Nat.isDigit_of_mem_toDigits (by decide) (by decide) hc
  simp only [Char.isDigit, Bool.and_eq_true, decide_eq_true_eq, UInt32.le_iff_toNat_le] at hdigit
  have hlow : 48 ≤ c.toNat := hdigit.1
  have hhigh : c.toNat ≤ 57 := hdigit.2
  simp only [isMarkupChar, Bool.or_eq_true, Bool.and_eq_true, decide_eq_true_eq]
  exact .inr ⟨⟨by omega, by omega⟩, by omega⟩

theorem isMarkupChar_unifyLines {l : List Char} (h : ∀ c ∈ l, isMarkupChar c = true) :
    ∀ c ∈ unifyLines l, isMarkupChar c = true := by
  fun_induction unifyLines l with
  | case1 r ih | case2 r _ ih =>
    simp only [List.forall_mem_cons] at h ⊢
    exact ⟨by decide, ih (by simp_all)⟩
  | case3 c r _ _ ih =>
    rw [List.forall_mem_cons] at h ⊢
    exact ⟨h.1, ih h.2⟩
  | case4 => exact h

end Text

/-! ### Names of new worksheets -/

namespace Fresh
open Text

theorem firstIllegal?_eq_none_iff {p : Position} {l : List Char} :
    firstIllegal? p l = none ↔ ∀ c ∈ l, isMarkupChar c = true := by
  induction l generalizing p with
  | nil => simp [firstIllegal?]
  | cons c r ih =>
    rw [firstIllegal?, List.forall_mem_cons]
    cases hc : isMarkupChar c with
    | false => simp
    | true => simpa using ih

/-- Markup can hold what is written for a character if it can hold the character. -/
theorem all_escapeChar (c : Char) : (escapeChar c).all isMarkupChar = isMarkupChar c := by
  unfold escapeChar
  split
  · rfl
  · rfl
  · rfl
  · rfl
  · rfl
  · rw [List.all_cons, List.all_nil, Bool.and_true]

/-- Between the names there is nothing that markup cannot hold. -/
theorem isMarkup_nameMarkup_iff {names : List String} {number : Nat} :
    (∀ c ∈ nameMarkup number names, isMarkupChar c = true) ↔ ∀ name ∈ names, IsMarkupText name := by
  induction names generalizing number with
  | nil => simp [nameMarkup]
  | cons name names ih =>
    have hbetween : IsMarkupText
        s!"\" sheetId=\"{number}\" r:id=\"rId{number}\"/><sheet name=\"" := by
      have hnumber := isMarkupText_toString number
      refine isMarkupText_append (isMarkupText_append (isMarkupText_append (isMarkupText_append ?_
        hnumber) ?_) hnumber) ?_ <;> decide
    have hname : (∀ c ∈ name.toList.flatMap escapeChar, isMarkupChar c = true) ↔
        IsMarkupText name := by
      simp only [← List.all_eq_true, List.all_flatMap, all_escapeChar, IsMarkupText]
    rw [nameMarkup, List.forall_mem_append, List.forall_mem_append, hname, ih,
      List.forall_mem_cons]
    exact and_congr_left fun _ => and_iff_left hbetween

theorem illegal?_eq_none_iff {names : List String} :
    illegal? names = none ↔ ∀ name ∈ names, IsMarkupText name :=
  firstIllegal?_eq_none_iff.trans isMarkup_nameMarkup_iff

theorem isMarkupText_spaced {name : String} (h : IsMarkupText name) :
    IsMarkupText (spaced name) := by
  intro c hc
  rw [spaced, String.toList_ofList] at hc
  obtain ⟨c', hc', rfl⟩ := List.mem_map.mp hc
  split
  · decide
  · exact h c' hc'

theorem isMarkupText_differing {before : List String} {name : String} (h : IsMarkupText name) :
    IsMarkupText (differing before name) := by
  unfold differing
  simp only
  split
  · split
    · exact h
    · exact isMarkupText_append h (isMarkupText_toString _)
  · exact h

theorem isMarkupText_differingAll {names : List String} (h : ∀ name ∈ names, IsMarkupText name) :
    ∀ name ∈ differingAll names, IsMarkupText name := by
  have hall : ∀ before : List String, (∀ name ∈ before, IsMarkupText name) →
      ∀ name ∈ names.foldl (fun before name => before ++ [differing before name]) before,
        IsMarkupText name := by
    induction names with
    | nil => exact fun _ hbefore => hbefore
    | cons first names ih =>
      intro before hbefore
      rw [List.forall_mem_cons] at h
      refine ih h.2 _ fun name hname => ?_
      rcases List.mem_append.mp hname with hold | hnew
      · exact hbefore name hold
      · rw [List.mem_singleton.mp hnew]
        exact isMarkupText_differing h.1
  exact hall [] fun _ hnone => absurd hnone List.not_mem_nil

/-- Nor does a name hold anything else as it is opened. -/
theorem isMarkupText_loadedNames {names : List String} (h : illegal? names = none) :
    ∀ name ∈ loadedNames names, IsMarkupText name := by
  refine isMarkupText_differingAll fun name hname => ?_
  obtain ⟨given, hgiven, rfl⟩ := List.mem_map.mp hname
  exact isMarkupText_spaced (illegal?_eq_none_iff.mp h given hgiven)

end Fresh

/-! ### Values -/

namespace Value
variable {style : Option TimeStyle} {v w : Value}

theorem isMarkup_stored (h : v.isMarkup = true) (hw : v.stored = some w) : w.isMarkup = true := by
  cases v with
  | text s =>
    obtain ⟨_, rfl⟩ := stored_text_eq_some_iff.mp hw
    simp only [isMarkup, List.all_eq_true, String.toList_ofList] at h ⊢
    exact Text.isMarkupChar_unifyLines h
  | boolean b | other s =>
    cases hw
    rfl
  | integer | float | dateTime | date | clock | span =>
    obtain ⟨n, _, rfl⟩ := Option.map_eq_some_iff.mp hw
    cases n <;> rfl

theorem isMarkup_loaded (h : v.isMarkup = true) : (v.loaded style).isMarkup = true := by
  rcases loaded_cases style v with hsame | htime | herror
  · rwa [hsame]
  · cases hv : v.loaded style with
    | text s => rw [hv] at htime; cases htime
    | _ => rfl
  · rw [herror]
    decide

end Value

/-! ### Sheets and workbooks -/

namespace Sheet
variable {s : Sheet}

/-- Markup can hold all texts of a sheet. -/
def Markup (s : Sheet) : Prop :=
  s.Each fun _ v => v.isMarkup = true

theorem markup_iff : s.Markup ↔ (s.values.toList.all fun v => v.2.2.isMarkup) = true := by
  rw [List.all_eq_true]
  exact forall_cell_iff

theorem markup_empty : (∅ : Sheet).Markup :=
  fun _ _ _ hv => nomatch hv

theorem Markup.stored (h : s.Markup) : s.stored.Markup := by
  intro r c w hw
  rw [cell_stored] at hw
  obtain ⟨v, hv, hw⟩ := Option.bind_eq_some_iff.mp hw
  exact Value.isMarkup_stored (h r c v hv) hw

theorem Markup.loaded (h : s.Markup) : s.loaded.Markup := by
  intro r c w hw
  rw [cell_loaded] at hw
  obtain ⟨v, hv, rfl⟩ := Option.map_eq_some_iff.mp hw
  exact Value.isMarkup_loaded (h r c v hv)

end Sheet

namespace Workbook
variable {w : Workbook} {name : String} {e : Sheet}

theorem isMarkup_iff :
    w.isMarkup = true ↔ (∀ name ∈ w.names, Text.IsMarkupText name) ∧ w.All Sheet.Markup := by
  simp only [isMarkup, List.all_eq_true, Bool.and_eq_true, names, List.forall_mem_map, All,
    Sheet.markup_iff, Text.IsMarkupText]
  exact ⟨fun h => ⟨fun x hx => (h x hx).1, fun x hx => (h x hx).2⟩,
    fun h x hx => ⟨h.1 x hx, h.2 x hx⟩⟩

theorem names_stored (w : Workbook) : w.stored.names = w.names := by
  simp [names, stored, Function.comp_def]

theorem names_loaded (w : Workbook) : w.loaded.names = w.names := by
  simp [names, loaded, Function.comp_def]

/-- A workbook that markup can hold is so as it is opened. -/
theorem isMarkup_loaded (h : w.isMarkup = true) : w.loaded.isMarkup = true := by
  rw [isMarkup_iff] at h ⊢
  refine ⟨by rw [names_loaded]; exact h.1, fun x hx => ?_⟩
  obtain ⟨y, hy, rfl⟩ := List.mem_map.mp hx
  exact (h.2 y hy).loaded

/-- So is what is saved of it, once a sheet was replaced by one that is saved as markup. -/
theorem isMarkup_stored_put {s : Sheet} (h : w.isMarkup = true) (hs : w.sheet? name = some s)
    (he : e.stored.Markup) : (w.put name e).stored.isMarkup = true := by
  rw [isMarkup_iff] at h ⊢
  refine ⟨by rw [names_stored, names_put]; exact h.1, ?_⟩
  exact all_stored_iff.mpr ((all_put_iff hs).mpr ⟨he, fun x hx _ => (h.2 x hx).stored⟩)

end Workbook

/-- What was opened to be changed is markup. -/
theorem Directory.isMarkup_openForChange {d : Directory} {file : String} {w : Workbook}
    (h : d.openForChange file = .ok w) : w.isMarkup = true := by
  rcases workbook_of_openForChange h with ⟨names, hw⟩ | ⟨_, kept, _, hkept, rfl⟩
  · obtain ⟨hlegal, rfl⟩ := changeableFresh_eq_ok_iff.mp hw
    refine Workbook.isMarkup_iff.mpr ⟨?_, fun x hx => ?_⟩
    · rw [Workbook.names_blank]
      exact Fresh.isMarkupText_loadedNames hlegal
    · obtain ⟨name, _, rfl⟩ := List.mem_map.mp hx
      exact Sheet.markup_empty
  · exact Workbook.isMarkup_loaded hkept

end SheetActions
