import SheetActions.Proofs.Histories
import SheetActions.Proofs.Moments
import SheetActions.Proofs.Reopening
import SheetActions.Proofs.Spans

/-! What files hold, and what readers make of it.

A file holds no dates and times but numbers, and the styles of their cells say what these mean
(`IsFiled`). A number can mean a date in a year that readers refuse, and then they refuse the
sheet. But the program that changes files takes in only what it can write down as a date or a
time, and what it keeps of the others is an error value: in a sheet that was opened to be changed
all values are legible once they are saved (`Loaded.legible`), and they stay so when their rows
move (`Each.openRows`). Sheets are as files hold them wherever requests lead (`Reached.filed`). -/
namespace SheetActions

namespace Binary64

/-- A finite number that comes of rounding has the form of one. -/
theorem fits_of_isFinite {x : Binary64} {q b : ℚ}
    (h : x.Rounds q ∨ (∃ negative, x = .infinity negative) ∧ b ≤ |q|) (hx : x.isFinite = true) :
    x.Fits := by
  rcases h with h | ⟨⟨negative, rfl⟩, _⟩
  · exact h.fits
  · cases hx

theorem fits_ofInt {n : Int} (h : (ofInt n).isFinite = true) : (ofInt n).Fits :=
  fits_of_isFinite (ofFraction_spec n one_ne_zero) h

end Binary64

namespace Value

/-- A value as a file holds it: there are no dates and times, and every finite number has the
form of one. -/
def IsFiled : Value → Prop
  | .float x => x.isFinite = true → x.Fits
  | .dateTime .. | .date _ | .clock _ | .span _ => False
  | _ => True

theorem isFiled_toValue {negative : Bool} {d : Decimal} : (d.number negative).toValue.IsFiled := by
  obtain ⟨y, hy, hread⟩ := d.number_spec negative
  cases hv : (d.number negative).toValue with
  | float x =>
    rw [hv] at hy
    cases hy
    intro hx
    rcases hread with hread | ⟨rfl, _⟩
    · exact hread.fits
    · cases hx
  | integer n => trivial
  | _ => rw [hv] at hy; cases hy

/-- What a file keeps of a value: what digits are read as, a text, a truth value or another
value. -/
theorem of_stored {P : Value → Prop}
    (number : ∀ negative (d : Decimal), P (d.number negative).toValue) (text : ∀ s, P (.text s))
    (boolean : ∀ b, P (.boolean b)) (other : ∀ s, P (.other s)) {v w : Value}
    (h : v.stored = some w) : P w := by
  have hnumber : ∀ {x}, storedNumber x = some w → P w := by
    intro x hx
    cases x with
    | finite negative m e =>
      rw [storedNumber_finite] at hx
      cases hx
      exact number ..
    | infinity negative => cases negative <;> cases hx
    | nan => cases hx
  cases v with
  | boolean b =>
    cases h
    exact boolean b
  | other s =>
    cases h
    exact other s
  | text s =>
    obtain ⟨_, rfl⟩ := stored_text_eq_some_iff.mp h
    exact text _
  | integer | float | dateTime | date | clock | span => exact hnumber h

theorem isFiled_stored {v w : Value} (h : v.stored = some w) : w.IsFiled :=
  of_stored (fun _ _ => isFiled_toValue) (fun _ => trivial) (fun _ => trivial) (fun _ => trivial) h

/-- What a file holds can be saved. -/
theorem isStorable_stored {v w : Value} (h : v.stored = some w) : w.isStorable = true :=
  of_stored (P := fun w => w.isStorable = true) (fun negative d => d.isStorable_number negative)
    (fun _ => rfl) (fun _ => rfl) (fun _ => rfl) h

/-! ### Values that readers can take over -/

/-- Readers can take over what a file keeps of a value in a cell of a style. -/
def IsLegible (style : Option TimeStyle) (v : Value) : Prop :=
  ∀ w u, v.stored = some w → w.seen style = some u → u.seenFlaw? = none

theorem IsFiled.timeStyle?_eq_none {v : Value} (hv : v.IsFiled) : v.timeStyle? = none := by
  cases v with
  | dateTime | date | clock | span => exact hv.elim
  | _ => rfl

/-- Only with dates and times something can be wrong. -/
theorem seenFlaw?_normalized {v u : Value} (hv : v.timeStyle? = none) (h : v.normalized = some u) :
    u.seenFlaw? = none := by
  cases v with
  | float x => cases hx : x.toInt? <;> simp [normalized, hx] at h <;> subst h <;> rfl
  | text s =>
    simp only [normalized] at h
    split at h
    · cases h
    · cases h
      rfl
  | boolean | integer | other =>
    cases h
    rfl
  | dateTime | date | clock | span => cases hv

/-- Where a value is not taken for a time, there is nothing wrong with it. -/
theorem seenFlaw?_plain {style : Option TimeStyle} {v u : Value} (hv : v.IsFiled)
    (hplain : style = none ∨ v.toBinary64? = none) (h : v.seen style = some u) :
    u.seenFlaw? = none := by
  unfold seen at h
  split at h
  · rename_i hnumber
    rcases hplain with hstyle | hplain
    · cases hstyle
    · cases hplain.symm.trans hnumber
  · split at h
    · cases h
    · exact seenFlaw?_normalized (v := .text _) rfl h
  · exact seenFlaw?_normalized hv.timeStyle?_eq_none h

/-- Legible is every value whose number is within the bounds of its style. -/
theorem isLegible_of_within {style : TimeStyle} {v : Value} {x : Binary64} {a b : ℚ}
    (hv : Serial.ofValue? v = some x) (hx : x.Within a b)
    (h : ∀ t y u, x.Keeps t y → (style.seen y).normalized = some u → u.seenFlaw? = none) :
    v.IsLegible (some style) := by
  intro w u hw hu
  obtain ⟨t, w', y, hw', hy, hkeeps⟩ := Binary64.exists_storedNumber hx.fits
  rw [stored_of_ofValue? hv] at hw
  cases hw.symm.trans hw'
  refine h t y u hkeeps ?_
  cases w <;> cases hy <;> exact hu

theorem isLegible_outOfRange (style : TimeStyle) : outOfRange.IsLegible (some style) := by
  intro w u hw hu
  have hkept : w = outOfRange := by
    have : outOfRange.stored = some outOfRange := by decide
    exact Option.some.inj (hw.symm.trans this)
  subst hkept
  have hseen : outOfRange.seen (some style) = none := by cases style <;> decide
  rw [hseen] at hu
  cases hu

/-- What the one program makes of a number in a cell of a style, the readers can take over. -/
theorem isLegible_value? {style : TimeStyle} {x : Binary64} (hx : x.isFinite = true → x.Fits) :
    ((style.value? x).getD outOfRange).IsLegible (some style) := by
  cases hv : style.value? x with
  | none => exact isLegible_outOfRange style
  | some v =>
    rw [Option.getD_some]
    cases style with
    | moment =>
      obtain ⟨z, hz, hwithin⟩ := Serial.within_ofValue?_of_readMoment? hv
      exact isLegible_of_within hz hwithin fun t y u hkeeps hu =>
        Serial.seenFlaw?_seeMoment (Serial.within_kept hwithin hkeeps) hu
    | span =>
      obtain ⟨z, hz, hwithin⟩ :=
        Serial.within_ofValue?_of_readSpan? (Serial.fits_of_readSpan? hx hv) hv
      exact isLegible_of_within hz hwithin fun t y u hkeeps hu =>
        Serial.seenFlaw?_seeSpan (Serial.within_kept_span hwithin hkeeps) hu

/-- Whatever a file holds in a cell, once it was opened to be changed and saved, the readers can
take it over. -/
theorem isLegible_loaded {style : Option TimeStyle} {v : Value} (hv : v.IsFiled) :
    (v.loaded style).IsLegible style := by
  have hplain : (∀ w, v.stored = some w → style = none ∨ w.toBinary64? = none) →
      v.IsLegible style := fun hnumber w u hw hu =>
    seenFlaw?_plain (isFiled_stored hw) (hnumber w hw) hu
  cases style with
  | none => exact hplain fun _ _ => .inl rfl
  | some style =>
    cases v with
    | integer n => exact isLegible_value? Binary64.fits_ofInt
    | float x => exact isLegible_value? hv
    | boolean b | other s =>
      refine hplain fun w hw => .inr ?_
      cases hw
      rfl
    | text s =>
      refine hplain fun w hw => .inr ?_
      obtain ⟨_, rfl⟩ := stored_text_eq_some_iff.mp hw
      rfl
    | _ => exact hv.elim

end Value

/-! ### Sheets -/

namespace Sheet
variable {s t o e : Sheet} {P : Option TimeStyle → Value → Prop}

/-- All values of a sheet have a property, which can depend on the styles of their cells. -/
def Each (P : Option TimeStyle → Value → Prop) (s : Sheet) : Prop :=
  ∀ r c v, s.cell r c = some v → P (s.style r c) v

/-- A value moves with the style of its cell. -/
theorem Each.openedAt (h : s.Each P) (r : Run) : (s.openedAt r).Each P := by
  intro i c v hv
  rw [Sheet.openedAt, cell_moved s r.length_pos] at hv
  rw [Sheet.openedAt, style_moved s r.length_pos]
  split at hv
  · rename_i hmoved
    rw [if_pos hmoved]
    exact h _ c v hv
  · rename_i hmoved
    rw [if_neg hmoved]
    split at hv
    · cases hv
    · rename_i hleft
      rw [if_neg hleft]
      exact h i c v hv

theorem Each.openRows {rows : IndexSet} (h : s.Each P) (ho : s.openRows rows = .done o) :
    o.Each P :=
  of_openRows (fun _ r ht => Each.openedAt ht r) h ho

/-- No token is a date or a time. -/
theorem timeStyle?_of_coerce {token : String} {v : Value} (hv : coerce token = .ok v) :
    v.timeStyle? = none := by
  rcases coerce_cases hv with rfl | ⟨_, n, rfl⟩
  · rfl
  · cases n <;> rfl

theorem timeStyle?_of_content {v : Value} {kept : Option Value} (hv : v.timeStyle? = none)
    (h : content v = .ok kept) : kept.bind Value.timeStyle? = none := by
  cases v with
  | other => cases h
  | text s =>
    simp only [content] at h
    split at h
    · cases h
    · cases h
      split <;> rfl
  | boolean | integer | float =>
    cases h
    rfl
  | dateTime | date | clock | span => cases hv

/-- So writing tokens gives no cell a style. -/
theorem style_of_run {overwrite : Bool} {l : List Target}
    (h : Progress.run (writeToken overwrite) s l = .done e) (r c : Nat) :
    e.style r c = s.style r c := by
  refine of_run (P := fun t => t.style r c = s.style r c) (fun t a v kept hv hkept ht => ?_) rfl h
  have hstyles : t.stylesWith a.row a.column kept = t.styles := by
    rw [stylesWith, timeStyle?_of_content (timeStyle?_of_coerce hv) hkept]
  show (t.stylesWith a.row a.column kept).get? r c = _
  rw [hstyles]
  exact ht

/-! ### Files -/

/-- A sheet is as a file holds it. -/
def Filed (s : Sheet) : Prop :=
  s.Each fun _ v => v.IsFiled

theorem filed_stored (s : Sheet) : s.stored.Filed := by
  intro r c v hv
  rw [cell_stored] at hv
  obtain ⟨w, _, hw⟩ := Option.bind_eq_some_iff.mp hv
  exact Value.isFiled_stored hw

/-- Readers can take over all of a sheet once it is saved. -/
def Legible (s : Sheet) : Prop :=
  s.Each fun style v => v.IsLegible style

/-- Each value of a sheet is what a value of a file was taken for. -/
def Loaded (s : Sheet) : Prop :=
  s.Each fun style v => ∃ w : Value, w.IsFiled ∧ v = w.loaded style

theorem loaded_empty : (∅ : Sheet).Loaded :=
  fun _ _ _ hv => nomatch hv

theorem loaded_loaded (h : s.Filed) : s.loaded.Loaded := by
  intro r c v hv
  rw [cell_loaded] at hv
  obtain ⟨w, hw, rfl⟩ := Option.map_eq_some_iff.mp hv
  exact ⟨w, h r c w hw, rfl⟩

theorem Loaded.legible (h : s.Loaded) : s.Legible := by
  intro r c v hv
  obtain ⟨w, hw, rfl⟩ := h r c v hv
  exact Value.isLegible_loaded hw

end Sheet

/-- All sheets in the files are as files hold them. -/
def Directory.Filed (d : Directory) : Prop :=
  d.All Sheet.Filed

theorem Directory.Filed.openForChange {d : Directory} {file : String} {w : Workbook}
    (filed : d.Filed) (h : d.openForChange file = .ok w) : w.All Sheet.Loaded :=
  All.openForChange filed Sheet.loaded_empty (fun _ => Sheet.loaded_loaded) h

/-- What a request saves is as files hold it again. -/
theorem AddRequest.filed_run {r : AddRequest} {d : Directory} (filed : d.Filed) :
    (r.run d).2.Filed :=
  all_run Sheet.filed_stored filed

namespace Directory.Reached
variable {d : Directory}

/-- Wherever requests lead from an empty directory, be it to create workbooks or to add data, all
sheets are as files hold them. -/
theorem filed (reached : d.Reached) : d.Filed :=
  reached.all fun _ _ => AddRequest.filed_run

/-- And nothing lies beyond their touched cells. -/
theorem covered (reached : d.Reached) : d.Covered :=
  reached.all fun _ _ => AddRequest.covered_run

end Directory.Reached

end SheetActions
