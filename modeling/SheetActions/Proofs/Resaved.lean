import SheetActions.Proofs.Filed
import SheetActions.Proofs.ResavedMoments
import SheetActions.Proofs.ResavedSpans

/-! Sheets that are saved again.

What is kept of a value depends on what it is opened as: a number can mean a moment or a span, and a
number that means neither time nor date is kept as an error value. `settled_of_loaded` says of which
values the file holds the same after they were opened and saved once more. The others are the
infinite numbers, which are not kept at all, and the spans of more than five hundred years, which
can get longer each time. -/
namespace SheetActions

namespace Text

theorem return_not_mem_unifyLines (l : List Char) : '\r' ∉ unifyLines l := by
  fun_induction unifyLines l with
  | case1 r ih | case2 r _ ih => simpa using ih
  | case3 c r _ hreturn ih =>
    rw [List.mem_cons, not_or]
    exact ⟨fun hc => hreturn hc.symm, ih⟩
  | case4 => exact List.not_mem_nil

/-- Lines that end with line feeds are kept as they are. -/
theorem unifyLines_eq_self_iff {l : List Char} : unifyLines l = l ↔ '\r' ∉ l := by
  constructor
  · intro h
    rw [← h]
    exact return_not_mem_unifyLines l
  · intro h
    fun_induction unifyLines l with
    | case1 r _ | case2 r _ _ => exact absurd (List.mem_cons_self ..) h
    | case3 c r _ _ ih => rw [ih fun hmem => h (List.mem_cons_of_mem c hmem)]
    | case4 => rfl

/-- The ends of lines are unified once. -/
theorem unifyLines_unifyLines (l : List Char) : unifyLines (unifyLines l) = unifyLines l :=
  unifyLines_eq_self_iff.mpr (return_not_mem_unifyLines l)

theorem unifyLines_ne_nil {l : List Char} (h : l ≠ []) : unifyLines l ≠ [] := by
  fun_cases unifyLines l with
  | case4 => exact absurd rfl h
  | _ => simp

end Text

namespace Value
variable {style : Option TimeStyle} {v w : Value} {x y : Binary64}

theorem stored_of_toBinary64? (h : v.toBinary64? = some x) : v.stored = storedNumber x := by
  cases v <;> cases h <;> rfl

/-- What is no number is no date or time either. -/
theorem loaded_of_toBinary64?_eq_none (h : v.toBinary64? = none) : v.loaded style = v := by
  unfold loaded
  rw [h]
  cases style <;> rfl

theorem exists_toBinary64?_of_storedNumber (h : storedNumber x = some w) :
    ∃ y, w.toBinary64? = some y := by
  obtain ⟨n, _, rfl⟩ := Option.map_eq_some_iff.mp h
  cases n <;> exact ⟨_, rfl⟩

theorem isFinite_of_storedNumber (h : storedNumber x = some w) : x.isFinite = true := by
  cases x with
  | finite => rfl
  | infinity negative => cases negative <;> cases h
  | nan => cases h

/-- A finite number of a file has the form of one. -/
theorem IsFiled.fits (hv : v.IsFiled) (hx : v.toBinary64? = some x) (hfinite : x.isFinite = true) :
    x.Fits := by
  cases v <;> cases hx
  · exact Binary64.fits_ofInt hfinite
  · exact hv hfinite

/-- Only numbers are kept as numbers. -/
theorem IsFiled.toBinary64?_stored (hv : v.IsFiled) (hx : v.toBinary64? = none)
    (hw : v.stored = some w) : w.toBinary64? = none := by
  cases v with
  | text s =>
    obtain ⟨_, rfl⟩ := stored_text_eq_some_iff.mp hw
    rfl
  | boolean b | other s =>
    cases hw
    rfl
  | integer n | float x => cases hx
  | dateTime | date | clock | span => exact hv.elim

/-! ### Values that stay as they are -/

/-- A value of a file is kept as it is when the file is opened to be changed and saved again. -/
def Settled (style : Option TimeStyle) (v : Value) : Prop :=
  (v.loaded style).stored = some v

instance (style : Option TimeStyle) (v : Value) : Decidable (v.Settled style) :=
  inferInstanceAs (Decidable (_ = _))

/-- Whether a value of a file need not be settled: it is an infinite number, or a number that is
taken for a span but is not short. -/
def mayDrift (style : Option TimeStyle) (v : Value) : Bool :=
  v.toBinary64?.any fun x => !x.isFinite || style = some .span && !Serial.isShort x

/-- A value that is kept and is no number is settled. -/
theorem settled_of_stored (hw : v.stored = some w) (h : w.toBinary64? = none) :
    w.Settled style := by
  have hnumber : ∀ x, storedNumber x ≠ some w := fun x hx => by
    obtain ⟨y, hy⟩ := exists_toBinary64?_of_storedNumber hx
    cases hy.symm.trans h
  rw [Settled, loaded_of_toBinary64?_eq_none h]
  cases v with
  | text s =>
    obtain ⟨hne, rfl⟩ := stored_text_eq_some_iff.mp hw
    refine stored_text_eq_some_iff.mpr ⟨?_, ?_⟩
    · rw [← String.toList_inj.ne, String.toList_ofList]
      exact Text.unifyLines_ne_nil (String.toList_eq_nil_iff.not.mpr hne)
    · rw [String.toList_ofList, Text.unifyLines_unifyLines]
  | boolean b | other s =>
    cases hw
    rfl
  | _ => exact absurd hw (hnumber _)

/-- A number that is kept and is not infinite is settled where it is just a number. -/
theorem settled_number (hx : x.Fits) (hw : storedNumber x = some w)
    (hdrift : w.mayDrift none = false) : w.Settled none := by
  obtain ⟨y, hy⟩ := exists_toBinary64?_of_storedNumber hw
  have hfinite : y.isFinite = true := by
    simpa [mayDrift, hy] using hdrift
  show w.stored = some w
  rw [stored_of_toBinary64? hy]
  exact Binary64.storedNumber_again hx hw hy hfinite

/-- A number is settled if it is taken for what is saved as the same number. -/
theorem settled_of_value? {style : TimeStyle} {z : Binary64} (hw : storedNumber z = some w)
    (hy : w.toBinary64? = some y) (hv : style.value? y = some v)
    (hz : Serial.ofValue? v = some z) : w.Settled (some style) := by
  have hloaded : w.loaded (some style) = v := by
    unfold loaded
    rw [hy]
    show (style.value? y).getD outOfRange = v
    rw [hv]
    rfl
  rw [Settled, hloaded, stored_of_ofValue? hz]
  exact hw

/-- So is a number that is taken for a moment. -/
theorem settled_moment (hw : ((Serial.readMoment? x).getD outOfRange).stored = some w) :
    w.Settled (some .moment) := by
  cases hv : Serial.readMoment? x with
  | none =>
    rw [hv] at hw
    cases hw
    decide
  | some v =>
    rw [hv, Option.getD_some] at hw
    obtain ⟨z, hz, _⟩ := Serial.within_ofValue?_of_readMoment? hv
    rw [stored_of_ofValue? hz] at hw
    obtain ⟨y, hy⟩ := exists_toBinary64?_of_storedNumber hw
    obtain ⟨v', hv', hz'⟩ := Serial.exists_readMoment?_again hv hz hw hy
    exact settled_of_value? hw hy hv' hz'

/-- And a number that is taken for a span, if it is short. -/
theorem settled_span (hx : x.isFinite = true → x.Fits)
    (hw : ((Serial.readSpan? x).getD outOfRange).stored = some w)
    (hdrift : w.mayDrift (some .span) = false) : w.Settled (some .span) := by
  cases hv : Serial.readSpan? x with
  | none =>
    rw [hv] at hw
    cases hw
    decide
  | some v =>
    rw [hv, Option.getD_some] at hw
    have hfits := Serial.fits_of_readSpan? hx hv
    obtain ⟨z, hz, _⟩ := Serial.within_ofValue?_of_readSpan? hfits hv
    have hfiled := isFiled_stored hw
    rw [stored_of_ofValue? hz] at hw
    obtain ⟨y, hy⟩ := exists_toBinary64?_of_storedNumber hw
    have hshort : y.isFinite = true ∧ Serial.isShort y = true := by
      simpa [mayDrift, hy] using hdrift
    have hagain :=
      Serial.readSpan?_again hfits hv hz hw hy (hfiled.fits hy hshort.1) hshort.2
    exact settled_of_value? hw hy hagain hz

/-- **Saving again.** What is kept of a value that was opened from a file is settled, unless it
may drift. -/
theorem settled_of_loaded (hv : v.IsFiled) (hw : (v.loaded style).stored = some w)
    (hdrift : w.mayDrift style = false) : w.Settled style := by
  cases hnumber : w.toBinary64? with
  | none => exact settled_of_stored hw hnumber
  | some y =>
    cases hx : v.toBinary64? with
    | none =>
      rw [loaded_of_toBinary64?_eq_none hx] at hw
      rw [hv.toBinary64?_stored hx hw] at hnumber
      cases hnumber
    | some x =>
      cases style with
      | none =>
        have hkept : storedNumber x = some w := (stored_of_toBinary64? hx).symm.trans hw
        exact settled_number (hv.fits hx (isFinite_of_storedNumber hkept)) hkept hdrift
      | some style =>
        unfold loaded at hw
        rw [hx] at hw
        cases style with
        | moment => exact settled_moment hw
        | span => exact settled_span (hv.fits hx) hw hdrift

/-! ### Values that can be saved again -/

/-- What a number is taken for is a date or a time. -/
theorem timeStyle?_of_value? {style : TimeStyle} (h : style.value? x = some v) :
    v.timeStyle? = some style := by
  cases style with
  | moment =>
    obtain ⟨_, _, rfl | ⟨_, _, rfl⟩⟩ := Serial.eq_of_readMoment? h
    · rfl
    · rfl
  | span =>
    obtain ⟨_, _, h⟩ := Option.bind_eq_some_iff.mp h
    obtain ⟨_, _, h⟩ := Option.bind_eq_some_iff.mp h
    simp only at h
    split at h
    · cases h
    · cases h
      rfl

/-- A value of a file is taken as it is, or for a date or a time, or for an error value. -/
theorem loaded_cases (style : Option TimeStyle) (v : Value) :
    v.loaded style = v ∨ (v.loaded style).timeStyle?.isSome ∨ v.loaded style = outOfRange := by
  cases hx : v.toBinary64? with
  | none => exact .inl (loaded_of_toBinary64?_eq_none hx)
  | some x =>
    cases style with
    | none => exact .inl rfl
    | some style =>
      have hloaded : v.loaded (some style) = (style.value? x).getD outOfRange := by
        unfold loaded
        rw [hx]
      rw [hloaded]
      cases hv : style.value? x with
      | none => exact .inr (.inr rfl)
      | some v' =>
        rw [Option.getD_some, timeStyle?_of_value? hv]
        exact .inr (.inl rfl)

/-- What was opened from a file can be saved. -/
theorem isStorable_loaded (h : v.isStorable = true) : (v.loaded style).isStorable = true := by
  rcases loaded_cases style v with hsame | htime | herror
  · rwa [hsame]
  · cases hv : v.loaded style with
    | integer n => rw [hv] at htime; cases htime
    | _ => rfl
  · rw [herror]
    rfl

end Value

namespace Sheet
variable {s t : Sheet}

/-- A sheet that was saved can be saved once it is opened again. -/
theorem Savable.reloaded (h : s.Savable) (covered : s.Covered) : s.stored.loaded.Savable where
  columns := (columns_stored_le covered).trans h.columns
  storable := fun r c v hv => by
    rw [cell_loaded, cell_stored] at hv
    obtain ⟨w, hw, rfl⟩ := Option.map_eq_some_iff.mp hv
    obtain ⟨u, _, hw⟩ := Option.bind_eq_some_iff.mp hw
    exact Value.isStorable_loaded (Value.isStorable_stored hw)

/-- What is saved of a sheet is fixed by what is saved of its cells, by the styles and by the
heights. -/
theorem stored_congr (hcell : ∀ r c, s.stored.cell r c = t.stored.cell r c)
    (hstyle : ∀ r c, s.style r c = t.style r c) (hheight : ∀ r, s.height r = t.height r) :
    s.stored = t.stored := by
  have hvalues : s.stored.values = t.stored.values := Grid.ext_get? hcell
  have hstyles : s.styles = t.styles := Grid.ext_get? hstyle
  refine ext_cell hcell hstyle hheight ?_
  show (Extent.ofGrid s.stored.values).join (.ofGrid s.styles) =
    (Extent.ofGrid t.stored.values).join (.ofGrid t.styles)
  rw [hvalues, hstyles]

end Sheet

end SheetActions
