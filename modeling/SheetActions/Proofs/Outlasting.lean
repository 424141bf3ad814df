import SheetActions.Proofs.Resaved

/-! What outlasts a change of its file.

A file is changed by opening it and saving it again, and a value comes through that as it is if it
`Outlasts` it. For a value of a file this is no more and no less than to be settled
(`outlasts_iff_settled`), but it says by kinds which values these are. Once a file was changed, all
of its values are among them, unless they may drift (`outlasts_of_loaded`). -/
namespace SheetActions

/-! ### Values -/

namespace Value
variable {style : Option TimeStyle} {v w : Value} {x : Binary64}

/-- A value that comes through a change of its file, in a cell of a style. The lines of a text end
with line feeds. A number that is just a number is what its sixteen digits are read as; one that
means a date or a time is the one that is written for it. -/
inductive Outlasts : Option TimeStyle → Value → Prop
  | text {style : Option TimeStyle} {s : String} (filled : s ≠ "") (lines : '\r' ∉ s.toList) :
    Outlasts style (.text s)
  | boolean {style : Option TimeStyle} {b : Bool} : Outlasts style (.boolean b)
  | other {style : Option TimeStyle} {s : String} : Outlasts style (.other s)
  | number {v : Value} {x : Binary64} (number : v.toBinary64? = some x)
    (digits : storedNumber x = some v) : Outlasts none v
  | time {style : TimeStyle} {v t : Value} {x z : Binary64} (number : v.toBinary64? = some x)
    (meant : style.value? x = some t) (written : Serial.ofValue? t = some z)
    (digits : storedNumber z = some v) : Outlasts (some style) v

theorem Outlasts.settled (h : v.Outlasts style) : v.Settled style := by
  cases h with
  | text filled lines =>
    rw [Settled, loaded_of_toBinary64?_eq_none rfl]
    refine stored_text_eq_some_iff.mpr ⟨filled, ?_⟩
    rw [Text.unifyLines_eq_self_iff.mpr lines, String.ofList_toList]
  | boolean | other =>
    rw [Settled, loaded_of_toBinary64?_eq_none rfl]
    rfl
  | number hx digits => exact (stored_of_toBinary64? hx).trans digits
  | time hx meant written digits => exact settled_of_value? digits hx meant written

/-- Where no style is in the way, a value that outlasts a change is kept when it is saved. -/
theorem Outlasts.stored (h : v.Outlasts none) : v.stored = some v :=
  h.settled

/-- A number that is settled outlasts a change of its file. -/
theorem Settled.outlasts_of_number (h : v.Settled style) (hx : v.toBinary64? = some x) :
    v.Outlasts style := by
  cases style with
  | none => exact .number hx ((stored_of_toBinary64? hx).symm.trans h)
  | some style =>
    have hloaded : v.loaded (some style) = (style.value? x).getD outOfRange := by
      unfold loaded
      rw [hx]
    rw [Settled, hloaded] at h
    cases hmeant : style.value? x with
    | none =>
      rw [hmeant] at h
      cases h
      cases hx
    | some t =>
      rw [hmeant, Option.getD_some] at h
      obtain ⟨z, hz⟩ : ∃ z, Serial.ofValue? t = some z := by
        have htime := timeStyle?_of_value? hmeant
        cases t with
        | dateTime | date | clock | span => exact ⟨_, rfl⟩
        | _ => cases htime
      exact .time hx hmeant hz ((stored_of_ofValue? hz).symm.trans h)

/-- Of the values of a file exactly those that are settled outlast a change of it. -/
theorem outlasts_iff_settled (hv : v.IsFiled) : v.Outlasts style ↔ v.Settled style := by
  refine ⟨Outlasts.settled, fun h => ?_⟩
  cases v with
  | text s =>
    rw [Settled, loaded_of_toBinary64?_eq_none rfl] at h
    obtain ⟨filled, hsame⟩ := stored_text_eq_some_iff.mp h
    rw [Value.text.injEq, ← String.toList_inj, String.toList_ofList, eq_comm] at hsame
    exact .text filled (Text.unifyLines_eq_self_iff.mp hsame)
  | boolean => exact .boolean
  | other => exact .other
  | integer | float => exact h.outlasts_of_number rfl
  | dateTime | date | clock | span => exact hv.elim

theorem outlasts_integer {n : Int} (h : |n| ≤ 2 ^ 53) : (integer n).Outlasts none :=
  .number rfl (storedNumber_ofInt h)

/-- A number that a file keeps of another one outlasts all changes, unless it is infinite. -/
theorem outlasts_of_storedNumber {y : Binary64} (hx : x.Fits) (hw : storedNumber x = some w)
    (hy : w.toBinary64? = some y) (hfinite : y.isFinite = true) : w.Outlasts none :=
  .number hy (Binary64.storedNumber_again hx hw hy hfinite)

/-- **After a change.** What a file keeps of a value that was opened outlasts the changes to come,
unless it may drift. -/
theorem outlasts_of_loaded (hv : v.IsFiled) (hw : (v.loaded style).stored = some w)
    (hdrift : w.mayDrift style = false) : w.Outlasts style :=
  (outlasts_iff_settled (isFiled_stored hw)).mpr (settled_of_loaded hv hw hdrift)

end Value

/-! ### Sheets -/

namespace Sheet
variable {s e t : Sheet} {r c i j : Nat}

/-- What the cell `(r, c)` of a sheet `s` of a file held is found at `(i, j)` of the sheet `t`, with
its style, as far as it outlasts a change of the file. -/
structure KeepsCell (s t : Sheet) (r c i j : Nat) : Prop where
  blank : s.cell r c = none → t.cell i j = none
  value : ∀ v, s.cell r c = some v → v.Outlasts (s.style r c) → t.cell i j = some v
  style : ∀ v, s.cell r c = some v → t.style i j = s.style r c

/-- A sheet that was left alone while its file was changed: its cells are kept in their places. -/
structure Kept (s t : Sheet) : Prop where
  cell : ∀ r c, s.KeepsCell t r c r c
  style : ∀ r c, t.style r c = s.style r c
  height : ∀ r, t.height r = s.height r

/-- The cells of an opened sheet that are found in a sheet to be saved are kept. -/
theorem keepsCell_stored (hcell : e.cell i j = s.loaded.cell r c)
    (hstyle : ∀ v, s.loaded.cell r c = some v → e.style i j = s.style r c) :
    s.KeepsCell e.stored r c i j := by
  have hloaded := hcell.trans (s.cell_loaded r c)
  refine ⟨fun hnone => ?_, fun v hv houtlasts => ?_, fun v hv => ?_⟩
  · rw [cell_stored, hloaded, hnone]
    rfl
  · rw [cell_stored, hloaded, hv]
    exact houtlasts.settled
  · exact hstyle _ ((s.cell_loaded r c).trans (by rw [hv]; rfl))

/-- Opening a sheet and saving it keeps all there is of it. -/
theorem kept_stored_loaded (s : Sheet) : s.Kept s.loaded.stored where
  cell := fun _ _ => keepsCell_stored rfl fun _ _ => rfl
  style := fun _ _ => rfl
  height := fun _ => rfl

/-- A cell of a file holds a token, or rather what the token stands for, as far as that is kept in
files; for the empty token it is blank. -/
def KeepsToken (s : Sheet) (r c : Nat) (token : String) : Prop :=
  ∃ v, coerce token = .ok v ∧ (token = "" → s.cell r c = none) ∧
    (v.Outlasts none → s.cell r c = some v)

/-- Tokens that were written are kept when they are saved. -/
theorem Holds.keepsToken {token : String} (h : e.Holds r c token) :
    e.stored.KeepsToken r c token := by
  obtain ⟨v, hv, hcell⟩ := h
  refine ⟨v, hv, fun hempty => ?_, fun houtlasts => ?_⟩
  · rw [cell_stored, hcell, if_pos hempty]
    rfl
  · have hne : token ≠ "" := by
      rintro rfl
      cases hv
      cases houtlasts with
      | text filled _ => exact filled rfl
      | number hx _ => cases hx
    rw [cell_stored, hcell, if_neg hne]
    exact houtlasts.stored

end Sheet

end SheetActions
