import SheetActions.Proofs.Operators
import SheetActions.Proofs.Overflow
import SheetActions.Proofs.StoredTexts

/-! Numbers that are not finite.

A token is taken for a number by its spelling, whatever its value is. So the numeral of a decimal
that is too large becomes an infinity (`isFinite_of_coerce`), which is written to its cell without a
failure, and the saved file has nothing there. No other token leads to a number that is not finite,
but a file keeps only sixteen digits of a number, and those of the greatest numbers are read as an
infinity (`AddRequest.infinities_written`). -/
namespace SheetActions

/-- A numeral of a decimal that is too large for a number. -/
def Overflows (token : String) : Prop :=
  ∃ negative digits exponent,
    Numeral.read? token.toList = some (.decimal negative digits exponent) ∧
      Binary64.overflow ≤ natOfDigits digits * (10 : ℚ) ^ exponent

/-- A numeral of a number of which a file keeps too large a one. -/
def OverflowsKept (token : String) : Prop :=
  ∃ v x, coerce token = .ok v ∧ v.toBinary64? = some x ∧ x.isFinite = true ∧
    Binary64.keptOverflow ≤ |x.value|

/-- A cell has a number that is not finite. -/
def NotFinite (cell : Option Value) : Prop :=
  ∃ n, cell.bind Value.number? = some n ∧ n.isFinite = false

/-! ### Tokens -/

section Coerced
variable {token : String} {v : Value} (h : coerce token = .ok v)
include h

theorem coerced_of_read? {numeral : Numeral} (hread : Numeral.read? token.toList = some numeral) :
    v = numeral.value.toValue := by
  simp only [coerce, hread] at h
  split at h
  · cases h
  · exact (Except.ok.inj h).symm

theorem exists_numeral {n : Number} (hn : v.number? = some n) :
    ∃ numeral, Numeral.read? token.toList = some numeral ∧ numeral.value = n := by
  cases hread : Numeral.read? token.toList with
  | none =>
    simp only [coerce, hread] at h
    cases h
    cases hn
  | some numeral =>
    cases coerced_of_read? h hread
    rw [Number.number?_toValue] at hn
    exact ⟨numeral, rfl, Option.some.inj hn⟩

/-- What a token becomes is finite if and only if the token is no numeral of too large a decimal. -/
theorem isFinite_of_coerce {n : Number} (hn : v.number? = some n) :
    n.isFinite = true ↔ ¬ Overflows token := by
  obtain ⟨numeral, hread, rfl⟩ := exists_numeral h hn
  cases numeral with
  | integer negative digits =>
    refine iff_of_true rfl ?_
    rintro ⟨_, _, _, hdecimal, _⟩
    cases hread.symm.trans hdecimal
  | decimal negative digits exponent =>
    rw [Numeral.value, Number.isFinite, Binary64.isFinite_ofDecimal, ← not_le, not_iff_not]
    constructor
    · exact fun hlarge => ⟨negative, digits, exponent, hread, hlarge⟩
    · rintro ⟨_, _, _, hdecimal, hlarge⟩
      cases hread.symm.trans hdecimal
      exact hlarge

theorem exists_number_of_overflows (hlarge : Overflows token) : ∃ n, v.number? = some n := by
  obtain ⟨_, _, _, hread, _⟩ := hlarge
  rw [coerced_of_read? h hread]
  exact ⟨_, Number.number?_toValue _⟩

/-- A finite number that a token becomes has the form of one. -/
theorem fits_of_coerce {x : Binary64} (hx : v.toBinary64? = some x) (hfinite : x.isFinite = true) :
    x.Fits := by
  cases v with
  | integer n =>
    cases hx
    exact Binary64.fits_ofInt hfinite
  | float y =>
    cases hx
    obtain ⟨numeral, _, hvalue⟩ := exists_numeral h rfl
    cases numeral with
    | integer => cases hvalue
    | decimal negative digits exponent =>
      cases hvalue
      rcases Binary64.ofDecimal_spec negative (natOfDigits digits) exponent with hread | hread
      · exact hread.fits
      · rw [hread.1] at hfinite
        cases hfinite
  | _ => cases hx

end Coerced

/-! ### Cells -/

namespace Sheet
variable {e : Sheet} {r c : Nat} {token : String}

/-- A token is in a cell, and its sheet is saved: an infinity is written for a numeral of too large
a decimal and for no other token, and the file has nothing for it. Of the greatest numbers the file
has an infinity. -/
structure TakesNumber (e : Sheet) (r c : Nat) (token : String) : Prop where
  written : NotFinite (e.cell r c) ↔ Overflows token
  blank : e.stored.cell r c = none ↔ token = "" ∨ Overflows token
  kept : NotFinite (e.stored.cell r c) ↔ OverflowsKept token

theorem takesNumber_of_text {kept : Option Value} (hv : coerce token = .ok (.text token))
    (hkept : content (.text token) = .ok kept) (hcell : e.cell r c = kept) :
    e.TakesNumber r c token := by
  have hsmall : ¬ Overflows token := fun hlarge => nomatch exists_number_of_overflows hv hlarge
  have hnone : ¬ OverflowsKept token := by
    rintro ⟨v, x, hv', hx, _⟩
    cases hv.symm.trans hv'
    cases hx
  by_cases hempty : token = ""
  · have hblank := (content_text_eq_ok_iff.mp hkept).2
    rw [if_pos hempty] at hblank
    subst hblank
    refine ⟨iff_of_false ?_ hsmall, iff_of_true ?_ (.inl hempty), iff_of_false ?_ hnone⟩
    · rw [hcell]
      nofun
    · rw [cell_stored, hcell]
      rfl
    · rw [cell_stored, hcell]
      nofun
  · have hwritten := (content_text_eq_ok_iff.mp hkept).2
    have hstored := stored_of_content_text hempty hkept
    rw [if_neg hempty] at hwritten
    rw [← hcell, ← cell_stored] at hstored
    refine ⟨iff_of_false ?_ hsmall, iff_of_false ?_ ?_, iff_of_false ?_ hnone⟩
    · rw [hcell, hwritten]
      nofun
    · rw [hstored]
      nofun
    · exact not_or.mpr ⟨hempty, hsmall⟩
    · rw [hstored]
      nofun

theorem takesNumber_of_number {n : Number} (hv : coerce token = .ok n.toValue) (hne : token ≠ "")
    (hcell : e.cell r c = some n.toValue) (storable : n.toValue.isStorable = true) :
    e.TakesNumber r c token := by
  have hfinite := isFinite_of_coerce hv (Number.number?_toValue n)
  have hwritten : NotFinite (e.cell r c) ↔ Overflows token := by
    rw [hcell, ← not_iff_not, ← hfinite, NotFinite, Option.bind_some, Number.number?_toValue]
    simp
  obtain ⟨x, hx, hsame⟩ : ∃ x, n.toValue.toBinary64? = some x ∧ x.isFinite = n.isFinite := by
    cases n with
    | integer k => exact ⟨_, rfl, storable⟩
    | float x => exact ⟨x, rfl, rfl⟩
  have hstored : e.stored.cell r c = Value.storedNumber x := by
    rw [cell_stored, hcell, Option.bind_some, Value.stored_of_toBinary64? hx]
  have hkept : OverflowsKept token ↔
      x.isFinite = true ∧ Binary64.keptOverflow ≤ |x.value| := by
    constructor
    · rintro ⟨v, y, hv', hy, hrest⟩
      cases hv.symm.trans hv'
      cases hx.symm.trans hy
      exact hrest
    · exact fun hrest => ⟨_, x, hv, hx, hrest⟩
  by_cases hfinite' : x.isFinite = true
  · obtain ⟨k, hk, hbound⟩ := Value.isFinite_storedNumber (fits_of_coerce hv hx hfinite')
    refine ⟨hwritten, iff_of_false ?_ ?_, ?_⟩
    · rw [hstored, hk]
      nofun
    · exact not_or.mpr ⟨hne, hfinite.mp (hsame ▸ hfinite')⟩
    · rw [hkept, and_iff_right hfinite', ← not_lt, ← hbound, hstored, hk, NotFinite,
        Option.bind_some, Number.number?_toValue]
      simp
  · have hgone : Value.storedNumber x = none :=
      Option.eq_none_iff_forall_ne_some.mpr fun w hw =>
        hfinite' (Value.isFinite_of_storedNumber hw)
    refine ⟨hwritten, iff_of_true ?_ (.inr ?_), iff_of_false ?_ ?_⟩
    · rw [hstored, hgone]
    · rw [hsame, hfinite, not_not] at hfinite'
      exact hfinite'
    · rw [hstored, hgone]
      nofun
    · exact fun h => hfinite' (hkept.mp h).1

/-- So it is with all tokens that were written to a sheet that is saved. -/
theorem takesNumber_of_run {s : Sheet} {overwrite : Bool} {l : List Target}
    (distinct : (l.map Target.place).Nodup)
    (h : Progress.run (writeToken overwrite) s l = .done e) (savable : e.Savable) {a : Target}
    (ha : a ∈ l) : e.TakesNumber a.row a.column a.token := by
  obtain ⟨_, v, kept, hv, hkept, hcell⟩ := content_of_run distinct h a ha
  rcases coerce_cases hv with rfl | ⟨hne, n, rfl⟩
  · exact takesNumber_of_text hv hkept hcell
  · rw [content_toValue] at hkept
    cases hkept
    exact takesNumber_of_number hv hne hcell (savable.storable _ _ _ hcell)

end Sheet

/-! ### Requests -/

namespace AddRequest

/-- **Overflow.** A token that becomes a number becomes an integer or a number that is not NaN, and
a finite one unless the token is a numeral of too large a decimal. A run that succeeds writes an
infinity for each such token and for no other, and saves nothing for it. -/
theorem infinities_written (r : AddRequest) (d : Directory) :
    (∀ token v n, coerce token = .ok v → v.number? = some n →
      n ≠ .float .nan ∧ (n.isFinite = true ↔ ¬ Overflows token)) ∧
    ((r.run d).1.isSuccess = true →
      ∃ u p header e, r.Found d u ∧ r.Placed u.sheet p ∧ r.headerTokens = .ok header ∧
        r.edit p u.sheet = .ok e ∧ (r.run d).2.sheet? u.file u.sheetName = some e.stored ∧
        ∀ a ∈ allTargets p header, e.TakesNumber a.row a.column a.token) := by
  constructor
  · intro token v n hv hn
    refine ⟨?_, isFinite_of_coerce hv hn⟩
    obtain ⟨numeral, _, rfl⟩ := exists_numeral hv hn
    exact numeral.value_ne_nan
  · intro success
    obtain ⟨u, e, saves⟩ := isSuccess_iff_saves.mp success
    obtain ⟨p, hp, hedit⟩ := changed_eq_some.mp saves.changed
    have placed := placed_of_plan hp
    obtain ⟨o, header, _, hheader, hrun⟩ := run_of_edit placed hedit
    refine ⟨u, p, header, e, found_of_subject saves.subject, placed, hheader, hedit,
      saves.sheet?, fun a ha => ?_⟩
    exact Sheet.takesNumber_of_run (nodup_allTargets placed hheader) hrun saves.sheet ha

theorem coerce_infinite : coerce "1e400" = .ok (.float (.infinity false)) := by
  have hread : Numeral.read? "1e400".toList = some (.decimal false ['1'] 400) := by decide +kernel
  have hvalue : Binary64.ofDecimal false (natOfDigits ['1']) 400 = .infinity false := by
    decide +kernel
  simp only [coerce, hread, Numeral.excess?, Numeral.value, hvalue, Number.toValue]

theorem isSuccess_infinite : ((single "1e400").run oneCell).1.isSuccess = true := by
  decide +kernel

/-- A decimal that is too large is added below the cell that is there. -/
theorem infinities_written_below :
    let token := "1e400"
    let n : Number := .float (.infinity false)
    let r := single token
    coerce token = .ok n.toValue ∧ n.toValue.number? = some n ∧
      (r.run oneCell).1.isSuccess = true ∧
      (n ≠ .float .nan ∧ (n.isFinite = true ↔ ¬ Overflows token)) ∧
      ∃ u p header e, r.Found oneCell u ∧ r.Placed u.sheet p ∧ r.headerTokens = .ok header ∧
        r.edit p u.sheet = .ok e ∧ (r.run oneCell).2.sheet? u.file u.sheetName = some e.stored ∧
        ∀ a ∈ allTargets p header, e.TakesNumber a.row a.column a.token :=
  ⟨coerce_infinite, rfl, isSuccess_infinite,
    (infinities_written (single "1e400") oneCell).1 _ _ _ coerce_infinite rfl,
    (infinities_written (single "1e400") oneCell).2 isSuccess_infinite⟩

/-- The token becomes an infinity and the run succeeds, but the cell is blank in the file. -/
theorem infinity_lost :
    ¬ (∀ token v n, coerce token = .ok v → v.number? = some n → n.isFinite = true) ∧
      coerce "1e400" = .ok (.float (.infinity false)) ∧
      ((single "1e400").run oneCell).1.isSuccess = true ∧
      (((single "1e400").run oneCell).2.sheet? "b.xlsx" "S").map (·.cell 1 0) = some none := by
  refine ⟨fun h => ?_, coerce_infinite, isSuccess_infinite, by decide +kernel⟩
  cases h _ _ _ coerce_infinite rfl

end AddRequest

end SheetActions
