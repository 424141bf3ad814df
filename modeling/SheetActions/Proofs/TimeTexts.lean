import Mathlib.Data.List.Basic
import SheetActions.Cell.Coercion
import SheetActions.Proofs.NumberTexts

/-! Dates and times as texts.

The text of a date or a time starts with digits, as a numeral does, but goes on with a dash, a
colon or a space, and it ends with digits (`IsMarked`). So trimming leaves it alone, and it never
is a numeral (`IsMarked.numberOf_trim`). That holds of every value that is a date or a time, and
of truth values as well (`Value.numberOf_rendered`). -/
namespace SheetActions

/-! ### Texts that are no numerals -/

namespace Numeral

/-- Behind the digits of a numeral there is a point or an exponent, if anything. -/
theorem read?_of_behind {negative : Bool} {whole rest : List Char} {c : Char} (hne : whole ≠ [])
    (h : ∀ c ∈ whole, c.isDigit = true) (hc : c.isDigit = false) (hpoint : c ≠ '.')
    (hmark : c ≠ 'e' ∧ c ≠ 'E') (hline : '\n' ∉ c :: rest) :
    read? (minus negative ++ (whole ++ c :: rest)) = none := by
  have hfraction : fraction (c :: rest) = ([], c :: rest) := by
    unfold fraction
    split
    · rename_i heq
      cases heq
      exact absurd rfl hpoint
    · rfl
  have hexponent : exponent? (c :: rest) = none := by
    simp [exponent?, hmark.1, hmark.2]
  have hstart : ∀ x ∈ (c :: rest).head?, x.isDigit = false := by
    rintro x ⟨⟩
    exact hc
  rw [read?_rest hne h (List.cons_ne_nil _ _) hstart hline, hfraction, hexponent]
  rfl

end Numeral

theorem numberOf_of_read? {s : String} (h : Numeral.read? s.toList = none) :
    numberOf s = .ok none := by
  simp only [numberOf, coerce, h]
  rfl

theorem toList_padded (width n : Nat) : ∃ k, (padded width n).toList =
    List.replicate k '0' ++ Nat.toDigits 10 n :=
  ⟨_, String.toList_ofList⟩

theorem isDigit_padded {width n : Nat} : ∀ c ∈ (padded width n).toList, c.isDigit = true := by
  obtain ⟨k, hk⟩ := toList_padded width n
  rw [hk]
  intro c hc
  rcases List.mem_append.mp hc with hc | hc
  · exact Numeral.isDigit_zeros c hc
  · exact isDigit_of_mem hc

theorem toList_padded_ne_nil (width n : Nat) : (padded width n).toList ≠ [] := by
  obtain ⟨k, hk⟩ := toList_padded width n
  rw [hk]
  exact List.append_ne_nil_of_right_ne_nil _ Nat.toDigits_ne_nil

/-! ### Dates and times -/

/-- A text that starts as a numeral does but goes on with a dash, a colon or a space, and that ends
with digits. -/
structure IsMarked (l : List Char) : Prop where
  starts : ∃ negative whole c rest, l = Numeral.minus negative ++ (whole ++ c :: rest) ∧
    whole ≠ [] ∧ (∀ d ∈ whole, d.isDigit = true) ∧ c ∈ ['-', ':', ' ']
  ends : ∃ before width n, l = before ++ (padded width n).toList
  line : '\n' ∉ l

theorem IsMarked.trimBy {l : List Char} (h : IsMarked l) : Text.trimBy Text.isBlank l = l := by
  refine Text.trimBy_of_ends (fun c hc => ?_) fun c hc => ?_
  · obtain ⟨negative, whole, _, _, rfl, hne, hdigits, _⟩ := h.starts
    obtain ⟨d, digits, rfl⟩ := List.exists_cons_of_ne_nil hne
    cases negative
    · cases hc
      exact Text.isBlank_of_isDigit (hdigits _ (List.mem_cons_self ..))
    · cases hc
      decide
  · obtain ⟨before, width, n, rfl⟩ := h.ends
    rw [List.getLast?_append_of_ne_nil _ (toList_padded_ne_nil width n)] at hc
    exact Text.isBlank_of_isDigit (isDigit_padded c (List.mem_of_getLast? hc))

theorem IsMarked.numberOf_trim {s : String} (h : IsMarked s.toList) :
    numberOf (Text.trim s) = .ok none := by
  refine numberOf_of_read? ?_
  rw [Text.trim, String.toList_ofList, h.trimBy]
  obtain ⟨negative, whole, c, rest, hs, hne, hdigits, hc⟩ := h.starts
  have hline := h.line
  rw [hs] at hline ⊢
  have hbehind : '\n' ∉ c :: rest := fun hmem =>
    hline (List.mem_append_right _ (List.mem_append_right _ hmem))
  have hmark : c.isDigit = false ∧ c ≠ '.' ∧ c ≠ 'e' ∧ c ≠ 'E' := by
    simp only [List.mem_cons, List.not_mem_nil, or_false] at hc
    rcases hc with rfl | rfl | rfl <;> decide
  exact Numeral.read?_of_behind hne hdigits hmark.1 hmark.2.1 hmark.2.2 hbehind

/-- The text of a time of day behind its hour. -/
def Clock.behindHour (t : Clock) : String :=
  ":" ++ padded 2 t.minute ++ ":" ++ padded 2 t.second
    ++ (if t.microsecond = 0 then "" else "." ++ padded 6 t.microsecond)

theorem Clock.text_eq (t : Clock) : t.text = padded 2 t.hour ++ t.behindHour := by
  simp only [text, behindHour, String.append_assoc]

theorem not_mem_padded (width n : Nat) : '\n' ∉ (padded width n).toList :=
  Numeral.not_mem_of_digits isDigit_padded

theorem Clock.behindHour_spec (t : Clock) :
    (∃ rest, t.behindHour.toList = ':' :: rest) ∧
      (∃ before width n, t.behindHour.toList = before ++ (padded width n).toList) ∧
      '\n' ∉ t.behindHour.toList := by
  refine ⟨⟨_, by simp [behindHour]; rfl⟩, ?_, ?_⟩
  · unfold behindHour
    split
    · exact ⟨":".toList ++ (padded 2 t.minute).toList ++ ":".toList, 2, t.second, by simp⟩
    · exact ⟨":".toList ++ (padded 2 t.minute).toList ++ ":".toList ++ (padded 2 t.second).toList ++
        ".".toList, 6, t.microsecond, by simp⟩
  · unfold behindHour
    split <;> simp [not_mem_padded]

theorem isMarked_date (d : Date) (behind : String) (line : '\n' ∉ behind.toList)
    (ends : behind = "" ∨ ∃ before width n, behind.toList = before ++ (padded width n).toList) :
    IsMarked (d.text ++ behind).toList where
  starts := by
    refine ⟨false, (padded 4 d.year).toList, '-',
      (padded 2 d.month ++ "-" ++ padded 2 d.day ++ behind).toList, ?_,
      toList_padded_ne_nil 4 d.year, isDigit_padded, by decide⟩
    simp [Date.text, Numeral.minus]
  ends := by
    rcases ends with rfl | ⟨before, width, n, h⟩
    · exact ⟨_, 2, d.day, by rw [Date.text, String.append_empty, String.toList_append]⟩
    · exact ⟨d.text.toList ++ before, width, n, by
        rw [String.toList_append, h, List.append_assoc]⟩
  line := by
    simp only [Date.text, String.toList_append, List.mem_append, not_or]
    exact ⟨⟨⟨⟨⟨not_mem_padded _ _, by decide⟩, not_mem_padded _ _⟩, by decide⟩,
      not_mem_padded _ _⟩, line⟩

theorem isMarked_clock {l : List Char} {negative : Bool} {whole : List Char} (t : Clock)
    (hl : l = Numeral.minus negative ++ (whole ++ t.behindHour.toList)) (hne : whole ≠ [])
    (hdigits : ∀ d ∈ whole, d.isDigit = true) : IsMarked l := by
  obtain ⟨⟨rest, hrest⟩, ⟨before, width, n, hends⟩, hline⟩ := t.behindHour_spec
  subst hl
  refine ⟨⟨negative, whole, ':', rest, by rw [hrest], hne, hdigits, by decide⟩,
    ⟨Numeral.minus negative ++ (whole ++ before), width, n, by rw [hends]; simp⟩, ?_⟩
  refine Numeral.not_mem_signed fun h => ?_
  rcases List.mem_append.mp h with h | h
  · exact Numeral.not_mem_of_digits hdigits h
  · exact hline h

theorem toList_toString_int (n : Int) :
    (toString n).toList = Numeral.minus (n < 0) ++ Nat.toDigits 10 n.natAbs := by
  cases n with
  | ofNat n =>
    have hsign : ¬ (Int.ofNat n < 0) := by simp
    rw [decide_eq_false hsign]
    exact toList_toString_nat n
  | negSucc n =>
    rw [decide_eq_true (Int.negSucc_lt_zero n)]
    show ("-" ++ Nat.repr (n + 1)).toList = _
    rw [String.toList_append]
    exact congrArg _ (toList_toString_nat _)

/-- Behind days the hours have no zero in front. -/
theorem isMarked_days (days : Int) (t : Clock) :
    IsMarked ((if days = 0 then "" else toString days ++
      (if days.natAbs = 1 then " day, " else " days, ")) ++ toString t.hour ++ ":" ++
        padded 2 t.minute ++ ":" ++ padded 2 t.second ++
          (if t.microsecond = 0 then "" else "." ++ padded 6 t.microsecond)).toList := by
  have hhour : (toString t.hour ++ t.behindHour).toList =
      Numeral.minus false ++ (Nat.toDigits 10 t.hour ++ t.behindHour.toList) := by
    rw [String.toList_append, toList_toString_nat]
    rfl
  have hclock : IsMarked (toString t.hour ++ t.behindHour).toList :=
    isMarked_clock t hhour Nat.toDigits_ne_nil fun _ => isDigit_of_mem
  have hassoc : ∀ s : String, s ++ toString t.hour ++ ":" ++ padded 2 t.minute ++ ":" ++
      padded 2 t.second ++ (if t.microsecond = 0 then "" else "." ++ padded 6 t.microsecond) =
        s ++ (toString t.hour ++ t.behindHour) := by
    intro s
    simp only [Clock.behindHour, String.append_assoc]
  rw [hassoc]
  split
  · rw [String.empty_append]
    exact hclock
  · obtain ⟨rest, hunit, hline⟩ : ∃ rest,
        (if days.natAbs = 1 then " day, " else " days, ").toList = ' ' :: rest ∧ '\n' ∉ rest := by
      split
      · exact ⟨"day, ".toList, rfl, by decide⟩
      · exact ⟨"days, ".toList, rfl, by decide⟩
    obtain ⟨before, width, n, hends⟩ := hclock.ends
    rw [String.toList_append, String.toList_append, toList_toString_int, hunit, List.append_assoc,
      List.append_assoc, List.cons_append]
    refine ⟨⟨_, _, ' ', _, rfl, Nat.toDigits_ne_nil, fun _ => isDigit_of_mem, by decide⟩,
      ⟨Numeral.minus (days < 0) ++ (Nat.toDigits 10 days.natAbs ++ ' ' :: (rest ++ before)), width,
        n, by rw [hends]; simp⟩, ?_⟩
    · refine Numeral.not_mem_signed ?_
      simp only [List.mem_append, List.mem_cons, not_or]
      exact ⟨not_mem_toDigits (by decide), by decide, hline, hclock.line⟩

theorem isMarked_span (microseconds : Int) : IsMarked (spanText microseconds).toList := by
  unfold spanText
  exact isMarked_days _ _

/-! ### Values -/

namespace Value
variable {v : Value}

theorem isMarked_rendered (h : v.timeStyle?.isSome = true) : IsMarked v.rendered.toList := by
  cases v with
  | date d =>
    have hmarked := isMarked_date d "" (by decide) (.inl rfl)
    rwa [String.append_empty] at hmarked
  | dateTime d t =>
    obtain ⟨_, ⟨before, width, n, hends⟩, hline⟩ := t.behindHour_spec
    show IsMarked (d.text ++ "T" ++ t.text).toList
    rw [Clock.text_eq, String.append_assoc]
    refine isMarked_date d _ ?_ (.inr ⟨"T".toList ++ ((padded 2 t.hour).toList ++ before), width,
      n, by rw [String.toList_append, String.toList_append, hends]; simp⟩)
    simp only [String.toList_append, List.mem_append, not_or]
    exact ⟨by decide, not_mem_padded _ _, hline⟩
  | clock t =>
    have htext : t.text.toList =
        Numeral.minus false ++ ((padded 2 t.hour).toList ++ t.behindHour.toList) := by
      rw [Clock.text_eq, String.toList_append]
      rfl
    exact isMarked_clock t htext (toList_padded_ne_nil 2 t.hour) isDigit_padded
  | span microseconds => exact isMarked_span microseconds
  | boolean | integer | float | text | other => cases h

/-- The text of a truth value, a date or a time is no numeral. -/
theorem numberOf_rendered (h : v.timeStyle?.isSome = true ∨ ∃ b, v = .boolean b) :
    numberOf (Text.trim v.rendered) = .ok none := by
  rcases h with h | ⟨b, rfl⟩
  · exact (isMarked_rendered h).numberOf_trim
  · cases b <;> rfl

end Value

end SheetActions
