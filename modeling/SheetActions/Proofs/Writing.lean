import SheetActions.Proofs.Steps
import SheetActions.Sheet.Entry

/-! Writing tokens into a sheet.

The tokens of the data go to cells of their own: the rows and the columns of an index set
ascend, so no two of them meet (`nodup_targets`). Once all are written, each cell that a
token goes to holds it, and all other cells and all heights are as before (`Wrote`). What
a cell holds for a token is its value, and nothing for the empty token; a text is held as
it is, provided that it fits into a cell (`FitsCell`). -/
namespace SheetActions

/-- A token that is kept as text is not longer than a cell can hold. -/
def FitsCell (token : String) : Prop :=
  coerce token = .ok (.text token) → token.length ≤ Sheet.textLimit

/-- A token stands for itself if it is no numeral, and otherwise for a number. -/
theorem coerce_cases {token : String} {v : Value} (h : coerce token = .ok v) :
    v = .text token ∨ token ≠ "" ∧ ∃ n : Number, v = n.toValue := by
  unfold coerce at h
  split at h
  · exact .inl (Except.ok.inj h).symm
  · rename_i numeral hread
    have hne : token ≠ "" := by
      rintro rfl
      cases hread
    split at h
    · cases h
    · exact .inr ⟨hne, numeral.value, (Except.ok.inj h).symm⟩

namespace Sheet
variable {s t e : Sheet}

/-! ### One token -/

/-- A cell holds what a token stands for. -/
def Holds (s : Sheet) (r c : Nat) (token : String) : Prop :=
  ∃ v, coerce token = .ok v ∧ s.cell r c = if token = "" then none else some v

/-- A cell takes numbers as they are. -/
theorem content_toValue (n : Number) : content n.toValue = .ok (some n.toValue) := by
  cases n <;> rfl

/-- A cell takes the beginning of a text, if there is no control character in it. -/
theorem content_text_eq_ok_iff {token : String} {kept : Option Value} :
    content (.text token) = .ok kept ↔
      (∀ c ∈ token.toList.take textLimit, isIllegal c = false) ∧
        kept = if token = "" then none
          else some (.text (String.ofList (token.toList.take textLimit))) := by
  have hempty : (token.toList.take textLimit).isEmpty = true ↔ token = "" := by
    rw [List.isEmpty_iff, List.take_eq_nil_iff, or_iff_right (by decide), String.toList_eq_nil_iff]
  have hlegal : ¬ (token.toList.take textLimit).any isIllegal = true ↔
      ∀ c ∈ token.toList.take textLimit, isIllegal c = false := by simp
  simp only [content, hempty, ← hlegal]
  split
  · rename_i hany
    exact iff_of_false nofun fun h => h.1 hany
  · rename_i hnone
    rw [Except.ok.injEq, and_iff_right hnone, eq_comm]

/-- A sheet takes the value of a token over as it is, but for the empty text. -/
theorem content_of_coerce {token : String} {v : Value} {kept : Option Value}
    (hv : coerce token = .ok v) (fits : FitsCell token) (hkept : content v = .ok kept) :
    kept = if token = "" then none else some v := by
  rcases coerce_cases hv with rfl | ⟨hne, n, rfl⟩
  · have hlength : token.toList.length ≤ textLimit := by
      rw [String.length_toList]
      exact fits hv
    have htaken := (content_text_eq_ok_iff.mp hkept).2
    rwa [List.take_of_length_le hlength, String.ofList_toList] at htaken
  · rw [content_toValue] at hkept
    rw [if_neg hne]
    exact (Except.ok.inj hkept).symm

theorem enter_eq_done {r c : Nat} {v : Value} (h : s.enter r c (some v) = .done e) :
    r ≤ maxRowIndex ∧ ∃ kept, content v = .ok kept ∧ e = s.put r c kept := by
  unfold enter at h
  split at h
  · cases h
  · rename_i hr
    rw [Option.map_some] at h
    cases hkept : content v with
    | error f => rw [hkept] at h; cases h
    | ok kept =>
      rw [hkept] at h
      cases h
      exact ⟨by omega, kept, rfl, rfl⟩

/-- A token that was written is in its cell, and without overwriting the cell was blank. -/
theorem writeToken_eq_done {overwrite : Bool} {a : Target}
    (h : writeToken overwrite s a = .done e) :
    (overwrite = false → s.cell a.row a.column = none) ∧ a.row ≤ maxRowIndex ∧
      ∃ v kept, coerce a.token = .ok v ∧ content v = .ok kept ∧ e = s.put a.row a.column kept := by
  unfold writeToken at h
  split at h
  · cases h
  · rename_i hfree
    split at h
    · rename_i v hv
      obtain ⟨hr, kept, hkept, he⟩ := enter_eq_done h
      refine ⟨fun hoff => ?_, hr, v, kept, hv, hkept, he⟩
      subst hoff
      simpa using hfree
    · cases h

/-- The content that a cell is given for a token, if a cell can hold it. -/
def contentOf? (token : String) : Option (Option Value) :=
  (coerce token >>= content).toOption

/-- Writing a token depends on the sheet by its cell only. -/
theorem end?_writeToken (overwrite : Bool) (s : Sheet) (a : Target) :
    (writeToken overwrite s a).end? =
      if (overwrite = false ∧ s.cell a.row a.column ≠ none) ∨ maxRowIndex < a.row then none
      else (contentOf? a.token).map (s.put a.row a.column) := by
  simp only [writeToken, contentOf?]
  split
  · rename_i hfilled
    rw [if_pos]
    · rfl
    · left
      simpa [Option.isSome_iff_ne_none] using hfilled
  · rename_i hfree
    simp only [Bool.and_eq_true, Bool.not_eq_true', Option.isSome_iff_ne_none] at hfree
    by_cases hrow : maxRowIndex < a.row
    · rw [if_pos (.inr hrow)]
      cases coerce a.token with
      | error f => rfl
      | ok v =>
        simp only [enter, if_pos hrow]
        rfl
    · rw [if_neg (not_or.mpr ⟨hfree, hrow⟩)]
      cases coerce a.token with
      | error f => rfl
      | ok v =>
        show (s.enter a.row a.column (some v)).end? = ((content v).toOption).map _
        simp only [enter, if_neg hrow, Option.map_some]
        cases content v <;> rfl

/-- Only the empty token leaves its cell blank. -/
theorem eq_empty_of_contentOf? {token : String} (h : contentOf? token = some none) :
    token = "" := by
  obtain ⟨v, hv, hkept⟩ := bind_eq_ok.mp (toOption_eq_some.mp h)
  rcases coerce_cases hv with rfl | ⟨_, n, rfl⟩
  · have htaken := (content_text_eq_ok_iff.mp hkept).2
    split at htaken
    · assumption
    · cases htaken
  · rw [content_toValue] at hkept
    cases hkept

/-! ### Many tokens -/

/-- The cell that a token goes to. -/
def Target.place (a : Target) : Nat × Nat := (a.row, a.column)

/-- `e` is `s` with the tokens in their cells. -/
structure Wrote (l : List Target) (s e : Sheet) : Prop where
  holds : ∀ a ∈ l, e.Holds a.row a.column a.token
  frame : ∀ r c, (∀ a ∈ l, a.place ≠ (r, c)) → e.cell r c = s.cell r c
  height : ∀ r, e.height r = s.height r

namespace Wrote
variable {l m : List Target}

theorem nil : Wrote [] s s where
  holds := fun _ ha => nomatch ha
  frame := fun _ _ _ => rfl
  height := fun _ => rfl

theorem single {a : Target} {v : Value} (hv : coerce a.token = .ok v) :
    Wrote [a] s (s.put a.row a.column (if a.token = "" then none else some v)) where
  holds := fun b hb => by
    obtain rfl := List.mem_singleton.mp hb
    exact ⟨v, hv, by rw [cell_put, if_pos ⟨rfl, rfl⟩]⟩
  frame := fun r c h => by
    rw [cell_put, if_neg]
    rintro ⟨rfl, rfl⟩
    exact h a (List.mem_singleton.mpr rfl) rfl
  height := fun _ => rfl

/-- More tokens, none of which goes to a cell of those before. -/
theorem append (h₁ : Wrote l s t) (h₂ : Wrote m t e)
    (apart : ∀ a ∈ l, ∀ b ∈ m, b.place ≠ a.place) : Wrote (l ++ m) s e where
  holds := fun a ha => by
    rcases List.mem_append.mp ha with hl | hm
    · obtain ⟨v, hv, hcell⟩ := h₁.holds a hl
      exact ⟨v, hv, by rw [h₂.frame _ _ (apart a hl), hcell]⟩
    · exact h₂.holds a hm
  frame := fun r c h => by
    rw [h₂.frame r c fun b hb => h b (List.mem_append_right l hb),
      h₁.frame r c fun a ha => h a (List.mem_append_left m ha)]
  height := fun r => (h₂.height r).trans (h₁.height r)

end Wrote

/-- Tokens for different cells, all written, are all there. -/
theorem wrote_of_run {overwrite : Bool} {l : List Target} (fits : ∀ a ∈ l, FitsCell a.token)
    (distinct : (l.map Target.place).Nodup)
    (h : Progress.run (writeToken overwrite) s l = .done e) : Wrote l s e := by
  induction l generalizing s with
  | nil =>
    cases h
    exact .nil
  | cons a l ih =>
    obtain ⟨t, ha, hl⟩ := Progress.run_cons_eq_done.mp h
    obtain ⟨_, _, v, kept, hv, hkept, rfl⟩ := writeToken_eq_done ha
    rw [content_of_coerce hv (fits a (List.mem_cons_self ..)) hkept] at hl
    rw [List.map_cons, List.nodup_cons] at distinct
    refine (Wrote.single hv).append
      (ih (fun b hb => fits b (List.mem_cons_of_mem _ hb)) distinct.2 hl) fun b hb c hc => ?_
    obtain rfl := List.mem_singleton.mp hb
    exact fun heq => distinct.1 (List.mem_map.mpr ⟨c, hc, heq⟩)

/-- A cell that no token goes to keeps its content, be the texts as long as they may. -/
theorem cell_of_run {overwrite : Bool} {l : List Target}
    (h : Progress.run (writeToken overwrite) s l = .done e) {r c : Nat}
    (away : ∀ a ∈ l, a.place ≠ (r, c)) : e.cell r c = s.cell r c := by
  induction l generalizing s with
  | nil =>
    cases h
    rfl
  | cons a l ih =>
    obtain ⟨t, ha, hl⟩ := Progress.run_cons_eq_done.mp h
    obtain ⟨_, _, v, kept, _, _, rfl⟩ := writeToken_eq_done ha
    rw [ih hl fun b hb => away b (List.mem_cons_of_mem _ hb), cell_put, if_neg]
    rintro ⟨rfl, rfl⟩
    exact away a (List.mem_cons_self ..) rfl

/-- The content that a token was given in its cell is there at the end. -/
theorem content_of_run {overwrite : Bool} {l : List Target}
    (distinct : (l.map Target.place).Nodup)
    (h : Progress.run (writeToken overwrite) s l = .done e) :
    ∀ a ∈ l, a.row ≤ maxRowIndex ∧ ∃ v kept, coerce a.token = .ok v ∧ content v = .ok kept ∧
      e.cell a.row a.column = kept := by
  induction l generalizing s with
  | nil => exact fun a ha => absurd ha List.not_mem_nil
  | cons b l ih =>
    intro a ha
    obtain ⟨t, hb, hl⟩ := Progress.run_cons_eq_done.mp h
    rw [List.map_cons, List.nodup_cons] at distinct
    rcases List.mem_cons.mp ha with rfl | ha
    · obtain ⟨_, hr, v, kept, hv, hkept, rfl⟩ := writeToken_eq_done hb
      refine ⟨hr, v, kept, hv, hkept, ?_⟩
      have haway : ∀ c ∈ l, c.place ≠ (a.row, a.column) := fun c hc heq =>
        distinct.1 (List.mem_map.mpr ⟨c, hc, heq⟩)
      rw [cell_of_run hl haway, cell_put, if_pos ⟨rfl, rfl⟩]
    · exact ih distinct.2 hl a ha

/-- What writing a token preserves, writing tokens preserves. -/
theorem of_run {P : Sheet → Prop} {overwrite : Bool} {l : List Target}
    (step : ∀ (t : Sheet) (a : Target) (v : Value) (kept : Option Value), coerce a.token = .ok v →
      content v = .ok kept → P t → P (t.put a.row a.column kept)) (hs : P s)
    (h : Progress.run (writeToken overwrite) s l = .done e) : P e := by
  induction l generalizing s with
  | nil =>
    cases h
    exact hs
  | cons a l ih =>
    obtain ⟨t, ha, hl⟩ := Progress.run_cons_eq_done.mp h
    obtain ⟨_, _, v, kept, hv, hkept, rfl⟩ := writeToken_eq_done ha
    exact ih (step s a v kept hv hkept hs) hl

/-- Writing tokens changes no height. -/
theorem height_of_run {overwrite : Bool} (h : Progress.run (writeToken overwrite) s l = .done e)
    (r : Nat) : e.height r = s.height r :=
  of_run (P := fun t => t.height r = s.height r) (fun _ _ _ _ _ _ ht => ht) rfl h

/-- On blank cells of their own tokens are written alike with and without overwriting. -/
theorem run_writeToken_of_blank (overwrite : Bool) {l : List Target}
    (distinct : (l.map Target.place).Nodup) (blank : ∀ a ∈ l, s.cell a.row a.column = none) :
    Progress.run (writeToken overwrite) s l = Progress.run (writeToken true) s l := by
  induction l generalizing s with
  | nil => rfl
  | cons a l ih =>
    have hcell := blank a (List.mem_cons_self ..)
    have hsame : writeToken overwrite s a = writeToken true s a := by
      simp only [writeToken, hcell, Option.isSome_none, Bool.and_false]
    rw [Progress.run_cons, Progress.run_cons, hsame]
    rw [List.map_cons, List.nodup_cons] at distinct
    rcases ha : writeToken true s a with ⟨t, _ | f⟩
    · obtain ⟨_, _, _, kept, _, _, ht⟩ := writeToken_eq_done ha
      refine ih distinct.2 fun b hb => ?_
      have hne : ¬(b.row = a.row ∧ b.column = a.column) := fun heq =>
        distinct.1 (List.mem_map.mpr ⟨b, hb, Prod.ext heq.1 heq.2⟩)
      rw [ht, cell_put, if_neg hne]
      exact blank b (List.mem_cons_of_mem _ hb)
    · rfl

/-! ### Where the tokens go -/

theorem mem_zip_iff {α β : Type} {l : List α} {m : List β} {x : α × β} :
    x ∈ l.zip m ↔ ∃ i : Nat, l[i]? = some x.1 ∧ m[i]? = some x.2 := by
  simp only [List.mem_iff_getElem?, List.getElem?_zip_eq_some]

/-- Token `j` of row `i` goes to the `i`-th target row and the `j`-th target column. -/
theorem mem_targets {data : Payload} {rows columns : IndexSet} {a : Target} :
    a ∈ targets data rows columns ↔
      ∃ (i j : Nat) (row : List String), data.rows[i]? = some row ∧ row[j]? = some a.token ∧
        rows.toList[i]? = some a.row ∧ columns.toList[j]? = some a.column := by
  simp only [targets, List.mem_flatMap, List.mem_map, Prod.exists, mem_zip_iff]
  constructor
  · rintro ⟨row, r, ⟨i, hrow, hr⟩, token, c, ⟨j, htoken, hc⟩, rfl⟩
    exact ⟨i, j, row, hrow, htoken, hr, hc⟩
  · rintro ⟨i, j, row, hrow, htoken, hr, hc⟩
    exact ⟨row, a.row, ⟨i, hrow, hr⟩, a.token, a.column, ⟨j, htoken, hc⟩, rfl⟩

/-- Where there are rows and columns for all of the data, each of its tokens goes to a cell. -/
theorem exists_place_of_token {data : Payload} {rows columns : IndexSet} {i j : Nat}
    {row : List String} {token : String} (rowsFit : data.rowCount ≤ rows.size)
    (columnsFit : ∀ row ∈ data.rows, row.length ≤ columns.size) (hrow : data.rows[i]? = some row)
    (htoken : row[j]? = some token) :
    ∃ r c, rows.toList[i]? = some r ∧ columns.toList[j]? = some c ∧
      ⟨r, c, token⟩ ∈ targets data rows columns := by
  have hi : i < rows.toList.length :=
    Nat.lt_of_lt_of_le (List.getElem?_eq_some_iff.mp hrow).1 rowsFit
  have hj : j < columns.toList.length :=
    Nat.lt_of_lt_of_le (List.getElem?_eq_some_iff.mp htoken).1
      (columnsFit row (List.mem_of_getElem? hrow))
  have hr := List.getElem?_eq_getElem hi
  have hc := List.getElem?_eq_getElem hj
  exact ⟨_, _, hr, hc, mem_targets.mpr ⟨i, j, row, hrow, htoken, hr, hc⟩⟩

theorem pairwise_zip_snd {α : Type} (l : List α) {m : List Nat} (h : m.Pairwise (· < ·)) :
    (l.zip m).Pairwise fun a b => a.2 < b.2 := by
  rw [List.pairwise_iff_getElem] at h ⊢
  intro i j hi hj hij
  simp only [List.getElem_zip]
  exact h i j _ _ hij

/-- The order of cells, row by row and in a row from the left. -/
def Target.Before (a b : Target) : Prop :=
  a.row < b.row ∨ a.row = b.row ∧ a.column < b.column

instance (a b : Target) : Decidable (a.Before b) :=
  inferInstanceAs (Decidable (_ ∨ _))

theorem Target.Before.place_ne {a b : Target} (h : a.Before b) : a.place ≠ b.place := by
  intro heq
  obtain ⟨hrow, hcolumn⟩ := Prod.mk.inj heq
  unfold Before at h
  omega

theorem Target.Before.asymm {a b : Target} (h : a.Before b) : ¬ b.Before a := by
  unfold Before at h ⊢
  omega

/-- The tokens of the data are written in the order of their cells. -/
theorem pairwise_targets (data : Payload) (rows columns : IndexSet) :
    (targets data rows columns).Pairwise Target.Before := by
  rw [targets, List.pairwise_flatMap]
  constructor
  · rintro ⟨tokens, r⟩ _
    rw [List.pairwise_map]
    exact (pairwise_zip_snd tokens columns.ascending).imp fun hlt => .inr ⟨rfl, hlt⟩
  · refine (pairwise_zip_snd data.rows rows.ascending).imp fun hlt x hx y hy => ?_
    obtain ⟨_, _, rfl⟩ := List.mem_map.mp hx
    obtain ⟨_, _, rfl⟩ := List.mem_map.mp hy
    exact .inl hlt

/-- No two tokens of the data go to one cell. -/
theorem nodup_targets (data : Payload) (rows columns : IndexSet) :
    ((targets data rows columns).map Target.place).Nodup := by
  rw [List.Nodup, List.pairwise_map]
  exact (pairwise_targets data rows columns).imp Target.Before.place_ne

theorem mem_headerTargets {header : List String} {a : Target} :
    a ∈ headerTargets header ↔
      a.row = Placement.headerRow ∧ header[a.column]? = some a.token := by
  simp only [headerTargets, List.mem_map, List.mem_zipIdx_iff_getElem?]
  constructor
  · rintro ⟨x, hx, rfl⟩
    exact ⟨rfl, hx⟩
  · rintro ⟨hr, hx⟩
    exact ⟨(a.token, a.column), hx, by rw [← hr]⟩

theorem nodup_headerTargets (header : List String) :
    ((headerTargets header).map Target.place).Nodup := by
  rw [List.Nodup, List.pairwise_map, headerTargets, List.pairwise_map,
    List.pairwise_iff_getElem]
  intro i j hi hj hij heq
  simp only [Target.place, List.getElem_zipIdx, Prod.mk.injEq] at heq
  omega

end Sheet

end SheetActions
