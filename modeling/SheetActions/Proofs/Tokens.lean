import SheetActions.Payload
import SheetActions.Proofs.Steps

/-! Delimited data, joined and taken apart.

Splitting at a delimiter of one character undoes joining with it, so data that is joined
from parts has the rows of the parts, one after the other (`parse_append_iff`). A text that
does not hold the row delimiter is one row. -/
namespace SheetActions.Payload
variable {rowDelimiter columnDelimiter text : String} {data : Payload}

/-- A step on each element of a list gives a result for each of them. -/
theorem length_of_mapM {ε α β : Type} {f : α → Except ε β} {l : List α} {m : List β}
    (h : l.mapM f = .ok m) : m.length = l.length := by
  induction l generalizing m with
  | nil =>
    cases h
    rfl
  | cons a l ih =>
    simp only [List.mapM_cons, bind_eq_ok] at h
    obtain ⟨_, _, rest, hrest, h⟩ := h
    cases h
    rw [List.length_cons, List.length_cons, ih hrest]

theorem exists_of_mem_mapM {ε α β : Type} {f : α → Except ε β} {l : List α} {m : List β}
    (h : l.mapM f = .ok m) {b : β} (hb : b ∈ m) : ∃ a ∈ l, f a = .ok b := by
  induction l generalizing m with
  | nil =>
    cases h
    cases hb
  | cons a l ih =>
    simp only [List.mapM_cons, bind_eq_ok] at h
    obtain ⟨c, hc, n, hn, h⟩ := h
    cases h
    rcases List.mem_cons.mp hb with rfl | hb
    · exact ⟨a, List.mem_cons_self .., hc⟩
    · obtain ⟨a', ha', hf⟩ := ih hn hb
      exact ⟨a', List.mem_cons_of_mem _ ha', hf⟩

/-- A step that gives a known result for each element of a list. -/
theorem mapM_map_eq_ok {ε α β γ : Type} {f : β → Except ε γ} {g : α → β} {result : α → γ}
    {l : List α} (h : ∀ a ∈ l, f (g a) = .ok (result a)) :
    (l.map g).mapM f = .ok (l.map result) := by
  induction l with
  | nil => rfl
  | cons a l ih =>
    obtain ⟨ha, hl⟩ := List.forall_mem_cons.mp h
    rw [List.map_cons, List.mapM_cons, ha, ih hl]
    rfl

theorem mapM_append_eq_ok {ε α β : Type} {f : α → Except ε β} {l m : List α} {n : List β} :
    (l ++ m).mapM f = .ok n ↔
      ∃ a b, l.mapM f = .ok a ∧ m.mapM f = .ok b ∧ n = a ++ b := by
  simp only [List.mapM_append, bind_eq_ok]
  constructor
  · rintro ⟨a, ha, b, hb, hn⟩
    cases hn
    exact ⟨a, b, ha, hb, rfl⟩
  · rintro ⟨a, b, ha, hb, rfl⟩
    exact ⟨a, ha, b, hb, rfl⟩

/-! ### Splitting -/

/-- A text can be split at any delimiter that is not empty. -/
theorem split_eq {delimiter : String} (hne : delimiter.isEmpty = false) (text : String) :
    split delimiter text =
      .ok ((Text.pieces delimiter.toList text.toList).map String.ofList) := by
  simp only [split, Text.split?, hne]
  rfl

theorem split_of_isEmpty {delimiter : String} (h : delimiter.isEmpty = true) (text : String) :
    split delimiter text = .error (.breakdown .emptyDelimiter) := by
  simp only [split, Text.split?, h]
  rfl

/-! ### Rows -/

theorem parse_eq_ok : parse rowDelimiter columnDelimiter text = .ok data ↔
    ∃ rows, split rowDelimiter text = .ok rows ∧
      rows.mapM (tokens columnDelimiter) = .ok data.rows := by
  simp only [parse, bind_eq_ok]
  constructor
  · rintro ⟨rows, hrows, tokens, htokens, h⟩
    cases h
    exact ⟨rows, hrows, htokens⟩
  · rintro ⟨rows, hrows, htokens⟩
    exact ⟨rows, hrows, data.rows, htokens, rfl⟩

/-- Tokens are trimmed. -/
theorem exists_trim_of_tokens {row token : String} {l : List String}
    (h : tokens columnDelimiter row = .ok l) (htoken : token ∈ l) : ∃ s, token = Text.trim s := by
  unfold tokens at h
  cases hpieces : split columnDelimiter row with
  | error f =>
    rw [hpieces] at h
    cases h
  | ok pieces =>
    rw [hpieces] at h
    cases h
    obtain ⟨s, _, rfl⟩ := List.mem_map.mp htoken
    exact ⟨s, rfl⟩

theorem exists_trim_of_parse (h : parse rowDelimiter columnDelimiter text = .ok data)
    {row : List String} {token : String} (hrow : row ∈ data.rows) (htoken : token ∈ row) :
    ∃ s, token = Text.trim s := by
  obtain ⟨rows, _, htokens⟩ := parse_eq_ok.mp h
  obtain ⟨_, _, hrow⟩ := exists_of_mem_mapM htokens hrow
  exact exists_trim_of_tokens hrow htoken

theorem ne_nil_of_split {rows : List String} (h : split rowDelimiter text = .ok rows) :
    rows ≠ [] := by
  cases hempty : rowDelimiter.isEmpty with
  | true =>
    rw [split_of_isEmpty hempty] at h
    cases h
  | false =>
    rw [split_eq hempty] at h
    cases h
    simpa using Text.pieces_ne_nil rowDelimiter.toList text.toList

/-- Data has a row at least. -/
theorem rowCount_pos (h : parse rowDelimiter columnDelimiter text = .ok data) :
    0 < data.rowCount := by
  obtain ⟨rows, hrows, htokens⟩ := parse_eq_ok.mp h
  rw [rowCount, length_of_mapM htokens]
  exact List.length_pos_iff.mpr (ne_nil_of_split hrows)

/-! ### A delimiter of one character -/

theorem split_singleton (c : Char) (text : String) :
    split (String.singleton c) text = .ok ((Text.pieces [c] text.toList).map String.ofList) := by
  rw [split_eq (by simp), String.toList_singleton]

/-- Texts that do not hold the delimiter are what their joint text splits into. -/
theorem split_intercalate {c : Char} {texts : List String} (hne : texts ≠ [])
    (h : ∀ s ∈ texts, c ∉ s.toList) :
    split (String.singleton c) ((String.singleton c).intercalate texts) = .ok texts := by
  have hpieces : Text.pieces [c] ([c].intercalate (texts.map String.toList)) =
      texts.map String.toList :=
    Text.pieces_intercalate (by simpa using hne) (by simpa using h)
  rw [split_singleton, String.toList_intercalate, String.toList_singleton, hpieces]
  simp [Function.comp_def]

/-- What joins two parts has the rows of the first part and then those of the second. -/
theorem parse_append_iff {c : Char} {first second : String} :
    parse (String.singleton c) columnDelimiter (first ++ String.singleton c ++ second) = .ok data ↔
      ∃ a b, parse (String.singleton c) columnDelimiter first = .ok a ∧
        parse (String.singleton c) columnDelimiter second = .ok b ∧
          data.rows = a.rows ++ b.rows := by
  have hpieces : Text.pieces [c] (first ++ String.singleton c ++ second).toList =
      Text.pieces [c] first.toList ++ Text.pieces [c] second.toList := by
    rw [String.toList_append, String.toList_append, String.toList_singleton, List.append_assoc,
      List.singleton_append, Text.pieces_append_cons]
  simp only [parse_eq_ok, split_singleton, hpieces, List.map_append, Except.ok.injEq,
    exists_eq_left', mapM_append_eq_ok]
  constructor
  · rintro ⟨a, b, ha, hb, hdata⟩
    exact ⟨⟨a⟩, ⟨b⟩, ha, hb, hdata⟩
  · rintro ⟨a, b, ha, hb, hdata⟩
    exact ⟨a.rows, b.rows, ha, hb, hdata⟩

/-- A text that does not hold the row delimiter is one row. -/
theorem parse_row_iff {c : Char} (h : c ∉ text.toList) :
    parse (String.singleton c) columnDelimiter text = .ok data ↔
      ∃ row, tokens columnDelimiter text = .ok row ∧ data.rows = [row] := by
  simp only [parse_eq_ok, split_singleton, Text.pieces_of_not_mem h, List.map_singleton,
    String.ofList_toList, Except.ok.injEq, exists_eq_left', List.mapM_cons, List.mapM_nil,
    bind_eq_ok]
  constructor
  · rintro ⟨row, hrow, _, hnil, hdata⟩
    cases hnil
    exact ⟨row, hrow, (Except.ok.inj hdata).symm⟩
  · rintro ⟨row, hrow, hdata⟩
    exact ⟨row, hrow, [], rfl, by rw [hdata]; rfl⟩

end SheetActions.Payload
