import SheetActions.Placement
import SheetActions.Proofs.Steps

/-! Specifications that name given indices.

A specification is written to be read: spelling out an ascending list of rows gives a text
that denotes just these rows (`parse_spelled_iff`), and so does the text of a span
(`parse_span`), as long as the rows lie in the grid. Whatever a specification denotes is
bounded by the greatest index that was allowed (`le_of_parse`). -/
namespace SheetActions

/-! ### Texts without blanks -/

namespace Text

theorem isBlank_of_visible {c : Char} (low : 0x20 < c.toNat) (high : c.toNat < 0x85) :
    isBlank c = false := by
  simp [isBlank, isWhiteSpace, inRanges, whiteSpaceRanges]
  omega

theorem isBlank_of_isDigit {c : Char} (h : c.isDigit = true) : isBlank c = false := by
  have hrange : 48 ≤ c.toNat ∧ c.toNat ≤ 57 := by
    simpa [Char.isDigit, UInt32.le_iff_toNat_le] using h
  exact isBlank_of_visible (by omega) (by omega)

theorem dropWhile_of_head? {p : Char → Bool} {l : List Char} (h : ∀ c ∈ l.head?, p c = false) :
    l.dropWhile p = l := by
  cases l with
  | nil => rfl
  | cons c r => simp [h c rfl]

/-- Trimming leaves a text alone that has no character of the class at its ends. -/
theorem trimBy_of_ends {p : Char → Bool} {l : List Char} (first : ∀ c ∈ l.head?, p c = false)
    (last : ∀ c ∈ l.getLast?, p c = false) : trimBy p l = l := by
  have hback : ∀ c ∈ l.reverse.head?, p c = false := by rwa [List.head?_reverse]
  rw [trimBy, dropWhile_of_head? first, dropWhile_of_head? hback, List.reverse_reverse]

theorem trimBy_of_none {p : Char → Bool} {l : List Char} (h : ∀ c ∈ l, p c = false) :
    trimBy p l = l :=
  trimBy_of_ends (fun c hc => h c (List.mem_of_mem_head? hc))
    fun c hc => h c (List.mem_of_getLast? hc)

/-- What is left starts where the characters of the class at the front end. -/
theorem trimBy_prefix (p : Char → Bool) (l : List Char) : trimBy p l <+: l.dropWhile p := by
  have hsuffix := List.dropWhile_suffix (l := (l.dropWhile p).reverse) p
  rwa [← List.reverse_prefix, List.reverse_reverse] at hsuffix

/-- A text that was trimmed has no character of the class at its ends. -/
theorem trimBy_trimBy (p : Char → Bool) (l : List Char) : trimBy p (trimBy p l) = trimBy p l := by
  refine trimBy_of_ends (fun c hc => ?_) fun c hc => ?_
  · obtain ⟨rest, hrest⟩ := trimBy_prefix p l
    have hhead := List.head?_dropWhile_not p l
    rw [← hrest, List.head?_append, Option.mem_def.mp hc] at hhead
    simpa using hhead
  · rw [trimBy, List.getLast?_reverse] at hc
    have hlast := List.head?_dropWhile_not p (l.dropWhile p).reverse
    rw [Option.mem_def.mp hc] at hlast
    simpa using hlast

theorem trim_trim (s : String) : trim (trim s) = trim s := by
  rw [trim, trim, String.toList_ofList, trimBy_trimBy]

theorem isBlankText_eq_false_of_trim {s : String} (h : trim s ≠ "") : isBlankText s = false :=
  Bool.eq_false_iff.mpr (mt isBlankText_iff.mp h)

theorem isBlankText_eq_false_iff {s : String} :
    isBlankText s = false ↔ ∃ c ∈ s.toList, isBlank c = false := by
  simp [isBlankText]

end Text

theorem toList_toString_nat (n : Nat) : (toString n).toList = Nat.toDigits 10 n :=
  String.toList_ofList

theorem natOfDigits_toDigits (n : Nat) : natOfDigits (Nat.toDigits 10 n) = n :=
  Nat.ofDigitChars_ten_toDigits

theorem isDigit_of_mem {n : Nat} {c : Char} (h : c ∈ Nat.toDigits 10 n) : c.isDigit = true :=
  Nat.isDigit_of_mem_toDigits (by decide) (by decide) h

theorem not_mem_toDigits {n : Nat} {c : Char} (h : c.isDigit = false) : c ∉ Nat.toDigits 10 n := by
  intro hc
  rw [isDigit_of_mem hc] at h
  cases h

theorem trimBy_toDigits (n : Nat) :
    Text.trimBy Text.isBlank (Nat.toDigits 10 n) = Nat.toDigits 10 n :=
  Text.trimBy_of_none fun _ hc => Text.isBlank_of_isDigit (isDigit_of_mem hc)

namespace IndexSpec
variable {spec item : String} {greatest : Int}

/-! ### Bounds and items -/

/-- A bound that is read is the number of its digits, and at most the greatest index. -/
theorem parseBound_eq_ok {bound : List Char} {n : Nat}
    (h : parseBound spec item greatest bound = .ok n) :
    n = natOfDigits (Text.trimBy Text.isBlank bound) ∧ (n : Int) ≤ greatest := by
  simp only [parseBound] at h
  split at h
  · cases h
  · split at h
    · cases h
    · split at h
      · cases h
      · cases h
        exact ⟨rfl, by omega⟩

/-- The digits of an index of the grid are read as that index. -/
theorem parseBound_toDigits {n most : Nat} (h : n ≤ most) (grid : most ≤ maxRowIndex) :
    parseBound spec item most (Nat.toDigits 10 n) = .ok n := by
  have hdigits : (Nat.toDigits 10 n).all Char.isDigit = true :=
    List.all_eq_true.mpr fun c hc => isDigit_of_mem hc
  have hne : (Nat.toDigits 10 n).isEmpty = false := by
    simp [Nat.toDigits_ne_nil]
  have hgrid : n < 10 ^ 7 := Nat.lt_of_le_of_lt (Nat.le_trans h grid) (by decide)
  have hseven : (Nat.toDigits 10 n).length ≤ 7 :=
    (Nat.length_toDigits_le_iff (by decide) (by decide)).mpr hgrid
  have hlimit : Numeral.digitLimit = 4300 := rfl
  simp only [parseBound, trimBy_toDigits, natOfDigits_toDigits, hdigits, hne]
  rw [if_neg (by simp), if_neg (by omega), if_neg (by omega)]

theorem pieces_toDigits (n : Nat) : Text.pieces [':'] (Nat.toDigits 10 n) = [Nat.toDigits 10 n] :=
  Text.pieces_of_not_mem (not_mem_toDigits (by decide))

/-- The digits of a number are an item exactly when it is a row of the grid. -/
theorem parseItem_toDigits_iff {n : Nat} {x : Nat × Nat} :
    parseItem spec maxRowIndex (Nat.toDigits 10 n) = .ok x ↔ n ≤ maxRowIndex ∧ x = (n, 1) := by
  have hne : (Nat.toDigits 10 n).isEmpty = false := by
    simp [Nat.toDigits_ne_nil]
  simp only [parseItem, hne, pieces_toDigits]
  constructor
  · intro h
    obtain ⟨m, hm, hx⟩ := bind_eq_ok.mp h
    obtain ⟨hread, hle⟩ := parseBound_eq_ok hm
    rw [trimBy_toDigits, natOfDigits_toDigits] at hread
    subst hread
    cases hx
    exact ⟨by omega, rfl⟩
  · rintro ⟨hn, rfl⟩
    rw [parseBound_toDigits hn (Nat.le_refl _)]
    rfl

/-- What an item names is at most the greatest index. -/
theorem le_of_parseItem {text : List Char} {first length i : Nat}
    (h : parseItem spec greatest text = .ok (first, length)) (hi : first ≤ i)
    (hstop : i < first + length) : (i : Int) ≤ greatest := by
  simp only [parseItem] at h
  split at h
  · cases h
  · split at h
    · obtain ⟨n, hn, h⟩ := bind_eq_ok.mp h
      have hle := (parseBound_eq_ok hn).2
      cases h
      omega
    · obtain ⟨a, ha, h⟩ := bind_eq_ok.mp h
      obtain ⟨b, hb, h⟩ := bind_eq_ok.mp h
      have hle := (parseBound_eq_ok hb).2
      split at h
      · cases h
      · cases h
        omega
    · cases h

/-! ### Whole specifications -/

theorem parseItems_cons_eq_ok {t u : IndexSet} {text : List Char} {items : List (List Char)} :
    parseItems spec greatest t (text :: items) = .ok u ↔
      ∃ x, parseItem spec greatest (Text.trimBy Text.isBlank text) = .ok x ∧
        parseItems spec greatest (t.insertInterval x.1 x.2) items = .ok u := by
  simp only [parseItems, bind_eq_ok]

theorem le_of_parseItems {items : List (List Char)} {t u : IndexSet}
    (h : parseItems spec greatest t items = .ok u) (ht : ∀ i ∈ t, (i : Int) ≤ greatest) :
    ∀ i ∈ u, (i : Int) ≤ greatest := by
  induction items generalizing t with
  | nil =>
    cases h
    exact ht
  | cons text items ih =>
    obtain ⟨x, hx, hrest⟩ := parseItems_cons_eq_ok.mp h
    refine ih hrest ?_
    intro i hi
    rcases IndexSet.mem_insertInterval.mp hi with hnew | hold
    · exact le_of_parseItem hx hnew.1 hnew.2
    · exact ht i hold

/-- No specification denotes an index beyond the greatest one. -/
theorem le_of_parse {t : IndexSet} (h : parse spec greatest = .ok t) :
    ∀ i ∈ t, (i : Int) ≤ greatest := by
  unfold parse at h
  split at h
  · cases h
    exact fun i hi => absurd hi IndexSet.not_mem_empty
  · exact le_of_parseItems h fun i hi => absurd hi IndexSet.not_mem_empty

theorem length_pos_of_parseItem {text : List Char} {first length : Nat}
    (h : parseItem spec greatest text = .ok (first, length)) : 0 < length := by
  simp only [parseItem] at h
  split at h
  · cases h
  · split at h
    · obtain ⟨n, _, h⟩ := bind_eq_ok.mp h
      cases h
      exact Nat.one_pos
    · obtain ⟨a, _, h⟩ := bind_eq_ok.mp h
      obtain ⟨b, _, h⟩ := bind_eq_ok.mp h
      split at h
      · cases h
      · cases h
        omega
    · cases h

theorem mem_of_parseItems {items : List (List Char)} {t u : IndexSet}
    (h : parseItems spec greatest t items = .ok u) : ∀ i ∈ t, i ∈ u := by
  induction items generalizing t with
  | nil =>
    cases h
    exact fun _ hi => hi
  | cons text items ih =>
    obtain ⟨x, _, hrest⟩ := parseItems_cons_eq_ok.mp h
    exact fun i hi => ih hrest i (IndexSet.mem_insertInterval.mpr (.inr hi))

/-- Any other specification that is accepted denotes an index. -/
theorem exists_mem_of_parse {t : IndexSet} (named : Text.isBlankText spec = false)
    (h : parse spec greatest = .ok t) : ∃ i, i ∈ t := by
  rw [parse, named] at h
  simp only [Bool.false_eq_true, if_false] at h
  obtain ⟨text, items, hitems⟩ := List.exists_cons_of_ne_nil (Text.pieces_ne_nil [','] spec.toList)
  rw [hitems] at h
  obtain ⟨⟨first, length⟩, hitem, hrest⟩ := parseItems_cons_eq_ok.mp h
  have hpos := length_pos_of_parseItem hitem
  exact ⟨first, mem_of_parseItems hrest first
    (IndexSet.mem_insertInterval.mpr (.inl ⟨Nat.le_refl _, by simpa using hpos⟩))⟩

theorem isEmpty_of_parse {t : IndexSet} (named : Text.isBlankText spec = false)
    (h : parse spec greatest = .ok t) : t.isEmpty = false := by
  obtain ⟨i, hi⟩ := exists_mem_of_parse named h
  exact List.isEmpty_eq_false_iff.mpr (List.ne_nil_of_mem hi)

/-- And so there is a greatest one. -/
theorem exists_max_of_parse {t : IndexSet} (named : Text.isBlankText spec = false)
    (h : parse spec greatest = .ok t) : ∃ n, t.max? = some n := by
  obtain ⟨i, hi⟩ := exists_mem_of_parse named h
  exact ⟨_, List.getLast?_eq_some_getLast (List.ne_nil_of_mem hi)⟩

/-- A blank specification denotes nothing. -/
theorem parse_of_blank (h : Text.isBlankText spec = true) : parse spec greatest = .ok ∅ := by
  rw [parse, if_pos h]

/-! ### Spelling rows out -/

/-- The specification that names the indices of a list one by one. -/
def spelled (l : List Nat) : String :=
  ",".intercalate (l.map toString)

/-- The specification of a span. -/
def span (first last : Nat) : String :=
  s!"{first}:{last}"

theorem toList_spelled (l : List Nat) :
    (spelled l).toList = [','].intercalate (l.map (Nat.toDigits 10)) := by
  simp [spelled, Function.comp_def]

theorem toList_span (first last : Nat) :
    (span first last).toList = Nat.toDigits 10 first ++ ':' :: Nat.toDigits 10 last := by
  simp [span]
  rfl

/-- Digits are not blank, and so is no text that has some. -/
theorem isBlankText_of_digits {n : Nat} {s : String} (h : Nat.toDigits 10 n ⊆ s.toList) :
    Text.isBlankText s = false := by
  obtain ⟨c, hc⟩ := List.exists_mem_of_ne_nil _ (Nat.toDigits_ne_nil (n := n) (b := 10))
  exact Text.isBlankText_eq_false_iff.mpr ⟨c, h hc, Text.isBlank_of_isDigit (isDigit_of_mem hc)⟩

theorem isBlankText_spelled {l : List Nat} (h : l ≠ []) : Text.isBlankText (spelled l) = false := by
  cases l with
  | nil => contradiction
  | cons n l =>
    refine isBlankText_of_digits (n := n) ?_
    rw [toList_spelled, List.map_cons]
    cases l with
    | nil => simp [List.intercalate]
    | cons m l =>
      rw [List.map_cons, List.intercalate_cons_cons, List.append_assoc]
      exact List.subset_append_left ..

theorem parseItems_numbers_iff {l : List Nat} {t u : IndexSet} :
    parseItems spec maxRowIndex t (l.map (Nat.toDigits 10)) = .ok u ↔
      (∀ n ∈ l, n ≤ maxRowIndex) ∧ u = l.foldl (fun t n => t.insertInterval n 1) t := by
  induction l generalizing t with
  | nil =>
    simp only [List.map_nil, parseItems, List.foldl_nil, Except.ok.injEq, eq_comm (a := t)]
    simp
  | cons n l ih =>
    simp only [List.map_cons, parseItems_cons_eq_ok, trimBy_toDigits, parseItem_toDigits_iff]
    constructor
    · rintro ⟨x, ⟨hn, rfl⟩, hrest⟩
      obtain ⟨hl, hu⟩ := ih.mp hrest
      exact ⟨List.forall_mem_cons.mpr ⟨hn, hl⟩, hu⟩
    · rintro ⟨hall, hu⟩
      obtain ⟨hn, hl⟩ := List.forall_mem_cons.mp hall
      exact ⟨(n, 1), ⟨hn, rfl⟩, ih.mpr ⟨hl, hu⟩⟩

theorem mem_foldl_insert {l : List Nat} {t : IndexSet} {i : Nat} :
    i ∈ l.foldl (fun t n => t.insertInterval n 1) t ↔ i ∈ t ∨ i ∈ l := by
  induction l generalizing t with
  | nil => simp
  | cons n l ih =>
    have hone : n ≤ i ∧ i < n + 1 ↔ i = n := by omega
    rw [List.foldl_cons, ih, IndexSet.mem_insertInterval, hone, List.mem_cons, or_assoc,
      or_left_comm]

/-- Rows that are spelled out are denoted exactly when they lie in the grid. -/
theorem parse_spelled_iff {l : List Nat} {t : IndexSet} (hne : l ≠ [])
    (ascending : l.Pairwise (· < ·)) :
    parse (spelled l) maxRowIndex = .ok t ↔ (∀ n ∈ l, n ≤ maxRowIndex) ∧ t.toList = l := by
  have hcommas : ∀ p ∈ l.map (Nat.toDigits 10), ',' ∉ p := by
    intro p hp
    obtain ⟨n, _, rfl⟩ := List.mem_map.mp hp
    exact not_mem_toDigits (by decide)
  have hset : l.foldl (fun t n => t.insertInterval n 1) (∅ : IndexSet) = ⟨l, ascending⟩ :=
    IndexSet.ext_mem fun i => mem_foldl_insert.trans (or_iff_right IndexSet.not_mem_empty)
  rw [parse, if_neg (by rw [isBlankText_spelled hne]; exact Bool.false_ne_true), toList_spelled,
    Text.pieces_intercalate (by simpa using hne) hcommas, parseItems_numbers_iff, hset]
  refine and_congr_right fun _ => ⟨fun h => by rw [h], fun h => ?_⟩
  obtain ⟨m, hm⟩ := t
  subst h
  rfl

theorem of_mem_span {first last : Nat} {c : Char} (h : c ∈ (span first last).toList) :
    c.isDigit = true ∨ c = ':' := by
  rw [toList_span] at h
  rcases List.mem_append.mp h with h | h
  · exact .inl (isDigit_of_mem h)
  · rcases List.mem_cons.mp h with rfl | h
    · exact .inr rfl
    · exact .inl (isDigit_of_mem h)

theorem isBlankText_span (first last : Nat) : Text.isBlankText (span first last) = false := by
  refine isBlankText_of_digits (n := first) ?_
  rw [toList_span]
  exact List.subset_append_left ..

theorem parseItem_span {first last most : Nat} (hle : first ≤ last) (hlast : last ≤ most)
    (grid : most ≤ maxRowIndex) :
    parseItem spec most (span first last).toList = .ok (first, last + 1 - first) := by
  have hne : (span first last).toList.isEmpty = false := by simp [toList_span]
  have hbounds : Text.pieces [':'] (span first last).toList =
      [Nat.toDigits 10 first, Nat.toDigits 10 last] := by
    rw [toList_span, Text.pieces_append_cons, pieces_toDigits, pieces_toDigits]
    rfl
  simp only [parseItem, hne, hbounds, parseBound_toDigits hlast grid,
    parseBound_toDigits (Nat.le_trans hle hlast) grid]
  rw [if_neg (by simp)]
  show (if first > last then _ else _) = _
  rw [if_neg (by omega)]
  rfl

/-- The text of a span of the grid denotes the indices of the span. -/
theorem parse_span {first last most : Nat} (hle : first ≤ last) (hlast : last ≤ most)
    (grid : most ≤ maxRowIndex) :
    parse (span first last) most = .ok (.interval first (last + 1 - first)) := by
  have hblank : ∀ c ∈ (span first last).toList, Text.isBlank c = false := by
    intro c hc
    rcases of_mem_span hc with hd | rfl
    · exact Text.isBlank_of_isDigit hd
    · decide
  have hcomma : ',' ∉ (span first last).toList := by
    intro hc
    rcases of_mem_span hc with hd | hd <;> exact absurd hd (by decide)
  have hset : (∅ : IndexSet).insertInterval first (last + 1 - first) =
      .interval first (last + 1 - first) :=
    IndexSet.ext_mem fun i => by
      rw [IndexSet.mem_insertInterval, IndexSet.mem_interval]
      exact or_iff_left IndexSet.not_mem_empty
  rw [parse, isBlankText_span, if_neg Bool.false_ne_true, Text.pieces_of_not_mem hcomma,
    parseItems_cons_eq_ok]
  refine ⟨(first, last + 1 - first), ?_, congrArg Except.ok hset⟩
  rw [Text.trimBy_of_none hblank]
  exact parseItem_span hle hlast grid

/-- What is left of some indices from one of them on may be named by a span. -/
theorem parse_span_rest {first count most : Nat} (hfirst : first < count)
    (hcount : count ≤ most + 1) (grid : most ≤ maxRowIndex) :
    parse (span first (count - 1)) most = .ok (.interval first (count - first)) := by
  have hspec := parse_span (Nat.le_sub_one_of_lt hfirst) (Nat.sub_le_of_le_add hcount) grid
  rwa [Nat.sub_add_cancel (Nat.one_le_of_lt hfirst)] at hspec

end IndexSpec

end SheetActions
