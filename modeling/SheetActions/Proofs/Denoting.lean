import SheetActions.Proofs.Spelled

/-! What a specification denotes.

The items of a specification are what the commas leave of it. An item names indices if it is a
number, or two numbers with a colon between them that do not descend, and no number is past the
greatest index (`Names`); the blanks around items and numbers do not count. A specification is
accepted exactly when all of its items name indices, and then it denotes what any of them names.
Otherwise the first item that names none is reported, with the whole specification
(`parse_denotes`). -/
namespace SheetActions

namespace Text
variable {c : Char} {text : List Char} {items : List (List Char)}

/-- The items are what is between the occurrences of a character in a text. -/
structure IsSplit (c : Char) (text : List Char) (items : List (List Char)) : Prop where
  ne_nil : items ≠ []
  free : ∀ item ∈ items, c ∉ item
  joined : [c].intercalate items = text

theorem isSplit_pieces (c : Char) (text : List Char) : IsSplit c text (pieces [c] text) where
  ne_nil := pieces_ne_nil [c] text
  free := not_mem_pieces c text
  joined := intercalate_pieces (List.cons_ne_nil c []) text

/-- There is only one way to split a text. -/
theorem IsSplit.pieces_eq (h : IsSplit c text items) : pieces [c] text = items := by
  rw [← h.joined, pieces_intercalate h.ne_nil h.free]

theorem isInfix_intercalate {d item : List Char} (h : item ∈ items) :
    item <:+: d.intercalate items := by
  induction items with
  | nil => cases h
  | cons first rest ih =>
    cases rest with
    | nil =>
      obtain rfl := List.mem_singleton.mp h
      exact ⟨[], [], by rw [List.intercalate_singleton, List.append_nil, List.nil_append]⟩
    | cons second rest =>
      rw [List.intercalate_cons_cons]
      rcases List.mem_cons.mp h with rfl | h
      · exact ((List.prefix_append item d).trans (List.prefix_append ..)).isInfix
      · exact (ih h).trans (List.suffix_append ..).isInfix

theorem IsSplit.isInfix (h : IsSplit c text items) {item : List Char} (hitem : item ∈ items) :
    item <:+: text := by
  rw [← h.joined]
  exact isInfix_intercalate hitem

theorem trimBy_isInfix (p : Char → Bool) (l : List Char) : trimBy p l <:+: l := by
  have hfront := trimBy_prefix p l
  exact hfront.isInfix.trans (List.dropWhile_suffix p).isInfix

/-- No run of digits in a text is too long for a numeral. -/
def ShortRuns (text : List Char) : Prop :=
  ∀ run, run <:+: text → (∀ c ∈ run, c.isDigit = true) → run.length ≤ Numeral.digitLimit

theorem ShortRuns.mono {l : List Char} (h : ShortRuns text) (hl : l <:+: text) : ShortRuns l :=
  fun run hrun => h run (hrun.trans hl)

theorem shortRuns_of_length (h : text.length ≤ Numeral.digitLimit) : ShortRuns text :=
  fun _ hrun _ => Nat.le_trans hrun.length_le h

end Text

namespace IndexSpec
variable {spec name : String} {greatest : Int} {item : List Char} {a b : Nat}

/-! ### Numbers and items -/

/-- A text of decimal digits for a number. -/
structure Writes (digits : List Char) (n : Nat) : Prop where
  ne_nil : digits ≠ []
  isDigit : ∀ c ∈ digits, c.isDigit = true
  value : natOfDigits digits = n

/-- An item without blanks at its ends names the indices from `a` to `b`. -/
inductive Names (greatest : Int) (item : List Char) : Nat → Nat → Prop where
  | index {n : Nat} : Writes item n → (n : Int) ≤ greatest → Names greatest item n n
  | span {first last : List Char} {a b : Nat} : Text.IsSplit ':' item [first, last] →
      Writes (Text.trimBy Text.isBlank first) a → Writes (Text.trimBy Text.isBlank last) b →
      a ≤ b → (b : Int) ≤ greatest → Names greatest item a b

/-- An item that names indices, whatever blanks are at its ends. -/
def IsItem (greatest : Int) (item : List Char) : Prop :=
  ∃ a b, Names greatest (Text.trimBy Text.isBlank item) a b

/-- An index is among those that an item names. -/
def IsNamed (greatest : Int) (item : List Char) (i : Nat) : Prop :=
  ∃ a b, Names greatest (Text.trimBy Text.isBlank item) a b ∧ a ≤ i ∧ i ≤ b

/-- A number has no colon. -/
theorem Writes.pieces_eq {n : Nat} (h : Writes item n) : Text.pieces [':'] item = [item] := by
  refine Text.pieces_of_not_mem fun hcolon => ?_
  have hdigit := h.isDigit ':' hcolon
  exact absurd hdigit (by decide)

theorem names_iff_of_one {bound : List Char} (h : Text.pieces [':'] item = [bound]) :
    Names greatest item a b ↔ a = b ∧ Writes item a ∧ (a : Int) ≤ greatest := by
  constructor
  · intro hnames
    cases hnames with
    | index hn hle => exact ⟨rfl, hn, hle⟩
    | span hsplit => cases hsplit.pieces_eq.symm.trans h
  · rintro ⟨rfl, hn, hle⟩
    exact .index hn hle

theorem names_iff_of_two {first last : List Char} (h : Text.pieces [':'] item = [first, last]) :
    Names greatest item a b ↔ Writes (Text.trimBy Text.isBlank first) a ∧
      Writes (Text.trimBy Text.isBlank last) b ∧ a ≤ b ∧ (b : Int) ≤ greatest := by
  constructor
  · intro hnames
    cases hnames with
    | index hn => cases hn.pieces_eq.symm.trans h
    | span hsplit ha hb hle hgreatest =>
      cases hsplit.pieces_eq.symm.trans h
      exact ⟨ha, hb, hle, hgreatest⟩
  · rintro ⟨ha, hb, hle, hgreatest⟩
    exact .span (h ▸ Text.isSplit_pieces ':' item) ha hb hle hgreatest

/-- An item names its indices by one first and one last index. -/
theorem Names.unique {a' b' : Nat} (h : Names greatest item a b) (h' : Names greatest item a' b') :
    a' = a ∧ b' = b := by
  cases h with
  | index hn =>
    obtain ⟨rfl, hn', _⟩ := (names_iff_of_one hn.pieces_eq).mp h'
    exact ⟨hn'.value.symm.trans hn.value, hn'.value.symm.trans hn.value⟩
  | span hsplit ha hb =>
    obtain ⟨ha', hb', _⟩ := (names_iff_of_two hsplit.pieces_eq).mp h'
    exact ⟨ha'.value.symm.trans ha.value, hb'.value.symm.trans hb.value⟩

theorem Names.le (h : Names greatest item a b) : a ≤ b := by
  cases h with
  | index => exact Nat.le_refl a
  | span _ _ _ hle => exact hle

/-- The interval of an item adds the indices that it names. -/
theorem Names.mem_insertInterval {t : IndexSet} {i : Nat}
    (h : Names greatest (Text.trimBy Text.isBlank item) a b) :
    i ∈ t.insertInterval a (b + 1 - a) ↔ i ∈ t ∨ IsNamed greatest item i := by
  have hnamed : IsNamed greatest item i ↔ a ≤ i ∧ i ≤ b := by
    constructor
    · rintro ⟨a', b', h', hi⟩
      obtain ⟨rfl, rfl⟩ := h.unique h'
      exact hi
    · exact fun hi => ⟨a, b, h, hi⟩
  have hle := h.le
  rw [IndexSet.mem_insertInterval, hnamed, or_comm]
  exact or_congr_right (by omega)

/-! ### What is not read -/

/-- What reading a text fails with: the refusal of the item with a name, or a breakdown on a run of
digits in the text that is too long. -/
inductive Unread (spec name : String) (text : List Char) : Fault → Prop
  | refused (flaw : Flaw) : Unread spec name text (refuse spec name flaw)
  | overlong {run : List Char} (within : run <:+: text) (digits : ∀ c ∈ run, c.isDigit = true)
    (long : Numeral.digitLimit < run.length) :
    Unread spec name text (.breakdown (.numeralTooLong run.length))

theorem Unread.mono {text l : List Char} {f : Fault} (h : Unread spec name l f) (hl : l <:+: text) :
    Unread spec name text f := by
  cases h with
  | refused flaw => exact .refused flaw
  | overlong within digits long => exact .overlong (within.trans hl) digits long

/-- Without such a run of digits the item is refused. -/
theorem Unread.exists_flaw {text : List Char} {f : Fault} (h : Unread spec name text f)
    (short : Text.ShortRuns text) : ∃ flaw, f = refuse spec name flaw := by
  cases h with
  | refused flaw => exact ⟨flaw, rfl⟩
  | overlong within digits long => exact absurd long (Nat.not_lt.mpr (short _ within digits))

theorem unread_of_parseBound {bound : List Char} {f : Fault}
    (h : parseBound spec name greatest bound = .error f) : Unread spec name bound f := by
  simp only [parseBound] at h
  split at h
  · cases h
    exact .refused _
  · rename_i hdigits
    simp only [Bool.or_eq_true, Bool.not_eq_true', not_or, Bool.not_eq_false,
      List.all_eq_true] at hdigits
    split at h
    · rename_i hlong
      cases h
      exact .overlong (Text.trimBy_isInfix ..) hdigits.2 hlong
    · split at h
      · cases h
        exact .refused _
      · cases h

theorem unread_of_parseItem {item : List Char} {f : Fault}
    (h : parseItem spec greatest item = .error f) : Unread spec (String.ofList item) item f := by
  -- what goes wrong with a bound goes wrong with the item
  have hbound : ∀ bound ∈ Text.pieces [':'] item,
      parseBound spec (String.ofList item) greatest bound = .error f →
        Unread spec (String.ofList item) item f := fun bound hmem hread =>
    (unread_of_parseBound hread).mono ((Text.isSplit_pieces ':' item).isInfix hmem)
  simp only [parseItem] at h
  split at h
  · cases h
    exact .refused _
  · split at h
    · rename_i bound hpieces
      rcases bind_eq_error.mp h with h | ⟨_, _, h⟩
      · exact hbound _ (by simp [hpieces]) h
      · cases h
    · rename_i first last hpieces
      rcases bind_eq_error.mp h with h | ⟨_, _, h⟩
      · exact hbound _ (by simp [hpieces]) h
      rcases bind_eq_error.mp h with h | ⟨_, _, h⟩
      · exact hbound _ (by simp [hpieces]) h
      split at h
      · cases h
        exact .refused _
      · cases h
    · cases h
      exact .refused _

/-! ### Reading numbers and items -/

section Bound
variable {bound : List Char} (short : Text.ShortRuns bound)
include short

/-- A bound is read as a number when it is one that is not past the greatest index. -/
theorem parseBound_eq_ok_iff {n : Nat} : parseBound spec name greatest bound = .ok n ↔
    Writes (Text.trimBy Text.isBlank bound) n ∧ (n : Int) ≤ greatest := by
  simp only [parseBound]
  split
  · rename_i hother
    refine iff_of_false (fun h => by cases h) ?_
    rintro ⟨hn, _⟩
    simp [hn.ne_nil, List.all_eq_true.mpr hn.isDigit] at hother
  · rename_i hdigits
    simp only [Bool.or_eq_true, List.isEmpty_iff, Bool.not_eq_true', not_or, Bool.not_eq_false,
      List.all_eq_true] at hdigits
    rw [if_neg (Nat.not_lt.mpr (short _ (Text.trimBy_isInfix ..) hdigits.2))]
    split
    · rename_i hpast
      refine iff_of_false (fun h => by cases h) ?_
      rintro ⟨hn, hle⟩
      rw [hn.value] at hpast
      omega
    · rename_i hle
      rw [Except.ok.injEq]
      constructor
      · rintro rfl
        exact ⟨⟨hdigits.1, hdigits.2, rfl⟩, Int.not_lt.mp hle⟩
      · rintro ⟨hn, _⟩
        exact hn.value

end Bound

section Item
variable (short : Text.ShortRuns item)
include short

theorem shortRuns_of_mem {bound : List Char} (h : bound ∈ Text.pieces [':'] item) :
    Text.ShortRuns bound :=
  short.mono ((Text.isSplit_pieces ':' item).isInfix h)

/-- An item is read as the indices that it names. -/
theorem parseItem_eq_ok_iff (trimmed : Text.trimBy Text.isBlank item = item) {x : Nat × Nat} :
    parseItem spec greatest item = .ok x ↔
      ∃ a b, Names greatest item a b ∧ x = (a, b + 1 - a) := by
  simp only [parseItem]
  split
  · rename_i hempty
    rw [List.isEmpty_iff] at hempty
    subst hempty
    refine iff_of_false (fun h => by cases h) ?_
    rintro ⟨a, b, h, _⟩
    obtain ⟨_, hn, _⟩ := (names_iff_of_one (Text.pieces_nil [':'])).mp h
    exact hn.ne_nil rfl
  · split
    · rename_i bound hpieces
      -- without a colon the item is its only bound
      obtain rfl : bound = item := by
        simpa [hpieces] using (Text.isSplit_pieces ':' item).joined
      simp only [bind_eq_ok, parseBound_eq_ok_iff short, trimmed, names_iff_of_one hpieces]
      constructor
      · rintro ⟨n, hn, hx⟩
        cases hx
        exact ⟨n, n, ⟨rfl, hn⟩, by rw [Nat.add_sub_cancel_left]⟩
      · rintro ⟨n, _, ⟨rfl, hn⟩, rfl⟩
        exact ⟨n, hn, by rw [Nat.add_sub_cancel_left]; rfl⟩
    · rename_i first last hpieces
      have hfirst : Text.ShortRuns first := shortRuns_of_mem short (by simp [hpieces])
      have hlast : Text.ShortRuns last := shortRuns_of_mem short (by simp [hpieces])
      simp only [bind_eq_ok, parseBound_eq_ok_iff hfirst, parseBound_eq_ok_iff hlast,
        names_iff_of_two hpieces]
      constructor
      · rintro ⟨a, ⟨ha, _⟩, b, ⟨hb, hgreatest⟩, hx⟩
        split at hx
        · cases hx
        · cases hx
          exact ⟨a, b, ⟨ha, hb, Nat.not_lt.mp ‹_›, hgreatest⟩, rfl⟩
      · rintro ⟨a, b, ⟨ha, hb, hle, hgreatest⟩, rfl⟩
        refine ⟨a, ⟨ha, by omega⟩, b, ⟨hb, hgreatest⟩, ?_⟩
        rw [if_neg (Nat.not_lt.mpr hle)]
        rfl
    · rename_i hone htwo
      refine iff_of_false (fun h => by cases h) ?_
      rintro ⟨a, b, h, _⟩
      cases h with
      | index hn => exact hone _ hn.pieces_eq
      | span hsplit => exact htwo _ _ hsplit.pieces_eq

end Item

/-! ### Reading specifications -/

section Items
variable {items : List (List Char)} {t u : IndexSet}

/-- Items are read when all of them name indices, which are added to the set. -/
theorem parseItems_eq_ok_iff (short : ∀ item ∈ items, Text.ShortRuns item) :
    parseItems spec greatest t items = .ok u ↔ (∀ item ∈ items, IsItem greatest item) ∧
      ∀ i, i ∈ u ↔ i ∈ t ∨ ∃ item ∈ items, IsNamed greatest item i := by
  induction items generalizing t with
  | nil =>
    simp only [parseItems, Except.ok.injEq, List.not_mem_nil, false_and, exists_false, or_false]
    constructor
    · rintro rfl
      exact ⟨fun _ h => h.elim, fun _ => Iff.rfl⟩
    · rintro ⟨_, h⟩
      exact IndexSet.ext_mem fun i => (h i).symm
  | cons item items ih =>
    obtain ⟨hitem, hitems⟩ := List.forall_mem_cons.mp short
    have hread : ∀ x, parseItem spec greatest (Text.trimBy Text.isBlank item) = .ok x ↔ _ :=
      fun x => parseItem_eq_ok_iff (hitem.mono (Text.trimBy_isInfix ..)) (Text.trimBy_trimBy _ item)
    simp only [parseItems_cons_eq_ok, hread, ih hitems, List.mem_cons, forall_eq_or_imp,
      or_and_right, exists_or, exists_eq_left, ← or_assoc]
    constructor
    · rintro ⟨_, ⟨a, b, hnames, rfl⟩, hrest, hmem⟩
      exact ⟨⟨⟨a, b, hnames⟩, hrest⟩, fun i => by rw [hmem, hnames.mem_insertInterval]⟩
    · rintro ⟨⟨⟨a, b, hnames⟩, hrest⟩, hmem⟩
      exact ⟨_, ⟨a, b, hnames, rfl⟩, hrest, fun i => by rw [hmem, hnames.mem_insertInterval]⟩

/-- The first item that names no indices is refused. -/
theorem exists_flaw_of_parseItems (short : ∀ item ∈ items, Text.ShortRuns item) {f : Fault}
    (h : parseItems spec greatest t items = .error f) :
    ∃ front item back flaw, items = front ++ item :: back ∧ (∀ x ∈ front, IsItem greatest x) ∧
      ¬ IsItem greatest item ∧
      f = refuse spec (String.ofList (Text.trimBy Text.isBlank item)) flaw := by
  induction items generalizing t with
  | nil => cases h
  | cons item items ih =>
    obtain ⟨hitem, hitems⟩ := List.forall_mem_cons.mp short
    have hshort := hitem.mono (Text.trimBy_isInfix Text.isBlank item)
    have htrimmed := Text.trimBy_trimBy Text.isBlank item
    rw [parseItems] at h
    rcases bind_eq_error.mp h with h | ⟨x, hx, h⟩
    · obtain ⟨flaw, hflaw⟩ := (unread_of_parseItem h).exists_flaw hshort
      refine ⟨[], item, items, flaw, rfl, List.forall_mem_nil _, ?_, hflaw⟩
      rintro ⟨a, b, hnames⟩
      cases h.symm.trans ((parseItem_eq_ok_iff hshort htrimmed).mpr ⟨a, b, hnames, rfl⟩)
    · obtain ⟨front, bad, back, flaw, rfl, hfront, hbad⟩ := ih hitems h
      obtain ⟨a, b, hnames, _⟩ := (parseItem_eq_ok_iff hshort htrimmed).mp hx
      exact ⟨item :: front, bad, back, flaw, rfl, List.forall_mem_cons.mpr ⟨⟨a, b, hnames⟩, hfront⟩,
        hbad⟩

end Items

theorem parse_of_isSplit {items : List (List Char)} (visible : Text.isBlankText spec = false)
    (h : Text.IsSplit ',' spec.toList items) :
    parse spec greatest = parseItems spec greatest ∅ items := by
  rw [parse, visible, h.pieces_eq]
  rfl

/-- **Specifications denote what their items name.** A missing or blank specification denotes
nothing. Any other one, split at its commas, is accepted exactly when every item names indices.
It then denotes the indices that some item names, in ascending order. If it is not accepted, the
failure reports the whole specification and the first item that names none. -/
theorem parse_denotes (spec : Option String) (greatest : Int)
    (short : ∀ s, spec = some s → Text.ShortRuns s.toList) :
    ((∀ s, spec = some s → Text.isBlankText s = true) → parseOptional spec greatest = .ok ∅) ∧
    ∀ s items, spec = some s → Text.isBlankText s = false → Text.IsSplit ',' s.toList items →
      ((∃ t, parseOptional spec greatest = .ok t) ↔ ∀ item ∈ items, IsItem greatest item) ∧
      (∀ t, parseOptional spec greatest = .ok t → t.toList.Pairwise (· < ·) ∧
        ∀ i, i ∈ t.toList ↔ ∃ item ∈ items, IsNamed greatest item i) ∧
      ((¬ ∀ item ∈ items, IsItem greatest item) → ∃ front item back flaw,
        items = front ++ item :: back ∧ (∀ x ∈ front, IsItem greatest x) ∧
        ¬ IsItem greatest item ∧ parseOptional spec greatest =
          .error (refuse s (String.ofList (Text.trimBy Text.isBlank item)) flaw)) := by
  refine ⟨fun blank => ?_, ?_⟩
  · cases spec with
    | none => rfl
    | some s => rw [parseOptional, parse, if_pos (blank s rfl)]
  · rintro s items rfl visible hsplit
    have hitems : ∀ item ∈ items, Text.ShortRuns item :=
      fun item hitem => (short s rfl).mono (hsplit.isInfix hitem)
    simp only [parseOptional, parse_of_isSplit visible hsplit]
    refine ⟨⟨?_, fun hall => ?_⟩, fun t ht => ⟨t.ascending, fun i => ?_⟩, fun hsome => ?_⟩
    · rintro ⟨t, ht⟩
      exact ((parseItems_eq_ok_iff hitems).mp ht).1
    · cases hread : parseItems s greatest ∅ items with
      | ok t => exact ⟨t, rfl⟩
      | error f =>
        obtain ⟨_, item, _, _, rfl, _, hitem, _⟩ := exists_flaw_of_parseItems hitems hread
        exact absurd (hall item (by simp)) hitem
    · rw [← IndexSet.mem_iff, ((parseItems_eq_ok_iff hitems).mp ht).2]
      exact or_iff_right IndexSet.not_mem_empty
    · cases hread : parseItems s greatest ∅ items with
      | ok t => exact absurd ((parseItems_eq_ok_iff hitems).mp hread).1 hsome
      | error f =>
        obtain ⟨front, item, back, flaw, hcut, hfront, hitem, rfl⟩ :=
          exists_flaw_of_parseItems hitems hread
        exact ⟨front, item, back, flaw, hcut, hfront, hitem, rfl⟩

theorem parse_denotes_unordered :
    Text.ShortRuns "5:8, 1,7".toList ∧ Text.isBlankText "5:8, 1,7" = false ∧
    Text.IsSplit ',' "5:8, 1,7".toList [['5', ':', '8'], [' ', '1'], ['7']] ∧
    ∃ t, parseOptional (some "5:8, 1,7") 8 = .ok t ∧ t.toList = [1, 5, 6, 7, 8] ∧
      ∀ i, i ∈ t.toList ↔
        ∃ item ∈ [['5', ':', '8'], [' ', '1'], ['7']], IsNamed 8 item i := by
  have short : Text.ShortRuns "5:8, 1,7".toList := Text.shortRuns_of_length (by decide)
  have visible : Text.isBlankText "5:8, 1,7" = false := by decide
  have hsplit : Text.IsSplit ',' "5:8, 1,7".toList [['5', ':', '8'], [' ', '1'], ['7']] :=
    ⟨by decide, by decide, by decide⟩
  have hread : parseOptional (some "5:8, 1,7") 8 = .ok ⟨[1, 5, 6, 7, 8], by decide⟩ := rfl
  obtain ⟨_, hdenotes⟩ := parse_denotes (some "5:8, 1,7") 8 fun _ hs => Option.some.inj hs ▸ short
  obtain ⟨_, hmem, _⟩ := hdenotes _ _ rfl visible hsplit
  exact ⟨short, visible, hsplit, _, hread, rfl, (hmem _ hread).2⟩

end IndexSpec

end SheetActions
