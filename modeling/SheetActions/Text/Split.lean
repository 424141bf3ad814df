/-! Splitting a text at a delimiter.

`pieces d l` cuts `l` at every occurrence of the delimiter `d`, found from left to
right and without overlap. There is always one piece more than there are cuts, so
the empty text has one empty piece. Joining the pieces with the delimiter gives
the text back (`intercalate_pieces`), and for a delimiter of one character no
piece holds it (`not_mem_pieces`); texts that do not hold it are the pieces of what
joins them (`pieces_intercalate`).

The empty delimiter cuts nowhere in particular: `split?` refuses it. -/
namespace SheetActions.Text

/-- Puts a character in front of the first piece. -/
def consFirst (c : Char) : List (List Char) → List (List Char)
  | [] => [[c]]
  | p :: ps => (c :: p) :: ps

/-- The pieces of a text between the occurrences of the delimiter; `skip` characters
of an occurrence that was just found are still to be passed over. -/
def piecesFrom (d : List Char) : Nat → List Char → List (List Char)
  | _, [] => [[]]
  | skip + 1, _ :: r => piecesFrom d skip r
  | 0, c :: r =>
    if d.isPrefixOf (c :: r) then [] :: piecesFrom d (d.length - 1) r
    else consFirst c (piecesFrom d 0 r)

/-- The pieces of a text between the occurrences of the delimiter. -/
def pieces (d l : List Char) : List (List Char) :=
  piecesFrom d 0 l

/-- The pieces of a text, or nothing for the empty delimiter. -/
def split? (delimiter text : String) : Option (List String) :=
  if delimiter.isEmpty then none
  else some ((pieces delimiter.toList text.toList).map String.ofList)

/-! ### Shape of the pieces -/

theorem piecesFrom_ne_nil (d : List Char) (skip : Nat) (l : List Char) :
    piecesFrom d skip l ≠ [] := by
  induction l generalizing skip with
  | nil => simp [piecesFrom]
  | cons c r ih =>
    cases skip with
    | succ k => exact ih k
    | zero =>
      rw [piecesFrom]
      split
      · simp
      · cases h : piecesFrom d 0 r <;> simp [consFirst]

theorem pieces_nil (d : List Char) : pieces d [] = [[]] := rfl

theorem pieces_ne_nil (d l : List Char) : pieces d l ≠ [] :=
  piecesFrom_ne_nil d 0 l

/-! ### A delimiter of one character -/

theorem pieces_singleton_cons (d c : Char) (r : List Char) :
    pieces [d] (c :: r) = if c = d then [] :: pieces [d] r else consFirst c (pieces [d] r) := by
  simp only [pieces, piecesFrom, List.isPrefixOf, List.length_singleton, Nat.sub_self,
    Bool.and_true, beq_iff_eq, eq_comm (a := d)]

/-- No piece holds a delimiter of one character. -/
theorem not_mem_pieces (d : Char) (l : List Char) : ∀ p ∈ pieces [d] l, d ∉ p := by
  induction l with
  | nil => simp [pieces_nil]
  | cons c r ih =>
    rw [pieces_singleton_cons]
    split
    · simpa using ih
    · rename_i hc
      cases hp : pieces [d] r with
      | nil => exact absurd hp (pieces_ne_nil [d] r)
      | cons q qs =>
        rw [hp] at ih
        intro p hm
        rcases List.mem_cons.mp hm with rfl | hm
        · rw [List.mem_cons, not_or]
          exact ⟨Ne.symm hc, ih q (List.mem_cons_self ..)⟩
        · exact ih p (List.mem_cons_of_mem _ hm)

/-- A text without the delimiter is its only piece. -/
theorem pieces_of_not_mem {d : Char} {l : List Char} (h : d ∉ l) : pieces [d] l = [l] := by
  induction l with
  | nil => rfl
  | cons c r ih =>
    rw [List.mem_cons, not_or] at h
    rw [pieces_singleton_cons, if_neg (Ne.symm h.1), ih h.2]
    rfl

theorem consFirst_append (c : Char) {ps : List (List Char)} (h : ps ≠ []) (qs : List (List Char)) :
    consFirst c (ps ++ qs) = consFirst c ps ++ qs := by
  cases ps with
  | nil => contradiction
  | cons p ps => rfl

/-- Each delimiter of one character cuts the text where it is. -/
theorem pieces_append_cons (d : Char) (l m : List Char) :
    pieces [d] (l ++ d :: m) = pieces [d] l ++ pieces [d] m := by
  induction l with
  | nil => rw [List.nil_append, pieces_singleton_cons, if_pos rfl, pieces_nil]; rfl
  | cons c r ih =>
    rw [List.cons_append, pieces_singleton_cons, pieces_singleton_cons, ih]
    split
    · rfl
    · exact consFirst_append c (pieces_ne_nil [d] r) _

/-! ### Joining -/

theorem intercalate_consFirst (d : List Char) (c : Char) {ps : List (List Char)} (h : ps ≠ []) :
    d.intercalate (consFirst c ps) = c :: d.intercalate ps := by
  cases ps with
  | nil => contradiction
  | cons p ps => cases ps <;> simp [consFirst, List.intercalate, List.intersperse]

theorem intercalate_nil_cons (d : List Char) {ps : List (List Char)} (h : ps ≠ []) :
    d.intercalate ([] :: ps) = d ++ d.intercalate ps := by
  cases ps with
  | nil => contradiction
  | cons p ps => simp [List.intercalate, List.intersperse]

/-- Joining what is left of a text after a pending skip. -/
theorem intercalate_piecesFrom {d : List Char} (hd : d ≠ []) (skip : Nat) (l : List Char) :
    d.intercalate (piecesFrom d skip l) = l.drop skip := by
  induction l generalizing skip with
  | nil => simp [piecesFrom, List.intercalate]
  | cons c r ih =>
    cases skip with
    | succ k => simpa [piecesFrom] using ih k
    | zero =>
      rw [piecesFrom]
      split
      · rename_i h
        rw [intercalate_nil_cons d (piecesFrom_ne_nil d _ r), ih]
        obtain ⟨t, ht⟩ := List.isPrefixOf_iff_prefix.mp h
        cases d with
        | nil => contradiction
        | cons a d =>
          simp only [List.cons_append, List.cons.injEq] at ht
          simp [← ht.2, ht.1]
      · rw [intercalate_consFirst d c (piecesFrom_ne_nil d _ r), ih]
        rfl

theorem intercalate_pieces {d : List Char} (hd : d ≠ []) (l : List Char) :
    d.intercalate (pieces d l) = l :=
  intercalate_piecesFrom hd 0 l

/-- Texts without the delimiter are the pieces of what joins them. -/
theorem pieces_intercalate {d : Char} {ps : List (List Char)} (hne : ps ≠ [])
    (h : ∀ p ∈ ps, d ∉ p) : pieces [d] ([d].intercalate ps) = ps := by
  induction ps with
  | nil => contradiction
  | cons p ps ih =>
    have hp : pieces [d] p = [p] := pieces_of_not_mem (h p (List.mem_cons_self ..))
    cases ps with
    | nil => simpa [List.intercalate] using hp
    | cons q qs =>
      have hrest := ih (List.cons_ne_nil q qs) fun p hm => h p (List.mem_cons_of_mem _ hm)
      rw [List.intercalate_cons_cons, List.append_assoc, List.singleton_append,
        pieces_append_cons, hp, hrest]
      rfl

end SheetActions.Text
