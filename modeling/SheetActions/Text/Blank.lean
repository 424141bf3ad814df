/-! White space and trimming.

Two classes of blank characters are in use. `isWhiteSpace` is the Unicode
property White_Space; `isBlank` adds the four information separators. Texts of
users are trimmed of blanks, numerals only of white space.

`trimBy` is the general function: it drops the characters of a class from both
ends and nothing else. -/
namespace SheetActions.Text

/-- Whether a code point lies in one of the closed ranges. -/
def inRanges (ranges : List (Nat × Nat)) (n : Nat) : Bool :=
  ranges.any fun r => r.1 ≤ n && n ≤ r.2

/-- The code points with the Unicode property White_Space. -/
def whiteSpaceRanges : List (Nat × Nat) :=
  [(0x09, 0x0D), (0x20, 0x20), (0x85, 0x85), (0xA0, 0xA0), (0x1680, 0x1680), (0x2000, 0x200A),
   (0x2028, 0x2029), (0x202F, 0x202F), (0x205F, 0x205F), (0x3000, 0x3000)]

def isWhiteSpace (c : Char) : Bool :=
  inRanges whiteSpaceRanges c.toNat

/-- White space, or one of the information separators U+001C to U+001F. -/
def isBlank (c : Char) : Bool :=
  isWhiteSpace c || (0x1C ≤ c.toNat && c.toNat ≤ 0x1F)

/-- Every character that is white space to the core library is blank here. -/
theorem isBlank_of_isWhitespace (c : Char) (h : c.isWhitespace = true) : isBlank c = true := by
  simp only [Char.isWhitespace, Bool.or_eq_true, decide_eq_true_eq] at h
  rcases h with ((h | h) | h) | h <;> subst h <;> decide

/-! ### Trimming -/

/-- Drops the characters of a class from both ends. -/
def trimBy (p : Char → Bool) (l : List Char) : List Char :=
  ((l.dropWhile p).reverse.dropWhile p).reverse

theorem dropWhile_eq_nil_iff {p : Char → Bool} {l : List Char} :
    l.dropWhile p = [] ↔ ∀ c ∈ l, p c = true := by
  induction l with
  | nil => simp
  | cons c r ih => cases h : p c <;> simp [h, ih]

/-- Trimming leaves nothing exactly when every character is in the class. -/
theorem trimBy_eq_nil_iff {p : Char → Bool} {l : List Char} :
    trimBy p l = [] ↔ ∀ c ∈ l, p c = true := by
  rw [trimBy, List.reverse_eq_nil_iff, dropWhile_eq_nil_iff]
  constructor
  · intro h
    induction l with
    | nil => simp
    | cons c r ih =>
      cases hc : p c with
      | false =>
        have hp := h c (by simp [List.dropWhile_cons_of_neg, hc])
        rw [hc] at hp
        contradiction
      | true =>
        rw [List.dropWhile_cons_of_pos hc] at h
        simpa [hc] using ih h
  · intro h c hc
    exact h c (List.dropWhile_sublist p |>.subset (List.mem_reverse.mp hc))

/-- The text without the blanks at its ends. -/
def trim (s : String) : String :=
  String.ofList (trimBy isBlank s.toList)

/-- Whether a text holds nothing but blanks. -/
def isBlankText (s : String) : Bool :=
  s.toList.all isBlank

/-- A text is blank exactly when trimming leaves nothing of it. -/
theorem isBlankText_iff {s : String} : isBlankText s = true ↔ trim s = "" := by
  rw [isBlankText, List.all_eq_true, ← trimBy_eq_nil_iff, trim, ← String.toList_inj,
    String.toList_ofList]
  rfl

end SheetActions.Text
