import SheetActions.Action.Create
import SheetActions.Proofs.Saving
import SheetActions.Proofs.Spelled
import Mathlib.Data.List.Forall2

/-!
Names of new files.

The name of a new file ends in `.xlsx`, in any case. That is looked up in the text of the name, and
the programs that open a file look at the suffix of its path. The two do not always agree: the
text behind the last slash can be nothing but `.xlsx`, and then the path has no suffix. Otherwise
its suffix is that ending (`CreateRequest.suffixClass_eq`). -/
namespace SheetActions

namespace Text

/-! ### Lower case at the end of a text -/

/-- The lower case of a character is one other character, wherever the character stands. -/
def LowersTo (c x : Char) : Prop :=
  c ≠ capitalSigma ∧ lowerChar c = [x]

/-- The mark above the lower case of a dotted capital letter. -/
def dotMark : Char := Char.ofNat 0x307

/-- Characters that are the lower case of one other character only, wherever it stands. -/
def IsPlainLower (x : Char) : Prop :=
  x ≠ 'i' ∧ x ≠ dotMark ∧ x ≠ Char.ofNat 0x3C2 ∧ x ≠ Char.ofNat 0x3C3

instance (x : Char) : Decidable (IsPlainLower x) :=
  inferInstanceAs (Decidable (_ ∧ _))

/-- What stands for a character in the lower case of a text. -/
theorem lowerFrom_cons (before : List Char) (c : Char) (r : List Char) :
    ∃ here, lowerFrom before (c :: r) = here ++ lowerFrom (c :: before) r ∧
      ((∃ x, here = [x] ∧ (IsPlainLower x → LowersTo c x)) ∨ here = ['i', dotMark]) := by
  refine ⟨_, rfl, ?_⟩
  by_cases hsigma : c = capitalSigma
  · rw [if_pos hsigma]
    cases meetsCased before && !meetsCased r with
    | true => exact .inl ⟨_, rfl, fun h => absurd rfl h.2.2.1⟩
    | false => exact .inl ⟨_, rfl, fun h => absurd rfl h.2.2.2⟩
  · rw [if_neg hsigma]
    unfold lowerChar
    split
    · exact .inr rfl
    · rename_i hdotted
      refine .inl ⟨_, rfl, fun _ => ⟨hsigma, ?_⟩⟩
      rw [lowerChar, if_neg hdotted]

/-- The end of a text in lower case comes from the end of the text, unless it starts with the mark
of a dotted letter. -/
theorem exists_of_suffix_lowerFrom {t l before : List Char} (ht : t.head? ≠ some dotMark)
    (h : t <:+ lowerFrom before l) :
    ∃ l₁ l₂ before', l = l₁ ++ l₂ ∧ lowerFrom before' l₂ = t := by
  induction l generalizing before with
  | nil => exact ⟨[], [], before, rfl, (List.suffix_nil.mp h).symm⟩
  | cons c r ih =>
    obtain ⟨here, heq, hhere⟩ := lowerFrom_cons before c r
    by_cases hrest : t <:+ lowerFrom (c :: before) r
    · obtain ⟨l₁, l₂, before', rfl, hl⟩ := ih hrest
      exact ⟨c :: l₁, l₂, before', rfl, hl⟩
    rw [heq] at h
    obtain ⟨s, rfl⟩ :=
      (List.suffix_or_suffix_of_suffix h (List.suffix_append _ _)).resolve_left hrest
    obtain ⟨first, hfirst⟩ := h
    rw [← List.append_assoc] at hfirst
    have hsplit := List.append_cancel_right hfirst
    cases first with
    | nil =>
      rw [List.nil_append] at hsplit
      exact ⟨[], c :: r, before, rfl, by rw [heq, hsplit]⟩
    | cons x first =>
      -- the end would start within what stands for the first character
      exfalso
      rcases hhere with ⟨y, rfl, _⟩ | rfl
      · simp only [List.cons_append, List.cons.injEq, List.append_eq_nil_iff] at hsplit
        obtain ⟨_, _, rfl⟩ := hsplit
        exact hrest (List.suffix_refl _)
      · simp only [List.cons_append, List.cons.injEq] at hsplit
        obtain ⟨_, hsplit⟩ := hsplit
        cases first with
        | nil =>
          rw [List.nil_append] at hsplit
          rw [hsplit] at ht
          exact ht rfl
        | cons z first =>
          simp only [List.cons_append, List.cons.injEq, List.append_eq_nil_iff] at hsplit
          obtain ⟨_, _, rfl⟩ := hsplit
          exact hrest (List.suffix_refl _)

/-- Where only plain characters come out, each stands for one character. -/
theorem forall₂_of_lowerFrom {t l before : List Char} (ht : ∀ x ∈ t, IsPlainLower x)
    (h : lowerFrom before l = t) : List.Forall₂ LowersTo l t := by
  induction l generalizing before t with
  | nil =>
    cases h
    exact .nil
  | cons c r ih =>
    obtain ⟨here, heq, hhere⟩ := lowerFrom_cons before c r
    rw [heq] at h
    subst h
    rcases hhere with ⟨x, rfl, hx⟩ | rfl
    · rw [List.singleton_append, List.forall_mem_cons] at ht
      exact .cons (hx ht.1) (ih ht.2 rfl)
    · exact absurd rfl (ht 'i' (by simp)).1

theorem lowerFrom_of_forall₂ {t l before : List Char} (h : List.Forall₂ LowersTo l t) :
    lowerFrom before l = t := by
  induction h generalizing before with
  | nil => rfl
  | cons hx _ ih =>
    rw [lowerFrom, if_neg hx.1, hx.2, ih]
    rfl

theorem exists_of_mem_forall₂ {l t : List Char} {c : Char} (h : List.Forall₂ LowersTo l t)
    (hc : c ∈ l) : ∃ x ∈ t, LowersTo c x := by
  induction h with
  | nil => exact absurd hc List.not_mem_nil
  | cons hx _ ih =>
    rcases List.mem_cons.mp hc with rfl | hc
    · exact ⟨_, List.mem_cons_self, hx⟩
    · obtain ⟨x, hmem, hx⟩ := ih hc
      exact ⟨x, List.mem_cons_of_mem _ hmem, hx⟩

/-- No character in front of the small letters is the lower case of another one. -/
theorem eq_of_lowersTo {c x : Char} (h : LowersTo c x) (hzero : x ≠ '\x00')
    (hx : x.toNat < 'a'.toNat) : c = x := by
  obtain ⟨_, h⟩ := h
  unfold lowerChar at h
  split at h
  · cases h
  rw [List.cons.injEq, and_iff_left rfl] at h
  cases hmap : CaseRun.map? lowerRuns c.toNat with
  | none =>
    rw [hmap] at h
    exact h
  | some n =>
    rw [hmap] at h
    obtain ⟨run, hrun, hn⟩ := Option.map_eq_some_iff.mp hmap
    have hruns : ∀ run ∈ lowerRuns, 0x61 ≤ (run.first : Int) + run.distance := by decide +kernel
    have hdistance := hruns run (List.mem_of_find?_eq_some hrun)
    have hfirst := List.find?_some hrun
    simp only [Bool.and_eq_true, decide_eq_true_eq] at hfirst
    have hlarge : 'a'.toNat ≤ n := by
      show 0x61 ≤ n
      omega
    exfalso
    subst h
    by_cases hvalid : n.isValidChar
    · have hsame : (Char.ofNat n).toNat = n := by
        rw [Char.ofNat, dif_pos hvalid]
        rfl
      rw [Option.elim_some, hsame] at hx
      exact absurd hx (Nat.not_lt.mpr hlarge)
    · rw [Option.elim_some, Char.ofNat, dif_neg hvalid] at hzero
      exact hzero rfl

end Text

namespace CreateRequest

/-- How the name of a new file is made up: behind the stem there is a point, and then four
characters that are no points and no slashes. -/
structure Ending (file : String) (stem letters : List Char) : Prop where
  eq : file.toList = stem ++ '.' :: letters
  lower : List.Forall₂ Text.LowersTo letters ['x', 'l', 's', 'x']

/-- The names are those of a file and of worksheets, and that of the file ends as it should. -/
theorem names_eq_ok {r : CreateRequest} {file : String} {names : List String}
    (h : r.names = .ok (file, names)) :
    Input.fileName r.file = .ok file ∧ format.toList <:+ (Text.lower file).toList ∧
      SheetNames.parse r.delimiter r.sheetNames = .ok names := by
  obtain ⟨file', hfile, h⟩ := bind_eq_ok.mp h
  split at h
  · obtain ⟨_, hthrow, _⟩ := bind_eq_ok.mp h
    cases hthrow
  · rename_i hformat
    obtain ⟨sheets, hsheets, h⟩ := bind_eq_ok.mp h
    cases h
    simp only [Bool.not_eq_true', Bool.not_eq_false, List.isSuffixOf_iff_suffix] at hformat
    exact ⟨hfile, hformat, hsheets⟩

theorem exists_ending {r : CreateRequest} {file : String} {names : List String}
    (h : r.names = .ok (file, names)) : ∃ stem letters, Ending file stem letters := by
  obtain ⟨_, hformat, _⟩ := names_eq_ok h
  rw [Text.lower, String.toList_ofList] at hformat
  obtain ⟨stem, ending, before, hfile, hlower⟩ :=
    Text.exists_of_suffix_lowerFrom (by decide) hformat
  have hall : ∀ x ∈ ['.', 'x', 'l', 's', 'x'], Text.IsPlainLower x := by
    -- one by one, or else all characters there are would be gone through
    simp only [List.mem_cons, List.not_mem_nil, or_false, forall_eq_or_imp, forall_eq]
    decide
  cases Text.forall₂_of_lowerFrom hall hlower with
  | cons hpoint hletters =>
    cases Text.eq_of_lowersTo hpoint (by decide) (by decide)
    exact ⟨stem, _, hfile, hletters⟩

namespace Ending
variable {file : String} {stem letters : List Char} (h : Ending file stem letters)
include h

theorem length : letters.length = 4 :=
  h.lower.length_eq

/-- A point is its own lower case, and so is a slash. -/
theorem not_mem {c : Char} (hc : c = '.' ∨ c = '/') : c ∉ letters := by
  intro hmem
  obtain ⟨x, hx, _, hlower⟩ := Text.exists_of_mem_forall₂ h.lower hmem
  have hself : Text.lowerChar c = [c] := by
    rcases hc with rfl | rfl <;> decide +kernel
  cases hself.symm.trans hlower
  rcases hc with rfl | rfl <;> revert hx <;> decide

/-- In lower case they are always the same. -/
theorem lower_eq : Text.lower (String.ofList ('.' :: letters)) = ".xlsx" := by
  have hpoint : Text.LowersTo '.' '.' := by
    refine ⟨by decide, ?_⟩
    decide +kernel
  rw [Text.lower, String.toList_ofList, Text.lowerFrom_of_forall₂ (.cons hpoint h.lower)]

end Ending

end CreateRequest

/-! ### Last components -/

/-- What is put behind a text without a delimiter belongs to its last piece. -/
theorem Text.pieces_append_of_not_mem {d : Char} {s : List Char} (hs : d ∉ s) (l : List Char) :
    ∃ front last, pieces [d] (l ++ s) = front ++ [last ++ s] := by
  induction l with
  | nil => exact ⟨[], [], by rw [List.nil_append, pieces_of_not_mem hs]; rfl⟩
  | cons c l ih =>
    obtain ⟨front, last, hpieces⟩ := ih
    rw [List.cons_append, pieces_singleton_cons, hpieces]
    split
    · exact ⟨[] :: front, last, rfl⟩
    · cases front with
      | nil => exact ⟨[], c :: last, rfl⟩
      | cons piece front => exact ⟨(c :: piece) :: front, last, rfl⟩

namespace Path

/-- The suffix is what stands behind the last point, if something stands in front of it. -/
theorem suffixOf_append {q letters : List Char} (hne : letters ≠ []) (h : '.' ∉ letters) :
    suffixOf (q ++ '.' :: letters) = if q = [] then [] else '.' :: letters := by
  have hbehind : (q ++ '.' :: letters).reverse.takeWhile (· ≠ '.') = letters.reverse := by
    rw [List.reverse_append, List.reverse_cons, List.append_assoc,
      List.takeWhile_append_of_pos fun c hc => ?_]
    · rw [List.singleton_append, List.takeWhile_cons_of_neg (by simp), List.append_nil]
    · rw [List.mem_reverse] at hc
      exact decide_eq_true fun heq => h (heq ▸ hc)
  simp only [suffixOf, hbehind, List.reverse_eq_nil_iff, hne, false_or, List.reverse_reverse,
    List.length_append, List.length_cons, List.length_reverse]
  cases q with
  | nil => rw [if_pos (by simp), if_pos rfl]
  | cons c q => rw [if_neg (by simp), if_neg (List.cons_ne_nil c q)]

/-- A text of more than two characters is a component of its own. -/
theorem isIdle_of_length {s : String} (h : 2 < s.toList.length) : isIdle s = false := by
  by_contra hidle
  simp only [isIdle, Bool.or_eq_true, decide_eq_true_eq, Bool.not_eq_false] at hidle
  rcases hidle with rfl | rfl <;> exact absurd h (by decide)

theorem isRoot_of_length {s : String} (h : 2 < s.toList.length) : isRoot s = false := by
  by_contra hroot
  simp only [isRoot, Bool.or_eq_true, decide_eq_true_eq, Bool.not_eq_false] at hroot
  rcases hroot with rfl | rfl <;> exact absurd h (by decide)

end Path

namespace CreateRequest.Ending
variable {file : String} {stem letters : List Char} (h : Ending file stem letters)
include h

/-- The last part of the name ends as the name does. -/
theorem exists_last : ∃ front q last, Path.parts file = front ++ [last] ∧
    last.toList = q ++ '.' :: letters ∧ 2 < last.toList.length := by
  have hslash : '/' ∉ '.' :: letters := by
    rw [List.mem_cons, not_or]
    exact ⟨by decide, h.not_mem (.inr rfl)⟩
  obtain ⟨front, q, hpieces⟩ := Text.pieces_append_of_not_mem hslash stem
  refine ⟨front.map String.ofList, q, String.ofList (q ++ '.' :: letters), ?_,
    String.toList_ofList, ?_⟩
  · rw [Path.parts, h.eq, hpieces, List.map_append]
    rfl
  · rw [String.toList_ofList, List.length_append, List.length_cons, h.length]
    omega

/-- The path of the file is named by its last part. -/
theorem exists_name : ∃ q, (Path.ofText file).name.toList = q ++ '.' :: letters := by
  obtain ⟨front, q, last, hparts, hlast, hlength⟩ := h.exists_last
  have hcomponents : (Path.ofText file).components.getLast? = some last := by
    rw [Path.ofText, hparts, List.filter_append, ← List.append_assoc]
    simp [Path.isIdle_of_length hlength]
  refine ⟨q, ?_⟩
  simp only [Path.name, hcomponents, Path.isRoot_of_length hlength]
  exact hlast

/-- Nothing that does not count stands behind the last part. -/
theorem idleEnd_eq : Path.idleEnd file = [] := by
  obtain ⟨front, _, last, hparts, _, hlength⟩ := h.exists_last
  rw [Path.idleEnd, hparts, List.reverse_append, List.reverse_singleton, List.singleton_append,
    List.takeWhile_cons_of_neg (by simp [Path.isIdle_of_length hlength])]

/-- Such a name can be saved to unless it is too long. -/
theorem endFlaw?_eq_none_iff :
    Directory.endFlaw? file = none ↔ file.utf8ByteSize < Directory.pathLimit := by
  simp only [Directory.endFlaw?, h.idleEnd_eq]
  split
  · rename_i hlong
    exact iff_of_false nofun (Nat.not_lt.mpr hlong)
  · rename_i hshort
    exact iff_of_true rfl (Nat.not_le.mp hshort)

end CreateRequest.Ending

namespace CreateRequest
variable {r : CreateRequest} {file : String} {names : List String}

/-- **Suffixes.** The path of a new file has the suffix that the name of the file ends in, or it has
none at all. -/
theorem suffixClass_eq (h : r.names = .ok (file, names)) :
    (Path.ofText file).suffixClass = if (Path.ofText file).suffix = "" then "" else ".xlsx" := by
  obtain ⟨stem, letters, hending⟩ := exists_ending h
  obtain ⟨q, hname⟩ := hending.exists_name
  have hne : letters ≠ [] := by
    rintro rfl
    exact absurd hending.length (by decide)
  have hsuffix : (Path.ofText file).suffix =
      if q = [] then "" else String.ofList ('.' :: letters) := by
    rw [Path.suffix, hname, Path.suffixOf_append hne (hending.not_mem (.inl rfl))]
    split <;> rfl
  rw [Path.suffixClass, hsuffix]
  split
  · rfl
  · rw [if_neg, hending.lower_eq]
    intro hempty
    have hlist := congrArg String.toList hempty
    rw [String.toList_ofList] at hlist
    cases hlist

end CreateRequest

end SheetActions
