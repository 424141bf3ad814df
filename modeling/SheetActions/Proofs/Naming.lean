import SheetActions.Proofs.Tokens
import SheetActions.SheetNames

/-! The names of new worksheets.

A text is cut at its delimiter in one way only: from the left, each time at the next occurrence
(`Text.Cuts`). The trimmed pieces that are not blank are the names. They are accepted exactly if
there are any, each is short and has no reserved character, and no two are the same when case is
ignored (`SheetNames.Usable`). Otherwise the first name for which one of this fails is reported,
with the first of it that fails (`SheetNames.parse_spec`). What carries the proof is that a name is
looked at with the lower-case forms of those before it (`SheetNames.Fine`). -/
namespace SheetActions

/-! ### Cutting a text -/

namespace Text
variable {d l : List Char} {ps : List (List Char)}

/-- The pieces of a text that is cut at each occurrence of a delimiter, found from left to right and
without overlap. -/
inductive Cuts (d : List Char) : List Char → List (List Char) → Prop where
  | last {l : List Char} : ¬ d <:+: l → Cuts d l [l]
  | cut {piece rest : List Char} {ps : List (List Char)} :
      (∀ front, front ++ d <+: piece ++ (d ++ rest) → piece.length ≤ front.length) →
      Cuts d rest ps → Cuts d (piece ++ (d ++ rest)) (piece :: ps)

theorem piecesFrom_eq (d : List Char) (skip : Nat) (l : List Char) :
    piecesFrom d skip l = pieces d (l.drop skip) := by
  induction l generalizing skip with
  | nil => rw [List.drop_nil]; cases skip <;> rfl
  | cons c r ih =>
    cases skip with
    | zero => rfl
    | succ k => exact ih k

/-- At an occurrence of the delimiter there is an empty piece. -/
theorem pieces_append (hd : d ≠ []) (rest : List Char) :
    pieces d (d ++ rest) = [] :: pieces d rest := by
  obtain ⟨c, d, rfl⟩ := List.exists_cons_of_ne_nil hd
  have hprefix : (c :: d).isPrefixOf (c :: (d ++ rest)) = true :=
    List.isPrefixOf_iff_prefix.mpr (List.prefix_append (c :: d) rest)
  rw [pieces, List.cons_append, piecesFrom, if_pos hprefix, piecesFrom_eq, List.length_cons,
    Nat.add_sub_cancel, List.drop_left]

/-- Where there is no occurrence the character belongs to the first piece. -/
theorem pieces_cons {c : Char} {r : List Char} (h : ¬ d <+: c :: r) :
    pieces d (c :: r) = consFirst c (pieces d r) := by
  rw [pieces, piecesFrom, if_neg fun hprefix => h (List.isPrefixOf_iff_prefix.mp hprefix)]
  rfl

theorem pieces_of_not_infix (h : ¬ d <:+: l) : pieces d l = [l] := by
  induction l with
  | nil => rfl
  | cons c r ih =>
    rw [List.infix_cons_iff, not_or] at h
    rw [pieces_cons h.1, ih h.2]
    rfl

/-- There is only one way to cut a text. -/
theorem Cuts.pieces_eq (h : Cuts d l ps) (hd : d ≠ []) : pieces d l = ps := by
  induction h with
  | last hfree => exact pieces_of_not_infix hfree
  | @cut piece rest ps leftmost _ ih =>
    induction piece with
    | nil => rw [List.nil_append, pieces_append hd, ih]
    | cons c piece ihpiece =>
      have hnot : ¬ d <+: c :: (piece ++ (d ++ rest)) := fun hprefix =>
        Nat.not_succ_le_zero _ (leftmost [] hprefix)
      have hnext : ∀ front, front ++ d <+: piece ++ (d ++ rest) → piece.length ≤ front.length := by
        intro front hfront
        have := leftmost (c :: front) (List.cons_prefix_cons.mpr ⟨rfl, hfront⟩)
        simpa using this
      rw [List.cons_append, pieces_cons hnot, ihpiece hnext]
      rfl

theorem cuts_pieces (hd : d ≠ []) (l : List Char) : Cuts d l (pieces d l) := by
  -- a piece that ends is followed by a shorter text
  induction hn : l.length using Nat.strongRecOn generalizing l with
  | ind n ih =>
    cases l with
    | nil => exact .last fun h => hd (List.infix_nil.mp h)
    | cons c r =>
      by_cases hprefix : d <+: c :: r
      · obtain ⟨rest, hrest⟩ := hprefix
        have hlength : rest.length < n := by
          have hpos : 0 < d.length := List.length_pos_iff.mpr hd
          rw [← hn, ← hrest, List.length_append]
          omega
        rw [← hrest, pieces_append hd]
        exact @Cuts.cut d [] rest _ (fun _ _ => Nat.zero_le _) (ih _ hlength rest rfl)
      · have hcuts := ih _ (hn ▸ Nat.lt_succ_self r.length) r rfl
        rw [pieces_cons hprefix]
        generalize pieces d r = ps at hcuts
        cases hcuts with
        | last hfree => exact .last fun hinfix => (List.infix_cons_iff.mp hinfix).elim hprefix hfree
        | @cut piece rest ps leftmost hrest =>
          refine @Cuts.cut d (c :: piece) rest ps (fun front hfront => ?_) hrest
          cases front with
          | nil => exact absurd hfront hprefix
          | cons x front =>
            have := leftmost front (List.cons_prefix_cons.mp hfront).2
            simpa using this

theorem cuts_iff (hd : d ≠ []) : Cuts d l ps ↔ ps = pieces d l :=
  ⟨fun h => (h.pieces_eq hd).symm, fun h => h ▸ cuts_pieces hd l⟩

end Text

/-! ### Names that are accepted -/

namespace SheetNames
variable {before names front back : List String} {name : String} {flaw : Flaw}

/-- A name that is refused behind others, given in lower case, and what is wrong with it. -/
inductive Offends (before : List String) (name : String) : Flaw → Prop where
  | tooLong : maxLength < name.length → Offends before name (.tooLong name)
  | reservedCharacter : name.length ≤ maxLength → (∃ c ∈ name.toList, c ∈ reserved) →
      Offends before name (.reservedCharacter name)
  | repeated : name.length ≤ maxLength → (∀ c ∈ name.toList, c ∉ reserved) →
      Text.lower name ∈ before → Offends before name (.repeated name)

theorem Offends.mono {others : List String} (h : Offends before name flaw)
    (hsub : ∀ s, s ∈ before → s ∈ others) : Offends others name flaw := by
  cases h with
  | tooLong hlong => exact .tooLong hlong
  | reservedCharacter hshort hreserved => exact .reservedCharacter hshort hreserved
  | repeated hshort hplain hmem => exact .repeated hshort hplain (hsub _ hmem)

theorem flaw?_eq_some_iff : flaw? before name = some flaw ↔ Offends before name flaw := by
  unfold flaw?
  constructor
  · intro h
    split at h
    · cases h
      exact .tooLong ‹_›
    · rename_i hshort
      split at h
      · rename_i hreserved
        cases h
        exact .reservedCharacter (Nat.not_lt.mp hshort) (by simpa using hreserved)
      · rename_i hplain
        split at h
        · rename_i hmem
          cases h
          exact .repeated (Nat.not_lt.mp hshort) (by simpa using hplain) (by simpa using hmem)
        · cases h
  · intro h
    cases h with
    | tooLong hlong => rw [if_pos hlong]
    | reservedCharacter hshort hreserved =>
      rw [if_neg (Nat.not_lt.mpr hshort), if_pos (by simpa using hreserved)]
    | repeated hshort hplain hmem =>
      rw [if_neg (Nat.not_lt.mpr hshort), if_neg (by simpa using hplain),
        if_pos (by simpa using hmem)]

/-- A name that is accepted behind others. -/
theorem flaw?_eq_none_iff : flaw? before name = none ↔
    name.length ≤ maxLength ∧ (∀ c ∈ name.toList, c ∉ reserved) ∧ Text.lower name ∉ before := by
  unfold flaw?
  split
  · rename_i hlong
    exact iff_of_false nofun fun h => absurd h.1 (Nat.not_le.mpr hlong)
  · rename_i hshort
    split
    · rename_i hreserved
      refine iff_of_false nofun fun h => ?_
      obtain ⟨c, hc, hmem⟩ : ∃ c ∈ name.toList, c ∈ reserved := by simpa using hreserved
      exact h.2.1 c hc hmem
    · rename_i hplain
      split
      · rename_i hmem
        exact iff_of_false nofun fun h => h.2.2 (by simpa using hmem)
      · rename_i hnew
        exact iff_of_true rfl
          ⟨Nat.not_lt.mp hshort, by simpa using hplain, by simpa using hnew⟩

/-- Names that are accepted behind others, which are given in lower case. -/
structure Fine (before names : List String) : Prop where
  short : ∀ name ∈ names, name.length ≤ maxLength
  plain : ∀ name ∈ names, ∀ c ∈ name.toList, c ∉ reserved
  fresh : ∀ name ∈ names, Text.lower name ∉ before
  differ : (names.map Text.lower).Nodup

theorem fine_nil : Fine before [] :=
  ⟨nofun, nofun, nofun, .nil⟩

theorem fine_cons_iff : Fine before (name :: names) ↔
    flaw? before name = none ∧ Fine (Text.lower name :: before) names := by
  rw [flaw?_eq_none_iff]
  constructor
  · rintro ⟨short, plain, fresh, differ⟩
    rw [List.map_cons, List.nodup_cons] at differ
    rw [List.forall_mem_cons] at short plain fresh
    refine ⟨⟨short.1, plain.1, fresh.1⟩, short.2, plain.2, fun other hother hmem => ?_, differ.2⟩
    rcases List.mem_cons.mp hmem with heq | hmem
    · exact differ.1 (heq ▸ List.mem_map_of_mem hother)
    · exact fresh.2 other hother hmem
  · rintro ⟨⟨short, plain, fresh⟩, rest⟩
    refine ⟨List.forall_mem_cons.mpr ⟨short, rest.short⟩,
      List.forall_mem_cons.mpr ⟨plain, rest.plain⟩,
      List.forall_mem_cons.mpr ⟨fresh, fun other hother hmem =>
        rest.fresh other hother (List.mem_cons_of_mem _ hmem)⟩,
      List.nodup_cons.mpr ⟨fun hmem => ?_, rest.differ⟩⟩
    obtain ⟨other, hother, heq⟩ := List.mem_map.mp hmem
    exact rest.fresh other hother (heq ▸ List.mem_cons_self)

theorem firstFlaw?_eq_none_iff : firstFlaw? before names = none ↔ Fine before names := by
  induction names generalizing before with
  | nil => exact iff_of_true rfl fine_nil
  | cons name names ih => rw [firstFlaw?, Option.or_eq_none_iff, ih, fine_cons_iff]

/-- The flaw of names is that of the first one that is refused behind those before it. -/
theorem firstFlaw?_eq_some_iff : firstFlaw? before names = some flaw ↔
    ∃ front name back, names = front ++ name :: back ∧ Fine before front ∧
      Offends ((front.map Text.lower).reverse ++ before) name flaw := by
  induction names generalizing before with
  | nil =>
    refine iff_of_false nofun ?_
    rintro ⟨front, name, back, h, _⟩
    simp at h
  | cons name names ih =>
    have hbehind : ∀ front : List String,
        ((name :: front).map Text.lower).reverse ++ before =
          (front.map Text.lower).reverse ++ Text.lower name :: before := by simp
    rw [firstFlaw?, Option.or_eq_some_iff, ih]
    constructor
    · rintro (h | ⟨h, front, other, back, rfl, hfine, hoffends⟩)
      · exact ⟨[], name, names, rfl, fine_nil, flaw?_eq_some_iff.mp h⟩
      · refine ⟨name :: front, other, back, rfl, fine_cons_iff.mpr ⟨h, hfine⟩, ?_⟩
        rwa [hbehind]
    · rintro ⟨front, other, back, h, hfine, hoffends⟩
      cases front with
      | nil =>
        cases h
        exact .inl (flaw?_eq_some_iff.mpr hoffends)
      | cons first front =>
        cases h
        obtain ⟨hfirst, hfine⟩ := fine_cons_iff.mp hfine
        rw [hbehind] at hoffends
        exact .inr ⟨hfirst, front, other, back, rfl, hfine, hoffends⟩

/-- Names that can stand in one workbook. -/
structure Usable (names : List String) : Prop where
  short : ∀ name ∈ names, name.length ≤ maxLength
  plain : ∀ name ∈ names, ∀ c ∈ name.toList, c ∉ reserved
  differ : names.Pairwise fun a b => Text.lower a ≠ Text.lower b

theorem usable_iff_fine : Usable names ↔ Fine [] names := by
  constructor
  · rintro ⟨short, plain, differ⟩
    exact ⟨short, plain, nofun, List.pairwise_map.mpr differ⟩
  · rintro ⟨short, plain, _, differ⟩
    exact ⟨short, plain, List.pairwise_map.mp differ⟩

/-- What is wrong with names: there are none, or the first one that is refused comes behind names
that can stand in one workbook. -/
inductive Refused (names : List String) : Flaw → Prop where
  | noName : names = [] → Refused names .noName
  | first {front back : List String} {name : String} {flaw : Flaw} :
      names = front ++ name :: back → Usable front → Offends (front.map Text.lower) name flaw →
      Refused names flaw

/-- What a request is told of its names: that there is none, or which name is refused, in quotes,
and what is wrong with it. -/
inductive Flaw.Told : Flaw → String → Prop where
  | noName : Told .noName "At least one worksheet name is required."
  | tooLong {name : String} :
    Told (.tooLong name) ("Worksheet name '" ++ name ++ "' is longer than 31 characters.")
  | reservedCharacter {name : String} : Told (.reservedCharacter name)
    ("Worksheet name '" ++ name ++ "' contains an invalid character.")
  | repeated {name : String} :
    Told (.repeated name) ("Worksheet name '" ++ name ++ "' is given more than once.")

theorem Flaw.told_iff {message : String} : flaw.Told message ↔ message = flaw.message := by
  have hlong : ∀ name, (Flaw.tooLong name).message =
      "Worksheet name '" ++ name ++ "' is longer than 31 characters." := by
    intro name
    show "Worksheet name '" ++ name ++ "' is longer than " ++ toString maxLength ++ " characters." =
      _
    rw [String.append_assoc, String.append_assoc]
    rfl
  constructor
  · rintro ⟨⟩
    case tooLong => exact (hlong _).symm
    all_goals rfl
  · rintro rfl
    cases flaw with
    | noName => exact .noName
    | tooLong name => exact hlong name ▸ .tooLong
    | reservedCharacter => exact .reservedCharacter
    | repeated => exact .repeated

theorem check_eq_ok_iff {given : List String} :
    check names = .ok given ↔ given = names ∧ names ≠ [] ∧ Usable names := by
  rw [usable_iff_fine, check, ← firstFlaw?_eq_none_iff]
  cases names with
  | nil => simp
  | cons name names =>
    simp only [List.isEmpty_cons, Bool.false_eq_true, if_false]
    cases firstFlaw? [] (name :: names) with
    | none => simp [eq_comm]
    | some flaw => simp

theorem check_eq_error_iff : check names = .error flaw ↔ Refused names flaw := by
  have hcheck : check names = .error flaw ↔
      names = [] ∧ flaw = .noName ∨ names ≠ [] ∧ firstFlaw? [] names = some flaw := by
    rw [check]
    cases names with
    | nil => simp [eq_comm]
    | cons name names =>
      simp only [List.isEmpty_cons, Bool.false_eq_true, if_false]
      cases firstFlaw? [] (name :: names) with
      | none => simp
      | some other => simp
  rw [hcheck, firstFlaw?_eq_some_iff]
  constructor
  · rintro (⟨hnil, rfl⟩ | ⟨_, front, name, back, h, hfine, hoffends⟩)
    · exact .noName hnil
    · exact .first h (usable_iff_fine.mpr hfine) (hoffends.mono (by simp))
  · intro h
    cases h with
    | noName hnil => exact .inl ⟨hnil, rfl⟩
    | first h husable hoffends =>
      refine .inr ⟨by simp [h], _, _, _, h, usable_iff_fine.mp husable, hoffends.mono (by simp)⟩

/-! ### The names of a text -/

/-- The trimmed pieces that are not blank, in their order. -/
def ofPieces (pieces : List (List Char)) : List String :=
  (pieces.map fun piece => Text.trim (String.ofList piece)).filter fun name => !name.isEmpty

theorem split_eq {delimiter : String} (hne : delimiter.isEmpty = false) (text : String) :
    split delimiter text = .ok (ofPieces (Text.pieces delimiter.toList text.toList)) := by
  rw [split, Payload.split_eq hne]
  simp [Except.map, ofPieces, Function.comp_def]

section Parse
variable {delimiter : String} (hne : delimiter.isEmpty = false) {text : String}
include hne

theorem parse_eq : parse delimiter text =
    match check (ofPieces (Text.pieces delimiter.toList text.toList)) with
    | .ok names => .ok names
    | .error flaw => .error (.refusal (.input flaw.message "worksheet_names")) := by
  rw [parse, split_eq hne]
  rfl

theorem parse_eq_ok_iff : parse delimiter text = .ok names ↔
    check (ofPieces (Text.pieces delimiter.toList text.toList)) = .ok names := by
  rw [parse_eq hne]
  cases check (ofPieces (Text.pieces delimiter.toList text.toList)) <;> simp

theorem parse_eq_error_iff {f : Fault} : parse delimiter text = .error f ↔
    ∃ flaw, check (ofPieces (Text.pieces delimiter.toList text.toList)) = .error flaw ∧
      f = .refusal (.input flaw.message "worksheet_names") := by
  rw [parse_eq hne]
  cases check (ofPieces (Text.pieces delimiter.toList text.toList)) <;> simp [eq_comm]

end Parse

/-- Names that were read of a text. -/
theorem exists_pieces_of_parse {delimiter text : String} (h : parse delimiter text = .ok names) :
    ∃ pieces, names = ofPieces pieces ∧ names ≠ [] ∧ Usable names := by
  have hne : delimiter.isEmpty = false := by
    rw [Bool.eq_false_iff]
    intro hempty
    rw [parse, split, Payload.split_of_isEmpty hempty] at h
    cases h
  rw [parse_eq_ok_iff hne, check_eq_ok_iff] at h
  obtain ⟨rfl, hsome, husable⟩ := h
  exact ⟨_, rfl, hsome, husable⟩

/-- **Names.** At a delimiter that is not empty a text is cut in one way. What is read of it is the
names among its pieces if there are any and they can stand in one workbook, and else the request is
refused for the names of its worksheets: because there are none, or for the first name that is too
long, has a reserved character or repeats one before it, in this order. It is told which name that
is, and which of the three. -/
theorem parse_spec (delimiter text : String) (hne : delimiter ≠ "") :
    ∃ pieces, (∀ ps, Text.Cuts delimiter.toList text.toList ps ↔ ps = pieces) ∧
      (∀ names, parse delimiter text = .ok names ↔
        names = ofPieces pieces ∧ ofPieces pieces ≠ [] ∧ Usable (ofPieces pieces)) ∧
      ∀ f, parse delimiter text = .error f ↔
        ∃ flaw message, Refused (ofPieces pieces) flaw ∧ flaw.Told message ∧
          f = .refusal (.input message "worksheet_names") := by
  have hempty : delimiter.isEmpty = false := by simpa using hne
  have hlist : delimiter.toList ≠ [] := fun h => hne (String.toList_eq_nil_iff.mp h)
  refine ⟨_, fun ps => Text.cuts_iff hlist, fun names => ?_, fun f => ?_⟩
  · rw [parse_eq_ok_iff hempty, check_eq_ok_iff]
  · rw [parse_eq_error_iff hempty]
    simp only [check_eq_error_iff, Flaw.told_iff, exists_and_left, exists_eq_left]

/-- Of three names the last one repeats the first, and a blank piece is no name. -/
theorem parse_spec_repeated :
    ";;" ≠ "" ∧ Usable ["Data", "b"] ∧ Text.lower "DATA" = Text.lower "Data" ∧
      parse ";;" " Data;; ;;b;;DATA" = .error
        (.refusal (.input "Worksheet name 'DATA' is given more than once." "worksheet_names")) := by
  have hpieces : Text.Cuts ";;".toList " Data;; ;;b;;DATA".toList
      [" Data".toList, " ".toList, "b".toList, "DATA".toList] :=
    (Text.cuts_iff (by decide)).mpr (by decide +kernel)
  obtain ⟨pieces, hcuts, _, hrefused⟩ := parse_spec ";;" " Data;; ;;b;;DATA" (by decide)
  obtain rfl := (hcuts _).mp hpieces
  have hnames : ofPieces [" Data".toList, " ".toList, "b".toList, "DATA".toList] =
      ["Data", "b"] ++ "DATA" :: [] := by
    decide +kernel
  have husable : Usable ["Data", "b"] := (check_eq_ok_iff.mp (by rfl)).2.2
  have hlower : Text.lower "DATA" = Text.lower "Data" := by decide +kernel
  refine ⟨by decide, husable, hlower,
    (hrefused _).mpr ⟨.repeated "DATA", _, .first hnames husable ?_, .repeated, by rfl⟩⟩
  exact flaw?_eq_some_iff.mp (by decide +kernel)

end SheetNames

end SheetActions
