import SheetActions.Proofs.Chunks

/-! Inserting rows one by one.

Scattered rows can be inserted with one request that spells them all out, or with a request
for each of them in ascending order. Each of these finds a sheet that has changed, with other
rows used than before, and still they come to the same (`insert_one_by_one`): the first row can
be split off from the others (`splits_rows`), and the rest is by induction on the rows. -/
namespace SheetActions

namespace Placement
variable {l : List Nat} {used count : Nat} {reserve : Bool} {rows : IndexSet}

/-- Without a header rows that are spelled out are resolved as they are. -/
theorem resolveRows_spelled_iff (hne : l ≠ []) (ascending : l.Pairwise (· < ·)) :
    resolveRows (IndexSpec.spelled l) used count false reserve = .ok rows ↔
      (∀ n ∈ l, n ≤ maxRowIndex) ∧ rows.toList = l := by
  rw [← IndexSpec.parse_spelled_iff hne ascending]
  simp only [resolveRows, IndexSpec.parseOptional_some, bind_eq_ok]
  have hmax : ∀ explicit, IndexSpec.parse (IndexSpec.spelled l) maxRowIndex = .ok explicit →
      ∃ greatest, explicit.max? = some greatest := by
    intro explicit hexplicit
    obtain ⟨_, hl⟩ := (IndexSpec.parse_spelled_iff hne ascending).mp hexplicit
    rw [IndexSet.max?, hl]
    exact ⟨_, List.getLast?_eq_some_getLast hne⟩
  constructor
  · rintro ⟨explicit, hexplicit, h⟩
    obtain ⟨greatest, hgreatest⟩ := hmax explicit hexplicit
    rw [hgreatest] at h
    cases h
    exact hexplicit
  · intro hexplicit
    obtain ⟨greatest, hgreatest⟩ := hmax rows hexplicit
    refine ⟨rows, hexplicit, ?_⟩
    rw [hgreatest]
    rfl

theorem places_spelled_iff (hne : l ≠ []) (ascending : l.Pairwise (· < ·)) :
    Places (IndexSpec.spelled l) used count rows ↔
      (∀ n ∈ l, n ≤ maxRowIndex) ∧ rows.toList = l ∧ count ≤ l.length := by
  constructor
  · rintro ⟨hrows, hcount⟩
    obtain ⟨hgrid, hl⟩ := (resolveRows_spelled_iff hne ascending).mp hrows
    rw [IndexSet.size, hl] at hcount
    exact ⟨hgrid, hl, hcount⟩
  · rintro ⟨hgrid, hl, hcount⟩
    refine ⟨(resolveRows_spelled_iff hne ascending).mpr ⟨hgrid, hl⟩, ?_⟩
    rw [IndexSet.size, hl]
    exact hcount

end Placement

namespace AddRequest
variable {r : AddRequest} {d : Directory} {s e : Sheet} {p : Plan}

/-- The request with the given row and its text. -/
def forRow (r : AddRequest) (x : Nat × String) : AddRequest :=
  { r with rows := toString x.1, data := x.2 }

/-- The request with all the given rows and their texts. -/
def forRows (r : AddRequest) (l : List (Nat × String)) : AddRequest :=
  { r with
    rows := IndexSpec.spelled (l.map Prod.fst)
    data := r.rowDelimiter.intercalate (l.map Prod.snd) }

theorem forRows_singleton (r : AddRequest) (x : Nat × String) : r.forRows [x] = r.forRow x := by
  simp only [forRows, forRow, IndexSpec.spelled, List.map_cons, List.map_nil,
    String.intercalate_singleton]

theorem data_forRows_cons {l : List (Nat × String)} (x : Nat × String) (hne : l ≠ []) :
    (r.forRows (x :: l)).data = x.2 ++ r.rowDelimiter ++ (r.forRows l).data := by
  cases l with
  | nil => contradiction
  | cons y l => exact String.intercalate_cons_cons

theorem isBlankText_forRows {l : List (Nat × String)} (hne : l ≠ [])
    (filled : ∀ y ∈ l, Text.isBlankText y.2 = false) :
    Text.isBlankText (r.forRows l).data = false := by
  cases l with
  | nil => contradiction
  | cons y l =>
    have hy := filled y (List.mem_cons_self ..)
    cases l with
    | nil =>
      rw [forRows_singleton]
      exact hy
    | cons z l =>
      rw [data_forRows_cons y (List.cons_ne_nil z l)]
      exact isBlankText_append hy

theorem places_forRows_iff {l : List (Nat × String)} (hne : l ≠ [])
    (ascending : (l.map Prod.fst).Pairwise (· < ·)) {used count : Nat} {rows : IndexSet} :
    Placement.Places (r.forRows l).rows used count rows ↔
      (∀ y ∈ l, y.1 ≤ maxRowIndex) ∧ rows.toList = l.map Prod.fst ∧ count ≤ l.length := by
  refine (Placement.places_spelled_iff (by simpa using hne) ascending).trans ?_
  rw [List.forall_mem_map, List.length_map]

/-! ### Splitting off the first row -/

section Split
variable {delimiter : Char} {x : Nat × String} {l : List (Nat × String)} (plain : r.Plain)
  (delimited : r.rowDelimiter = String.singleton delimiter) (hne : l ≠ [])
  (ascending : ((x :: l).map Prod.fst).Pairwise (· < ·)) (undivided : delimiter ∉ x.2.toList)

include plain delimited hne

theorem parts_rows : Parts (r.forRows (x :: l)) (r.forRows [x]) (r.forRows l) where
  plain := ⟨plain.inserting, plain.noHeader⟩
  plainFront := ⟨plain.inserting, plain.noHeader⟩
  plainBack := ⟨plain.inserting, plain.noHeader⟩
  data := by
    intro data
    rw [data_forRows_cons x hne, forRows_singleton]
    simp only [forRow, forRows, delimited]
    exact Payload.parse_append_iff
  columnsFront := rfl
  columnsBack := rfl

include ascending undivided

/-- A sheet gets the first row and then the others, or all of them at once. -/
theorem agree_changed_rows (s : Sheet) :
    Sheet.Agree ((r.forRows (x :: l)).changed s)
      (((r.forRow x).changed s).bind (r.forRows l).changed) := by
  have hrest : (l.map Prod.fst).Pairwise (· < ·) := (List.pairwise_cons.mp ascending).2
  have hone : ∀ {a}, Payload.parse r.rowDelimiter r.columnDelimiter x.2 = .ok a →
      a.rowCount = 1 := by
    intro a ha
    rw [delimited] at ha
    obtain ⟨row, _, hrows⟩ := (Payload.parse_row_iff undivided).mp ha
    rw [Payload.rowCount, hrows]
    rfl
  have hfirst : ([x].map Prod.fst).Pairwise (· < ·) := List.pairwise_singleton ..
  rw [← forRows_singleton]
  refine (parts_rows plain delimited hne).agree_changed ?_ ?_
  · intro a b rows ha _ places
    obtain ⟨hgrid, hrows, hcount⟩ :=
      (places_forRows_iff (List.cons_ne_nil x l) ascending).mp places
    obtain ⟨hx, hl⟩ := List.forall_mem_cons.mp hgrid
    have hsize := hone ha
    refine ⟨⟨[x.1], hfirst⟩, ⟨_, hrest⟩, hrows, hsize, ?_, fun e _ => ?_⟩
    · exact (places_forRows_iff (List.cons_ne_nil x []) hfirst).mpr
        ⟨by simpa using hx, rfl, Nat.le_of_eq hsize⟩
    · rw [List.length_cons] at hcount
      exact (places_forRows_iff hne hrest).mpr ⟨hl, rfl, by omega⟩
  · intro a b rows₁ rows₂ e ha _ hplaces₁ _ hplaces₂
    obtain ⟨hx, _⟩ := (places_forRows_iff (List.cons_ne_nil x []) hfirst).mp hplaces₁
    obtain ⟨hl, _, hcount⟩ := (places_forRows_iff hne hrest).mp hplaces₂
    have hsize := hone ha
    refine ⟨⟨_, ascending⟩, (places_forRows_iff (List.cons_ne_nil x l) ascending).mpr
      ⟨List.forall_mem_cons.mpr ⟨by simpa using hx, hl⟩, rfl, ?_⟩⟩
    rw [List.length_cons]
    omega

/-- The first row can be split off. -/
theorem splits_rows (filled : ∀ y ∈ x :: l, Text.isBlankText y.2 = false) :
    Splits (r.forRows (x :: l)) (r.forRow x) (r.forRows l) where
  subjectFront := subject_congr rfl rfl (filled x (List.mem_cons_self ..))
    (isBlankText_forRows (List.cons_ne_nil x l) filled)
  subjectBack := subject_congr rfl rfl
    (isBlankText_forRows hne fun y hy => filled y (List.mem_cons_of_mem x hy))
    (isBlankText_forRows (List.cons_ne_nil x l) filled)
  plainBack := ⟨plain.inserting, plain.noHeader⟩
  changed := agree_changed_rows plain delimited hne ascending undivided

end Split

/-! ### One row after the other -/

/-- Runs requests one after the other, as long as they succeed. -/
def runAll (d : Directory) : List AddRequest → Option Directory
  | [] => some d
  | r :: rs => if (r.run d).1.isSuccess then runAll (r.run d).2 rs else none

/-- Whatever the requests save one after the other lasts. -/
def LastingAll (d : Directory) : List AddRequest → Prop
  | [] => True
  | r :: rs => r.Lasting d ∧ LastingAll (r.run d).2 rs

theorem runAll_cons_eq_some {rs : List AddRequest} {d' : Directory} :
    runAll d (r :: rs) = some d' ↔
      (r.run d).1.isSuccess = true ∧ runAll (r.run d).2 rs = some d' := by
  simp [runAll]

theorem sameSheet_of_isSuccess (h : (r.run d).1.isSuccess = true) :
    Directory.SameSheet (Text.trim r.file) (Text.trim r.sheet) (r.run d).2 (r.run d).2 := by
  obtain ⟨u, e, hsaves⟩ := isSuccess_iff_saves.mp h
  have found := found_of_subject hsaves.subject
  rw [← found.file, ← found.sheetName]
  exact ⟨_, _, hsaves.sheet?, hsaves.sheet?, fun _ _ => rfl, fun _ => rfl⟩

/-- **Inserting one by one.** Without a header, rows whose texts do not hold the row delimiter
are all inserted by one request just when each of them is by a request of its own, in ascending
order, and the file then holds the same cells and heights. What is saved on the way must be
there when it is loaded again (`LastingAll`); the file is `Covered` as all files are. -/
theorem insert_one_by_one (r : AddRequest) (d : Directory) (delimiter : Char)
    (l : List (Nat × String)) (inserting : r.overwrite = false)
    (noHeader : Text.isBlankText r.header = true)
    (delimited : r.rowDelimiter = String.singleton delimiter) (hne : l ≠ [])
    (ascending : (l.map Prod.fst).Pairwise (· < ·))
    (filled : ∀ x ∈ l, Text.isBlankText x.2 = false)
    (undivided : ∀ x ∈ l, delimiter ∉ x.2.toList)
    (covered : d.Covered) (lasting : LastingAll d (l.map r.forRow)) :
    (((r.forRows l).run d).1.isSuccess = true ↔ (runAll d (l.map r.forRow)).isSome = true) ∧
      ∀ d', runAll d (l.map r.forRow) = some d' →
        Directory.SameSheet (Text.trim r.file) (Text.trim r.sheet) ((r.forRows l).run d).2 d' := by
  induction l generalizing d with
  | nil => contradiction
  | cons x l ih =>
    cases l with
    | nil =>
      rw [forRows_singleton]
      refine ⟨by simp [runAll], fun d' hd' => ?_⟩
      obtain ⟨hsuccess, hd⟩ := runAll_cons_eq_some.mp hd'
      obtain rfl : ((r.forRow x).run d).2 = d' := Option.some.inj hd
      exact sameSheet_of_isSuccess (r := r.forRow x) hsuccess
    | cons y l =>
      have hsplit := (splits_rows ⟨inserting, noHeader⟩ delimited (List.cons_ne_nil y l) ascending
        (undivided x (List.mem_cons_self ..)) filled).run covered lasting.1
      have hrest := ih ((r.forRow x).run d).2 (List.cons_ne_nil y l)
        (List.pairwise_cons.mp ascending).2 (fun z hz => filled z (List.mem_cons_of_mem x hz))
        (fun z hz => undivided z (List.mem_cons_of_mem x hz)) (covered_run covered) lasting.2
      have hsuccess : ((r.forRows (x :: y :: l)).run d).1.isSuccess = true ↔
          (runAll d ((x :: y :: l).map r.forRow)).isSome = true := by
        rw [hsplit.1, hrest.1, Option.isSome_iff_exists, Option.isSome_iff_exists]
        simp only [List.map_cons (l := y :: l), runAll_cons_eq_some, exists_and_left]
      refine ⟨hsuccess, fun d' hd' => ?_⟩
      have hwhole := hsuccess.mpr (Option.isSome_of_eq_some hd')
      exact (hsplit.2 hwhole).trans (hrest.2 d' (runAll_cons_eq_some.mp hd').2)

/-- A row between the two that are there, and one after both. -/
def apart : List (Nat × String) := [(1, "x,1"), (3, "y")]

/-- The second row goes behind the first one and the row that this has moved down. -/
theorem insert_one_by_one_apart :
    twoRows.Covered ∧ LastingAll twoRows (apart.map twoMore.forRow) ∧
      ((twoMore.forRows apart).run twoRows).1.isSuccess = true ∧
      ∃ d', runAll twoRows (apart.map twoMore.forRow) = some d' ∧
        Directory.SameSheet (Text.trim twoMore.file) (Text.trim twoMore.sheet)
          ((twoMore.forRows apart).run twoRows).2 d' := by
  have hlasting : LastingAll twoRows (apart.map twoMore.forRow) :=
    ⟨lasting_of_draft (by decide +kernel), lasting_of_draft (by decide +kernel), trivial⟩
  have hsuccess : ((twoMore.forRows apart).run twoRows).1.isSuccess = true := by decide +kernel
  have hrows := insert_one_by_one twoMore twoRows '|' apart rfl (by decide) rfl (by decide)
    (by decide) (by decide) (by decide) covered_twoRows hlasting
  obtain ⟨d', hd'⟩ := Option.isSome_iff_exists.mp (hrows.1.mp hsuccess)
  exact ⟨covered_twoRows, hlasting, hsuccess, d', hd', hrows.2 d' hd'⟩

end AddRequest

end SheetActions
