import SheetActions.Proofs.Spelled
import SheetActions.Proofs.Stages
import SheetActions.Proofs.Tokens

/-! Appending.

A request that names no rows appends: its data goes behind the used rows. There is nothing
there to be moved or to be written over, so it makes no difference whether the request
overwrites (`run_of_blank_rows`). The same rows can be named: `append_any_way` says that
spelling them out changes neither the outcome nor anything in the directory. -/
namespace SheetActions

/-! ### Rows behind the used rows -/

namespace Placement
variable {spec : String} {used count : Nat} {hasHeader reserve : Bool} {rows : IndexSet}

/-- Where the rows of a blank specification start. -/
def appendStart (used : Nat) (hasHeader : Bool) : Nat :=
  if hasHeader then max used (headerRow + 1) else used

/-- Without a specification the rows follow each other, if the grid has that many. -/
theorem resolveRows_of_blank (h : Text.isBlankText spec = true) :
    resolveRows spec used count hasHeader reserve =
      if count > 0 ∧ appendStart used hasHeader + count > maxRowIndex + 1 then
        .error (.refusal (.invalidIndex spec
          (IndexSpec.Flaw.rowPastSheet (appendStart used hasHeader + count - 1)).reason none))
      else .ok (.interval (appendStart used hasHeader) count) := by
  have hparse : IndexSpec.parse spec maxRowIndex = .ok ∅ := IndexSpec.parse_of_blank h
  by_cases hcount : count > 0
  · by_cases hstop : appendStart used hasHeader + count > maxRowIndex + 1
    · rw [if_pos ⟨hcount, hstop⟩]
      simp only [resolveRows, IndexSpec.parseOptional_some, hparse, checkStop]
      show (if count > 0 then _ else _) = _
      rw [if_pos hcount]
      show (if appendStart used hasHeader + count > maxRowIndex + 1 then _ else _) >>= _ = _
      rw [if_pos hstop]
      rfl
    · rw [if_neg fun hboth => hstop hboth.2]
      simp only [resolveRows, IndexSpec.parseOptional_some, hparse, checkStop]
      show (if count > 0 then _ else _) = _
      rw [if_pos hcount]
      show (if appendStart used hasHeader + count > maxRowIndex + 1 then _ else _) >>= _ = _
      rw [if_neg hstop]
      rfl
  · rw [if_neg fun hboth => hcount hboth.1]
    simp only [resolveRows, IndexSpec.parseOptional_some, hparse]
    show (if count > 0 then _ else _) = _
    rw [if_neg hcount]
    rfl

theorem le_of_resolveRows_of_blank (h : Text.isBlankText spec = true)
    (hrows : resolveRows spec used count hasHeader reserve = .ok rows) :
    ∀ i ∈ rows, used ≤ i := by
  rw [resolveRows_of_blank h] at hrows
  split at hrows
  · cases hrows
  · cases hrows
    intro i hi
    have hstart := (IndexSet.mem_interval.mp hi).1
    have hused : used ≤ appendStart used hasHeader := by
      simp only [appendStart]
      split <;> omega
    omega

/-- Without a header a span of rows of the grid is resolved to these rows. -/
theorem resolveRows_span {first last : Nat} (hle : first ≤ last) (hlast : last ≤ maxRowIndex) :
    resolveRows (IndexSpec.span first last) used count false reserve =
      .ok (.interval first (last + 1 - first)) := by
  have hmax : (IndexSet.interval first (last + 1 - first)).max? = some last := by
    have hsucc : last + 1 - first = (last - first) + 1 := by omega
    show (List.range' first (last + 1 - first)).getLast? = some last
    rw [hsucc, List.range'_concat, List.getLast?_concat]
    congr 1
    omega
  simp only [resolveRows, IndexSpec.parseOptional_some,
    IndexSpec.parse_span hle hlast (Nat.le_refl _), bind, Except.bind, hmax]
  rfl

end Placement

namespace AddRequest
variable {r r' : AddRequest} {d : Directory} {p : Plan} {s : Sheet}

/-! ### With and without overwriting -/

/-- Nothing but overwriting and what it says on a header tells the plans of two requests apart. -/
theorem plan_of_blank_rows (h : Text.isBlankText r.rows = true) (overwrite : Bool) :
    { r with overwrite }.plan s = r.plan s := by
  simp only [plan, Placement.resolveRows_of_blank h]
  rfl

/-- Data for blank cells behind the used rows is written alike with and without overwriting. -/
theorem edit_of_usedRows_le (h : ∀ i ∈ p.rows, s.usedRows ≤ i) (overwrite : Bool) :
    { r with overwrite }.edit p s = { r with overwrite := true }.edit p s := by
  have hopen : ∀ overwrite, { r with overwrite }.openTargets p s = .done s := by
    intro overwrite
    cases overwrite
    · exact Sheet.openRows_of_usedRows_le h
    · rfl
  have hrows : s.writeRows p.data p.rows p.columns overwrite =
      s.writeRows p.data p.rows p.columns true := by
    unfold Sheet.writeRows
    split
    · rfl
    · refine Sheet.run_writeToken_of_blank overwrite (Sheet.nodup_targets ..) ?_
      intro a ha
      obtain ⟨i, j, row, _, _, hrow, _⟩ := Sheet.mem_targets.mp ha
      exact Sheet.cell_of_usedRows_le (h a.row (List.mem_of_getElem? hrow)) a.column
  have hwrite : { r with overwrite }.write p s = { r with overwrite := true }.write p s := by
    show ((s.writeRows p.data p.rows p.columns overwrite).toExcept >>= _) =
      (s.writeRows p.data p.rows p.columns true).toExcept >>= _
    rw [hrows]
    rfl
  simp only [edit, hopen]
  show ({ r with overwrite }.write p s).mapError _ =
    ({ r with overwrite := true }.write p s).mapError _
  rw [hwrite]

/-! ### Requests that agree -/

/-- Requests with the same plan, by which they change the sheet alike, make the same change. -/
theorem change_congr (hplan : r.plan s = r'.plan s)
    (hedit : ∀ p, r.plan s = .ok p → r.edit p s = r'.edit p s) : r.change s = r'.change s := by
  simp only [change, ← hplan]
  cases hp : r.plan s with
  | error f => rfl
  | ok p =>
    show (r.edit p s >>= _) = r'.edit p s >>= _
    rw [hedit p hp]

/-- Requests that find the same worksheet and make the same change of it come to the same. -/
theorem draft_congr (hsubject : r.subject d = r'.subject d)
    (hchange : ∀ u, r.subject d = .ok u → r.change u.sheet = r'.change u.sheet) :
    r.draft d = r'.draft d := by
  simp only [draft, ← hsubject]
  cases hu : r.subject d with
  | error f => rfl
  | ok u =>
    show (r.change u.sheet >>= _) = r'.change u.sheet >>= _
    rw [hchange u hu]

theorem run_congr (h : r.draft d = r'.draft d) : r.run d = r'.run d := by
  simp only [run, h]

theorem draft_of_blank_rows (h : Text.isBlankText r.rows = true) (overwrite : Bool) :
    { r with overwrite }.draft d = r.draft d := by
  refine draft_congr rfl fun u _ => change_congr (plan_of_blank_rows h overwrite) ?_
  intro p hp
  rw [plan_of_blank_rows h] at hp
  have hbehind := Placement.le_of_resolveRows_of_blank h (placed_of_plan hp).rows
  rw [edit_of_usedRows_le hbehind, ← edit_of_usedRows_le hbehind r.overwrite]

/-- A request that appends runs alike with and without overwriting. -/
theorem run_of_blank_rows (h : Text.isBlankText r.rows = true) (overwrite : Bool) :
    { r with overwrite }.run d = r.run d :=
  run_congr (draft_of_blank_rows h overwrite)

/-! ### Naming the rows -/

/-- The rows that follow the used rows may as well be named. -/
theorem plan_span {data : Payload} (h : Text.isBlankText r.rows = true)
    (noHeader : r.hasHeader = false)
    (hdata : Payload.parse r.rowDelimiter r.columnDelimiter r.data = .ok data)
    (grid : s.lastRow + data.rowCount ≤ maxRowIndex) (overwrite : Bool) :
    { r with
      rows := IndexSpec.span (s.lastRow + 1).toNat (s.lastRow + data.rowCount).toNat
      overwrite }.plan s = r.plan s := by
  have hsome := Payload.rowCount_pos hdata
  have hlast : s.lastRow = (s.usedRows : Int) - 1 := rfl
  have hfirst : (s.lastRow + 1).toNat = s.usedRows := by omega
  have hstop : (s.lastRow + data.rowCount).toNat = s.usedRows + data.rowCount - 1 := by omega
  have hnamed : ∀ reserve, Placement.resolveRows
      (IndexSpec.span (s.lastRow + 1).toNat (s.lastRow + data.rowCount).toNat) s.usedRows
        data.rowCount false reserve = .ok (.interval s.usedRows data.rowCount) := by
    intro reserve
    rw [Placement.resolveRows_span (by omega) (by omega), hfirst, hstop]
    congr 2
    omega
  have hblank : ∀ reserve, Placement.resolveRows r.rows s.usedRows data.rowCount false reserve =
      .ok (.interval s.usedRows data.rowCount) := by
    intro reserve
    rw [Placement.resolveRows_of_blank h, if_neg]
    · rfl
    · simp only [Placement.appendStart, Bool.false_eq_true, if_false]
      omega
  have hheader : ∀ rows overwrite, { r with rows, overwrite }.hasHeader = false :=
    fun _ _ => noHeader
  simp only [plan, hdata, noHeader, hheader]
  show (Placement.resolveRows _ _ _ _ _ >>= _) = Placement.resolveRows _ _ _ _ _ >>= _
  rw [hnamed, hblank]

/-- **Appending.** A request that names no rows runs alike with and without overwriting. If it
has no header, and its `n` rows fit into the grid behind the last used row `L`, then naming the
rows from `L + 1` to `L + n` makes no difference either. -/
theorem append_any_way (r : AddRequest) (d : Directory) (overwrite : Bool)
    (appending : Text.isBlankText r.rows = true) :
    { r with overwrite }.run d = r.run d ∧
      ∀ u data, Text.isBlankText r.header = true → r.subject d = .ok u →
        Payload.parse r.rowDelimiter r.columnDelimiter r.data = .ok data →
        u.sheet.lastRow + data.rowCount ≤ maxRowIndex →
        { r with
          rows := IndexSpec.span (u.sheet.lastRow + 1).toNat (u.sheet.lastRow + data.rowCount).toNat
          overwrite }.run d = r.run d := by
  refine ⟨run_of_blank_rows appending overwrite, fun u data noHeader hu hdata grid => ?_⟩
  have hheader : r.hasHeader = false := by rw [hasHeader, noHeader]; rfl
  refine run_congr (draft_congr rfl fun u' hu' => ?_)
  have hsame : u' = u := Except.ok.inj (hu'.symm.trans hu)
  subst hsame
  have hplan := plan_span (s := u'.sheet) appending hheader hdata grid overwrite
  refine change_congr hplan fun p hp => ?_
  rw [hplan] at hp
  have hbehind := Placement.le_of_resolveRows_of_blank appending (placed_of_plan hp).rows
  exact (edit_of_usedRows_le hbehind overwrite).trans
    (edit_of_usedRows_le hbehind r.overwrite).symm

/-- One file, with a worksheet of two rows. -/
def twoRows : Directory :=
  let sheet := ((∅ : Sheet).put 0 0 (some (.text "a"))).put 1 0 (some (.text "b"))
  .ofFile "a.xlsx" ⟨[("S", sheet)]⟩

/-- Two rows behind the two that are there, with no word on where they go. -/
def twoMore : AddRequest :=
  ⟨"a.xlsx", "S", "", "x,1|y", "", "", "|", ",", false⟩

/-- They are added as rows 2 and 3, which may be named, and overwriting changes nothing. -/
theorem append_any_way_twoMore :
    Text.isBlankText twoMore.rows = true ∧ (twoMore.run twoRows).1.isSuccess = true ∧
      { twoMore with overwrite := true }.run twoRows = twoMore.run twoRows ∧
      { twoMore with rows := IndexSpec.span 2 3, overwrite := true }.run twoRows =
        twoMore.run twoRows := by
  have hblank : Text.isBlankText twoMore.rows = true := by decide
  obtain ⟨u, hu, hlast⟩ : ∃ u, twoMore.subject twoRows = .ok u ∧ u.sheet.lastRow = 1 :=
    ⟨_, rfl, by decide⟩
  have hdata : Payload.parse "|" "," "x,1|y" = .ok ⟨[["x", "1"], ["y"]]⟩ := by rfl
  have hsame := append_any_way twoMore twoRows true hblank
  have hnamed := hsame.2 u _ (by decide) hu hdata (by rw [hlast]; decide)
  rw [hlast] at hnamed
  exact ⟨hblank, by decide +kernel, hsame.1, hnamed⟩

end AddRequest

end SheetActions
