import SheetActions.Proofs.Histories
import SheetActions.Proofs.Searching
import SheetActions.Proofs.Within

/-! The used area, written and read.

Whatever requests do, the files that they lead to hold numbers and texts that start with a
character that is not blank, and no styles (`Sheet.Plain`); for a token is trimmed before it is
written. Of such a sheet a reader sees all that the program which changes files does, but for
the texts that are formulas or error values: these are hidden from it (`Value.IsHidden`). So the
two see the same used area in a sheet unless it holds a hidden text (`sameArea_of_reached`). -/
namespace SheetActions

/-! ### Texts that start filled -/

namespace Text

/-- The first character is there and is not blank. -/
def StartsFilled (l : List Char) : Prop :=
  ∃ c r, l = c :: r ∧ isBlank c = false

/-- What is left of a trimmed text starts with a character that is not blank. -/
theorem startsFilled_trim {s : String} (h : trim s ≠ "") : StartsFilled (trim s).toList := by
  have hne : (trim s).toList ≠ [] := fun hnil => h (String.toList_inj.mp hnil)
  rw [trim, String.toList_ofList] at hne ⊢
  have hprefix := trimBy_prefix isBlank s.toList
  obtain ⟨c, r, hcons⟩ := List.exists_cons_of_ne_nil hne
  rw [hcons] at hprefix ⊢
  obtain ⟨rest, hrest⟩ := hprefix
  have hhead := List.head?_dropWhile_not isBlank s.toList
  rw [← hrest] at hhead
  exact ⟨c, r, rfl, hhead⟩

theorem StartsFilled.take {l : List Char} (h : StartsFilled l) {n : Nat} (hn : 0 < n) :
    StartsFilled (l.take n) := by
  obtain ⟨c, r, rfl, hc⟩ := h
  obtain ⟨m, rfl⟩ := Nat.exists_eq_add_of_lt hn
  exact ⟨c, _, by rw [Nat.zero_add, List.take_succ_cons], hc⟩

theorem StartsFilled.unifyLines {l : List Char} (h : StartsFilled l) :
    StartsFilled (unifyLines l) := by
  obtain ⟨c, r, rfl, hc⟩ := h
  have hne : c ≠ '\r' := by
    rintro rfl
    cases hc
  refine ⟨c, Text.unifyLines r, ?_, hc⟩
  rw [Text.unifyLines.eq_def]
  split
  · rename_i heq
    exact absurd (List.cons.inj heq).1 hne
  · rename_i heq
    exact absurd (List.cons.inj heq).1 hne
  · rename_i heq
    cases heq
    rfl
  · rename_i heq
    cases heq

theorem decodeCoded_ne_nil {l : List Char} (h : l ≠ []) : decodeCoded l ≠ [] := by
  unfold decodeCoded
  split
  · split
    · exact List.cons_ne_nil _ _
    · exact List.cons_ne_nil _ _
  · exact List.cons_ne_nil _ _
  · exact absurd rfl h

end Text

/-! ### Plain values -/

namespace Value
variable {v w : Value}

/-- A number, or a text that starts with a character that is not blank. -/
def IsPlain : Value → Prop
  | .integer _ | .float _ => True
  | .text s => Text.StartsFilled s.toList
  | _ => False

/-- A text that readers take for a formula or an error value. -/
def IsHidden : Value → Prop
  | .text s => isFormula s = true ∨ s ∈ errorTexts
  | _ => False

instance : (v : Value) → Decidable v.IsHidden
  | .text s => inferInstanceAs (Decidable (isFormula s = true ∨ s ∈ errorTexts))
  | .boolean _ | .integer _ | .float _ | .dateTime .. | .date _ | .clock _ | .span _ | .other _ =>
    inferInstanceAs (Decidable False)

theorem IsPlain.timeStyle?_eq_none (h : v.IsPlain) : v.timeStyle? = none := by
  cases v with
  | dateTime | date | clock | span => exact h.elim
  | _ => rfl

theorem isPlain_toValue (n : Number) : n.toValue.IsPlain := by
  cases n <;> trivial

/-- What a cell is given for a trimmed token is plain. -/
theorem isPlain_of_content {token : String} (htrim : ∃ s, token = Text.trim s)
    (hw : coerce token = .ok w) (hv : Sheet.content w = .ok (some v)) : v.IsPlain := by
  obtain ⟨s, rfl⟩ := htrim
  rcases coerce_cases hw with rfl | ⟨_, n, rfl⟩
  · have htaken := (Sheet.content_text_eq_ok_iff.mp hv).2
    split at htaken
    · cases htaken
    · rename_i hne
      cases htaken
      show Text.StartsFilled (String.ofList _).toList
      rw [String.toList_ofList]
      exact (Text.startsFilled_trim hne).take (by decide)
  · rw [Sheet.content_toValue] at hv
    cases hv
    exact isPlain_toValue n

theorem IsPlain.stored (h : v.IsPlain) (hw : v.stored = some w) : w.IsPlain := by
  have hnumber : ∀ {x}, storedNumber x = some w → w.IsPlain := by
    intro x hx
    obtain ⟨numeral, _, rfl⟩ := Option.map_eq_some_iff.mp hx
    exact isPlain_toValue numeral.value
  cases v with
  | integer | float => exact hnumber hw
  | text s =>
    obtain ⟨_, rfl⟩ := stored_text_eq_some_iff.mp hw
    show Text.StartsFilled (String.ofList _).toList
    rw [String.toList_ofList]
    exact Text.StartsFilled.unifyLines h
  | boolean | dateTime | date | clock | span | other => exact h.elim

/-- Nothing is wrong with what is seen of a plain value. -/
theorem IsPlain.seenFlaw? {u : Value} (h : v.IsPlain) (hu : v.seen none = some u) :
    u.seenFlaw? = none := by
  cases v with
  | integer n => exact seenFlaw?_normalized (v := .integer n) rfl hu
  | float x => exact seenFlaw?_normalized (v := .float x) rfl hu
  | text s =>
    rw [seen_text] at hu
    split at hu
    · cases hu
    · exact seenFlaw?_normalized (v := .text _) rfl hu
  | boolean | dateTime | date | clock | span | other => exact h.elim

/-- A plain value is seen unless it is hidden. -/
theorem IsPlain.seen_ne_none_iff (h : v.IsPlain) : v.seen none ≠ none ↔ ¬ v.IsHidden := by
  cases v with
  | integer | float => exact iff_of_true (Option.some_ne_none _) id
  | text s =>
    have hhidden : (text s).IsHidden ↔ (isFormula s || errorTexts.contains s) = true := by
      rw [Bool.or_eq_true, List.contains_iff_mem]
      rfl
    have hfilled : (seenText s).isEmpty = false := by
      obtain ⟨c, r, hs, hc⟩ := h
      have hblank : Text.isBlankText s = false :=
        Text.isBlankText_eq_false_iff.mpr ⟨c, by rw [hs]; exact List.mem_cons_self .., hc⟩
      rw [String.isEmpty_eq_false_iff, ← String.toList_inj.ne, seenText, hblank,
        String.toList_ofList]
      refine Text.decodeCoded_ne_nil ?_
      rw [if_neg Bool.false_ne_true, hs]
      exact List.cons_ne_nil c r
    rw [seen_text, hhidden, normalized, hfilled]
    split
    · exact iff_of_false (fun h => h rfl) (fun h => h ‹_›)
    · exact iff_of_true (Option.some_ne_none _) ‹_›
  | boolean | dateTime | date | clock | span | other => exact h.elim

end Value

/-! ### Plain sheets -/

namespace Sheet
variable {s o e : Sheet}

/-- A sheet without styles, of plain values. -/
structure Plain (s : Sheet) : Prop where
  style : ∀ r c, s.style r c = none
  value : ∀ r c v, s.cell r c = some v → v.IsPlain

namespace Plain

theorem empty : (∅ : Sheet).Plain :=
  ⟨fun _ _ => rfl, fun _ _ _ h => nomatch h⟩

theorem cell_loaded (h : s.Plain) (r c : Nat) : s.loaded.cell r c = s.cell r c := by
  rw [Sheet.cell_loaded, h.style]
  cases s.cell r c <;> rfl

theorem loaded (h : s.Plain) : s.loaded.Plain where
  style := h.style
  value := fun r c v hv => h.value r c v ((h.cell_loaded r c).symm.trans hv)

theorem stored (h : s.Plain) : s.stored.Plain where
  style := h.style
  value := fun r c w hw => by
    rw [cell_stored] at hw
    obtain ⟨v, hv, hw⟩ := Option.bind_eq_some_iff.mp hw
    exact (h.value r c v hv).stored hw

theorem openedAt (h : s.Plain) (r : Run) : (s.openedAt r).Plain where
  style := fun i c => by
    rw [Sheet.openedAt, style_moved s r.length_pos, h.style, h.style]
    simp
  value := fun i c v hv => by
    rw [Sheet.openedAt, cell_moved s r.length_pos] at hv
    split at hv
    · exact h.value _ c v hv
    · split at hv
      · cases hv
      · exact h.value i c v hv

theorem openRows {rows : IndexSet} (h : s.Plain) (ho : s.openRows rows = .done o) : o.Plain :=
  of_openRows (fun _ r ht => Plain.openedAt ht r) h ho

/-- Writing trimmed tokens keeps a sheet plain. -/
theorem run {overwrite : Bool} {l : List Target} (h : s.Plain)
    (trimmed : ∀ a ∈ l, ∃ t, a.token = Text.trim t) (distinct : (l.map Target.place).Nodup)
    (he : Progress.run (writeToken overwrite) s l = .done e) : e.Plain where
  style := fun r c => (style_of_run he r c).trans (h.style r c)
  value := fun r c v hv => by
    rcases source_of_run distinct he hv with hs | ⟨a, ha, _, _, w, hw, hkept⟩
    · exact h.value r c v hs
    · exact Value.isPlain_of_content (trimmed a ha) hw hkept

end Plain

end Sheet

/-! ### Requests -/

namespace AddRequest
variable {r : AddRequest} {d : Directory} {p : Plan} {s e : Sheet}

/-- A request leaves a plain sheet plain. -/
theorem plain_edit (placed : r.Placed s p) (h : s.Plain) (he : r.edit p s = .ok e) : e.Plain := by
  obtain ⟨o, m, header, hopen, hrows, hheader, hlast⟩ := edit_eq_ok he
  have ho : o.Plain := by
    rcases openTargets_eq_done hopen with rfl | hopened
    · exact h
    · exact h.openRows hopened
  have hm : m.Plain := by
    refine ho.run (fun a ha => ?_) (Sheet.nodup_targets ..) hrows
    obtain ⟨_, _, row, hrow, htoken, _⟩ := Sheet.mem_targets.mp ha
    exact Payload.exists_trim_of_parse placed.data (List.mem_of_getElem? hrow)
      (List.mem_of_getElem? htoken)
  refine hm.run (fun a ha => ?_) (Sheet.nodup_headerTargets header) hlast
  unfold headerTokens at hheader
  split at hheader
  · exact Payload.exists_trim_of_tokens hheader
      (List.mem_of_getElem? (Sheet.mem_headerTargets.mp ha).2)
  · cases hheader
    cases (Sheet.mem_headerTargets.mp ha).2

/-- So all sheets in the files stay plain. -/
theorem plain_run (r : AddRequest) (d : Directory) (all : d.All Sheet.Plain) :
    (r.run d).2.All Sheet.Plain := by
  have ended := ended_run r d
  generalize r.run d = result at ended ⊢
  cases ended with
  | stopped | refused => exact all
  | spoiled _ _ _ _ hrewritten => exact (Directory.All.rewritten_iff all hrewritten).mpr nofun
  | @saved t _ _ ht _ _ hrewritten =>
    refine (Directory.All.rewritten_iff all hrewritten).mpr fun w hw => ?_
    cases hw
    obtain ⟨found, placed, he⟩ := draft_eq_ok ht
    have hopened : t.subject.workbook.All Sheet.Plain :=
      Directory.All.openForChange all Sheet.Plain.empty (fun _ => Sheet.Plain.loaded) found.opened
    have hchanged := plain_edit placed (hopened.sheet? found.sheet) he
    have hall : t.workbook.All Sheet.Plain :=
      (Workbook.all_put_iff found.sheet).mpr ⟨hchanged, fun x hx _ => hopened x hx⟩
    exact Workbook.all_stored_iff.mpr fun x hx => (hall x hx).stored

end AddRequest

/-- All sheets that requests lead to are plain. -/
theorem Directory.Reached.plain {d : Directory} (reached : d.Reached) : d.All Sheet.Plain :=
  reached.all AddRequest.plain_run

/-! ### Touched cells -/

namespace Sheet
variable {s : Sheet}

/-- All values lie in the area of the touched cells. -/
def Touched (s : Sheet) : Prop :=
  ∀ r c v, s.cell r c = some v → r < s.extent.rows ∧ c < s.extent.columns

theorem touched_empty : (∅ : Sheet).Touched :=
  fun _ _ _ h => nomatch h

/-- The touched cells of a file are those up to the last values. -/
theorem touched_stored (s : Sheet) : s.stored.Touched := by
  intro r c v hv
  constructor
  · refine Nat.lt_of_lt_of_le ?_ (Nat.le_max_left ..)
    refine Nat.lt_of_not_le fun hle => ?_
    cases hv.symm.trans (cell_of_usedRows_le hle c)
  · refine Nat.lt_of_lt_of_le ?_ (Nat.le_max_left ..)
    refine Nat.lt_of_not_le fun hle => ?_
    cases hv.symm.trans (usedColumns_le_iff.mp hle r c (Nat.le_refl c))

theorem Touched.loaded (h : s.Touched) : s.loaded.Touched := by
  intro r c v hv
  rw [cell_loaded] at hv
  obtain ⟨w, hw, _⟩ := Option.map_eq_some_iff.mp hv
  exact h r c w hw

/-- Then coordinates beyond the touched cells make no difference. -/
theorem Touched.cellAt_eq (h : s.Touched) (r c : Nat) : s.cellAt r c = .ok (s.cell r c) := by
  unfold cellAt
  split
  · rename_i hbeyond
    cases hv : s.cell r c with
    | none => rfl
    | some v =>
      have := h r c v hv
      omega
  · rw [if_neg (by omega), Int.toNat_natCast, Int.toNat_natCast]

end Sheet

/-- In all files that requests lead to the values lie in the touched area. -/
theorem Directory.Reached.touched {d : Directory} (reached : d.Reached) : d.All Sheet.Touched :=
  reached.all fun _ _ all => AddRequest.all_run Sheet.touched_stored all

/-! ### The two views of a sheet -/

/-- What does not count for the width is not seen. -/
theorem Value.seen_of_counted {v : Value} {style : Option TimeStyle} (h : v.counted = none) :
    v.seen style = none := by
  cases v with
  | text s =>
    have hformula : isFormula s = true := by
      simp only [counted] at h
      split at h
      · assumption
      · cases h
    rw [seen_text, hformula]
    rfl
  | boolean | integer | float | dateTime | date | clock | span | other => cases h

namespace Reading

/-- The value at a row and a column of the rows that were read; there is none beyond them. -/
def at? (v : Reading) (r c : Nat) : Option Value :=
  (v.rows[r]?.bind (·[c]?)).join

theorem at?_eq_ite (v : Reading) (r c : Nat) :
    v.at? r c = if r < v.rowCount ∧ c < v.width then v.cell r c else none := by
  by_cases hr : r < v.rowCount
  · by_cases hc : c < v.width
    · simp [at?, rows, hr, hc]
    · simp [at?, rows, hr, hc]
  · simp [at?, rows, hr]

/-- The rows show all cells if these lie within the width. -/
theorem at?_eq {v : Reading} (h : ∀ r c, v.cell r c ≠ none → c < v.width) (r c : Nat) :
    v.at? r c = v.cell r c := by
  rw [at?_eq_ite]
  by_cases hcell : v.cell r c = none
  · rw [hcell, ite_self]
  · rw [if_pos ⟨lt_rowCount hcell, h r c hcell⟩]

end Reading

namespace Sheet
variable {s : Sheet}

/-- What is seen counts for the width. -/
theorem lt_width {r c : Nat} (h : s.reading.cell r c ≠ none) : c < s.reading.width := by
  have hrows : s.reading.values.usedRows ≠ 0 := fun hzero => by
    have hlt := Reading.lt_rowCount h
    rw [Reading.rowCount, hzero] at hlt
    exact Nat.not_lt_zero r hlt
  have hwidth : s.reading.width = (s.values.filterMapAt fun _ _ v => v.counted).usedColumns :=
    if_neg hrows
  rw [hwidth]
  refine Nat.lt_of_not_le fun hle => h ?_
  have hcounted := Grid.usedColumns_le_iff.mp hle r c (Nat.le_refl c)
  rw [Grid.get?_filterMapAt] at hcounted
  rw [cell_reading, cell]
  cases hv : s.values.get? r c with
  | none => rfl
  | some v =>
    rw [hv] at hcounted
    exact Value.seen_of_counted hcounted

/-- A sheet that was loaded to be changed has the used area that was read, and its cells are
blank where the others are. -/
structure SameArea (s : Sheet) (v : Reading) : Prop where
  rows : (v.rows.length : Int) = s.lastRow + 1
  cells : ∀ r c : Nat, v.at? r c ≠ none ↔ s.cellAt r c ≠ .ok none

theorem sameArea_of_cells {t : Sheet} (touched : t.Touched)
    (h : ∀ r c, s.reading.at? r c ≠ none ↔ t.cell r c ≠ none) : t.SameArea s.reading where
  rows := by
    have hcells : ∀ r c, s.reading.values.get? r c = none ↔ t.cell r c = none := by
      intro r c
      rw [← not_iff_not, ← Ne, ← Ne, ← h r c, Reading.at?_eq fun _ _ => lt_width]
      rfl
    have hused : s.reading.rowCount = t.usedRows :=
      eq_of_forall_ge_iff fun n => by
        simp only [Reading.rowCount, Grid.usedRows_le_iff, usedRows_le_iff, hcells]
    rw [Reading.rows, List.length_map, List.length_range, hused, lastRow]
    omega
  cells := fun r c => by
    rw [touched.cellAt_eq, h, Ne, Ne, Except.ok.injEq]

/-- No value is hidden from readers. -/
def Open (s : Sheet) : Prop :=
  ∀ r c v, s.cell r c = some v → ¬ v.IsHidden

/-- If all values but the hidden ones are seen, then the areas are the same if none is hidden. -/
theorem sameArea_iff_open {t : Sheet} (touched : t.Touched)
    (h : ∀ r c, s.reading.at? r c ≠ none ↔ ∃ v, t.cell r c = some v ∧ ¬ v.IsHidden) :
    t.SameArea s.reading ↔ t.Open := by
  constructor
  · intro same r c v hv hidden
    have hsome : t.cellAt r c ≠ .ok none := by
      rw [touched.cellAt_eq, hv]
      exact fun h => nomatch h
    obtain ⟨w, hw, hseen⟩ := (h r c).mp ((same.cells r c).mpr hsome)
    cases hv.symm.trans hw
    exact hseen hidden
  · intro hopen
    refine sameArea_of_cells touched fun r c => (h r c).trans ?_
    rw [Option.ne_none_iff_exists']
    exact exists_congr fun v => and_iff_left_of_imp (hopen r c v)

/-- How a sheet that was loaded to be changed and what is read of it go together: the readers
accept it and see all values but the hidden ones. So the areas are the same if none is hidden. -/
structure Corresponds (t s : Sheet) : Prop where
  readable : s.reading.flaw? = none
  cells : ∀ r c, s.reading.at? r c ≠ none ↔ ∃ v, t.cell r c = some v ∧ ¬ v.IsHidden
  area : t.SameArea s.reading ↔ t.Open

theorem corresponds_of_plain (h : s.Plain) (touched : s.Touched) : s.loaded.Corresponds s := by
  have hat : ∀ r c, s.reading.at? r c = (s.loaded.cell r c).bind (Value.seen none) := by
    intro r c
    rw [Reading.at?_eq fun _ _ => lt_width, cell_reading, h.cell_loaded, h.style]
  have hcells : ∀ r c, s.reading.at? r c ≠ none ↔
      ∃ v, s.loaded.cell r c = some v ∧ ¬ v.IsHidden := by
    intro r c
    rw [hat]
    cases hv : s.loaded.cell r c with
    | none => simp
    | some v =>
      rw [Option.bind_some, (h.loaded.value r c v hv).seen_ne_none_iff]
      simp
  refine ⟨Reading.flaw?_eq_none_iff.mpr fun r c u hu => ?_, hcells,
    sameArea_iff_open touched.loaded hcells⟩
  rw [cell_reading, h.style] at hu
  obtain ⟨v, hv, hseen⟩ := Option.bind_eq_some_iff.mp hu
  exact (h.value r c v hv).seenFlaw? hseen

end Sheet

/-! ### Files -/

theorem Fresh.length_loadedNames (names : List String) :
    (loadedNames names).length = names.length := by
  have hfold : ∀ (before l : List String),
      (l.foldl (fun before name => before ++ [differing before name]) before).length =
        before.length + l.length := by
    intro before l
    induction l generalizing before with
    | nil => rfl
    | cons name l ih =>
      rw [List.foldl_cons, ih, List.length_append, List.length_singleton, List.length_cons]
      omega
  rw [loadedNames, differingAll, hfold, List.length_map]
  exact Nat.zero_add _

namespace Directory
variable {d : Directory} {file : String} {w : Workbook}

theorem readable_fresh {p : Path} (h : changeFormats.contains p.suffixClass = true)
    (names : List String) : readable p (.file (.fresh names)) = .ok (.blank names) := by
  unfold readable
  split
  · rfl
  · rename_i hsame
    have hsuffix := suffix_of_changeFormats h
    rw [← of_not_not hsame] at hsuffix
    rcases hsuffix with hsuffix | hsuffix <;> rw [hsuffix] <;> rfl

/-- Of a file that is opened to be changed the readers see the names of a new workbook, or the
workbook that was saved. -/
theorem openForReading_of_change (h : d.openForChange file = .ok w) :
    (∃ names, w = .blank (Fresh.loadedNames names) ∧ d.openForReading file = .ok (.blank names)) ∨
      ∃ place kept, d.node? place = some (.file (.workbook kept)) ∧ w = kept.loaded ∧
        d.openForReading file = .ok kept := by
  obtain ⟨_, hnode, _⟩ := bind_eq_ok.mp h
  have hchange := contains_of_accept hnode
  have hread : readFormats.contains (Path.ofText file).suffixClass = true := by
    rcases suffix_of_changeFormats hchange with hsuffix | hsuffix <;> rw [hsuffix] <;> decide
  obtain ⟨place, old, hplace, hold, hw⟩ := content_of_openForChange h
  have hfind : d.find (Path.ofText file) = .ok (place, .file old) := by
    refine bind_eq_ok.mpr ⟨place, hplace, ?_⟩
    rw [hold]
    rfl
  have hopen : ∀ w', readable (Path.ofText file) (.file old) = .ok w' →
      d.openForReading file = .ok w' := fun w' hw' =>
    bind_eq_ok.mpr ⟨_, accept_of_find hread hfind, mapError_eq_ok.mpr hw'⟩
  rcases changeable_eq_ok hw with ⟨names, rfl, hnew⟩ | ⟨kept, rfl, _, rfl⟩
  · exact .inl ⟨names, (changeableFresh_eq_ok_iff.mp hnew).2,
      hopen _ (readable_fresh hchange names)⟩
  · exact .inr ⟨place, kept, hold, rfl, hopen _ (readable_workbook hchange kept)⟩

end Directory

theorem Workbook.eq_empty_of_mem_blank {names : List String} {e : String × Sheet}
    (h : e ∈ (Workbook.blank names).sheets) : e.2 = ∅ := by
  obtain ⟨_, _, rfl⟩ := List.mem_map.mp h
  rfl

/-- The worksheets of a new workbook are those that were named. -/
theorem Workbook.sheet?_blank_iff {names : List String} {name : String} {s : Sheet} :
    (blank names).sheet? name = some s ↔ name ∈ names ∧ s = ∅ := by
  have hfind : (blank names).sheet? name = (names.find? (· = name)).map fun _ => ∅ := by
    simp only [sheet?, blank, List.find?_map, Option.map_map]
    rfl
  rw [hfind, Option.map_eq_some_iff]
  constructor
  · rintro ⟨other, hother, rfl⟩
    obtain rfl : other = name := by simpa using List.find?_some hother
    exact ⟨List.mem_of_find?_eq_some hother, rfl⟩
  · rintro ⟨hname, rfl⟩
    have hsome : (names.find? (· = name)).isSome = true :=
      List.find?_isSome.mpr ⟨name, hname, by simp⟩
    obtain ⟨other, hother⟩ := Option.isSome_iff_exists.mp hsome
    exact ⟨other, hother, rfl⟩

theorem Workbook.eq_empty_of_sheet?_blank {names : List String} {name : String} {s : Sheet}
    (h : (Workbook.blank names).sheet? name = some s) : s = ∅ :=
  (sheet?_blank_iff.mp h).2

/-- **Used areas.** In a directory that requests lead to, a workbook that can be opened to be
changed can also be opened to be read. Its worksheets correspond, one by one and by their names:
the readers accept each of them and see all values of it but the hidden texts. So the used area
that is read is the one that data is appended to, cell by cell, exactly in the worksheets without
hidden texts. -/
theorem Directory.sameArea_of_reached (d : Directory) (reached : d.Reached) (file : String)
    (w : Workbook) (h : d.openForChange file = .ok w) :
    ∃ w', d.openForReading file = .ok w' ∧
      List.Forall₂ (fun e e' => Sheet.Corresponds e.2 e'.2) w.sheets w'.sheets ∧
      ∀ name s s', w.sheet? name = some s → w'.sheet? name = some s' →
        d.read file name = .ok s'.reading ∧ s.Corresponds s' := by
  have hempty : (∅ : Sheet).Corresponds ∅ :=
    Sheet.corresponds_of_plain .empty Sheet.touched_empty
  rcases openForReading_of_change h with ⟨names, rfl, hread⟩ | ⟨place, kept, hkept, rfl, hread⟩
  · refine ⟨_, hread, List.forall₂_iff_get.mpr ⟨?_, fun i hi hi' => ?_⟩, fun name s s' hs hs' => ?_⟩
    · simp only [Workbook.blank, List.length_map, Fresh.length_loadedNames]
    · rw [Workbook.eq_empty_of_mem_blank (List.get_mem _ ⟨i, hi⟩),
        Workbook.eq_empty_of_mem_blank (List.get_mem _ ⟨i, hi'⟩)]
      exact hempty
    · obtain rfl := Workbook.eq_empty_of_sheet?_blank hs
      obtain rfl := Workbook.eq_empty_of_sheet?_blank hs'
      exact ⟨read_of_sheet? hread hs' hempty.readable, hempty⟩
  · have hplain : kept.All Sheet.Plain := reached.plain place _ hkept kept rfl
    have htouched : kept.All Sheet.Touched := reached.touched place _ hkept kept rfl
    refine ⟨kept, hread, ?_, fun name s s' hs hs' => ?_⟩
    · rw [Workbook.loaded, List.forall₂_map_left_iff, List.forall₂_same]
      exact fun e he => Sheet.corresponds_of_plain (hplain e he) (htouched e he)
    · rw [AddRequest.sheet?_loaded, hs'] at hs
      cases hs
      have hcorresponds :=
        Sheet.corresponds_of_plain (hplain.sheet? hs') (htouched.sheet? hs')
      exact ⟨read_of_sheet? hread hs' hcorresponds.readable, hcorresponds⟩

/-! ### A new workbook with one token -/

namespace Directory

/-- A new workbook, and a token that was added to it. -/
def holding (token : String) : Directory :=
  ((AddRequest.single token).run (CreateRequest.run ⟨"b.xlsx", "S", ","⟩ ∅).2).2

theorem reached_holding (token : String) : (holding token).Reached :=
  .add _ (.create _ .empty)

/-- The worksheet to be changed. -/
def loadedSheet? (d : Directory) : Option Sheet :=
  (d.openForChange "b.xlsx").toOption.bind (·.sheet? "S")

theorem exists_workbook_of_loadedSheet? {d : Directory} {s : Sheet} (h : d.loadedSheet? = some s) :
    ∃ w, d.openForChange "b.xlsx" = .ok w ∧ w.sheet? "S" = some s := by
  obtain ⟨w, hw, hs⟩ := Option.bind_eq_some_iff.mp h
  exact ⟨w, toOption_eq_some.mp hw, hs⟩

/-- A letter is seen by both. -/
theorem sameArea_of_reached_letter :
    (holding "a").Reached ∧ ∃ w s v, (holding "a").openForChange "b.xlsx" = .ok w ∧
      w.sheet? "S" = some s ∧ s.lastRow = 0 ∧ (holding "a").read "b.xlsx" "S" = .ok v ∧
      s.SameArea v := by
  have hloaded : (holding "a").loadedSheet?.map (fun s => (s.lastRow, s.values.toList)) =
      some (0, [(0, 0, .text "a")]) := by decide +kernel
  have hnamed : (((holding "a").openForReading "b.xlsx").toOption.bind
      (·.sheet? "S")).isSome = true := by decide +kernel
  obtain ⟨s, hs, hvalues⟩ := Option.map_eq_some_iff.mp hloaded
  obtain ⟨hlast, hvalues⟩ := Prod.mk.inj hvalues
  obtain ⟨w, hw, hsheet⟩ := exists_workbook_of_loadedSheet? hs
  obtain ⟨w', hw', _, hcorresponds⟩ :=
    sameArea_of_reached (holding "a") (reached_holding "a") "b.xlsx" w hw
  rw [hw'] at hnamed
  obtain ⟨s', hs'⟩ := Option.isSome_iff_exists.mp hnamed
  obtain ⟨hread, hsame⟩ := hcorresponds "S" s s' hsheet hs'
  refine ⟨reached_holding "a", w, s, _, hw, hsheet, hlast, hread, hsame.area.mpr ?_⟩
  intro r c v hv
  have hmem := Grid.mem_toList_iff.mpr hv
  rw [hvalues] at hmem
  cases List.mem_singleton.mp hmem
  decide

/-- A text that is a formula counts for appending, but no row of it is read. -/
theorem not_sameArea_formula :
    (holding "=1+1").Reached ∧ ∃ w s v, (holding "=1+1").openForChange "b.xlsx" = .ok w ∧
      w.sheet? "S" = some s ∧ s.cell 0 0 = some (.text "=1+1") ∧ s.lastRow = 0 ∧
      (holding "=1+1").read "b.xlsx" "S" = .ok v ∧ v.rows = [] ∧ ¬ s.SameArea v := by
  have hloaded : (holding "=1+1").loadedSheet?.map (fun s => (s.cell 0 0, s.lastRow)) =
      some (some (.text "=1+1"), 0) := by decide +kernel
  have hrows : ((holding "=1+1").read "b.xlsx" "S").toOption.map Reading.rows = some [] := by
    decide +kernel
  obtain ⟨s, hs, hcell⟩ := Option.map_eq_some_iff.mp hloaded
  obtain ⟨hcell, hlast⟩ := Prod.mk.inj hcell
  obtain ⟨w, hw, hsheet⟩ := exists_workbook_of_loadedSheet? hs
  obtain ⟨v, hv, hrows⟩ := Option.map_eq_some_iff.mp hrows
  refine ⟨reached_holding "=1+1", w, s, v, hw, hsheet, hcell, hlast, toOption_eq_some.mp hv,
    hrows, fun same => ?_⟩
  have hlength := same.rows
  rw [hrows, hlast] at hlength
  cases hlength

end Directory

end SheetActions
