import SheetActions.Proofs.Adding
import SheetActions.Proofs.Failing
import SheetActions.Proofs.OverwritingAgain

/-! What is saved of a text.

A request is refused for a control character in a text, but not for a text that a cell cannot hold:
the cell takes as many characters as it can, and the file has a line feed for every other end of a
line. So a text is saved as its `keptText`, which is the text itself only if it is short and has no
carriage return (`keptText_eq_self_iff`). A character that markup cannot hold is saved too, but the
file cannot be opened to be changed again (`opens_run_iff`). -/
namespace SheetActions

/-! ### Ends of lines -/

namespace Text

theorem length_unifyLines_le (l : List Char) : (unifyLines l).length ≤ l.length := by
  fun_induction unifyLines l with
  | case1 r ih =>
    simp only [List.length_cons]
    omega
  | case2 r _ ih | case3 c r _ _ ih =>
    simp only [List.length_cons]
    omega
  | case4 => exact Nat.le_refl 0

end Text

/-! ### Cells -/

/-- A token that is taken for a text and is not the empty one. -/
def IsText (token : String) : Prop :=
  token ≠ "" ∧ coerce token = .ok (.text token)

/-- What a file keeps of a text: the characters that a cell can hold, with a line feed for every
other end of a line. -/
def keptText (token : String) : String :=
  String.ofList (Text.unifyLines (token.toList.take Sheet.textLimit))

/-- A text is kept as it is if and only if it is short and has no carriage return. -/
theorem keptText_eq_self_iff {token : String} :
    keptText token = token ↔ token.length ≤ Sheet.textLimit ∧ '\r' ∉ token.toList := by
  rw [← String.toList_inj, keptText, String.toList_ofList, ← String.length_toList]
  constructor
  · intro h
    have hshort := Text.length_unifyLines_le (token.toList.take Sheet.textLimit)
    have hreturn := Text.return_not_mem_unifyLines (token.toList.take Sheet.textLimit)
    rw [h] at hshort hreturn
    exact ⟨hshort.trans (List.length_take_le ..), hreturn⟩
  · rintro ⟨hshort, hreturn⟩
    rw [List.take_of_length_le hshort]
    exact Text.unifyLines_eq_self_iff.mpr hreturn

theorem Value.isMarkup_text_iff {s : String} :
    (Value.text s).isMarkup = true ↔ Text.IsMarkupText s :=
  List.all_eq_true

namespace Sheet
variable {s o e : Sheet} {token : String} {kept : Option Value}

/-- What a file keeps of the content that a cell was given for a text. -/
theorem stored_of_content_text (hne : token ≠ "") (h : content (.text token) = .ok kept) :
    kept.bind Value.stored = some (.text (keptText token)) := by
  have htaken := (content_text_eq_ok_iff.mp h).2
  rw [if_neg hne] at htaken
  have hfilled : String.ofList (token.toList.take textLimit) ≠ "" := by
    intro hempty
    rw [← String.toList_inj, String.toList_ofList, String.toList_empty, List.take_eq_nil_iff,
      or_iff_right (by decide), String.toList_eq_nil_iff] at hempty
    exact hne hempty
  rw [htaken, Option.bind_some, Value.stored_text_eq_some_iff, String.toList_ofList]
  exact ⟨hfilled, rfl⟩

/-- A cell of a file holds what is kept of a text, which is all of it exactly if the text is short
and has no carriage return. There is no control character in the part that a cell takes. -/
structure KeepsText (s : Sheet) (r c : Nat) (token : String) : Prop where
  legal : ∀ x ∈ token.toList.take textLimit, isIllegal x = false
  cell : s.cell r c = some (.text (keptText token))
  whole : s.cell r c = some (.text token) ↔ token.length ≤ textLimit ∧ '\r' ∉ token.toList

/-- The texts among tokens that were written are kept in their cells. -/
theorem keepsText_of_run {overwrite : Bool} {l : List Target}
    (distinct : (l.map Target.place).Nodup)
    (h : Progress.run (writeToken overwrite) s l = .done e) {a : Target} (ha : a ∈ l)
    (htext : IsText a.token) : e.stored.KeepsText a.row a.column a.token := by
  obtain ⟨_, v, kept, hv, hkept, hcell⟩ := content_of_run distinct h a ha
  cases htext.2.symm.trans hv
  have hstored : e.stored.cell a.row a.column = some (.text (keptText a.token)) := by
    rw [cell_stored, hcell]
    exact stored_of_content_text htext.1 hkept
  refine ⟨(content_text_eq_ok_iff.mp hkept).1, hstored, ?_⟩
  rw [hstored, Option.some.injEq, Value.text.injEq]
  exact keptText_eq_self_iff

/-- Markup can hold what a file keeps for a token, unless that is a text that it cannot hold. -/
theorem isMarkup_of_content {v u w : Value} (hv : coerce token = .ok v)
    (hkept : content v = .ok (some u)) (hw : u.stored = some w)
    (text : IsText token → Text.IsMarkupText (keptText token)) : w.isMarkup = true := by
  rcases coerce_cases hv with rfl | ⟨_, n, rfl⟩
  · have hne : token ≠ "" := by
      intro hempty
      have htaken := (content_text_eq_ok_iff.mp hkept).2
      rw [if_pos hempty] at htaken
      cases htaken
    have hstored := stored_of_content_text hne hkept
    rw [Option.bind_some, hw] at hstored
    cases hstored
    exact Value.isMarkup_text_iff.mpr (text ⟨hne, hv⟩)
  · rw [content_toValue] at hkept
    cases hkept
    have hnumber : n.toValue.isMarkup = true := by cases n <;> rfl
    exact Value.isMarkup_stored hnumber hw

/-- Tokens were written to a sheet that markup can hold. It can hold what is saved if and only if it
can hold what is kept of the texts among them. -/
theorem markup_stored_iff_of_run {overwrite : Bool} {l : List Target}
    (distinct : (l.map Target.place).Nodup)
    (h : Progress.run (writeToken overwrite) s l = .done e) (before : s.Markup) :
    e.stored.Markup ↔ ∀ a ∈ l, IsText a.token → Text.IsMarkupText (keptText a.token) := by
  constructor
  · intro hmarkup a ha htext
    exact Value.isMarkup_text_iff.mp (hmarkup _ _ _ (keepsText_of_run distinct h ha htext).cell)
  · intro texts r c w hw
    rw [cell_stored] at hw
    obtain ⟨u, hu, hu'⟩ := Option.bind_eq_some_iff.mp hw
    by_cases htouched : ∃ a ∈ l, a.place = (r, c)
    · obtain ⟨a, ha, hplace⟩ := htouched
      cases hplace
      obtain ⟨_, v, kept, hv, hkept, hcell⟩ := content_of_run distinct h a ha
      cases hcell.symm.trans hu
      exact isMarkup_of_content hv hkept hu' (texts a ha)
    · rw [cell_of_run h fun a ha hplace => htouched ⟨a, ha, hplace⟩] at hu
      exact Value.isMarkup_stored (before r c u hu) hu'

end Sheet

/-! ### Requests -/

namespace AddRequest
variable {r : AddRequest} {d : Directory} {u : Subject} {p : Plan} {s e : Sheet}
  {header : List String}

/-- Each text of the data is kept in its target cell, and each text of the header in its column of
the header row. -/
structure KeepsTexts (p : Plan) (header : List String) (s : Sheet) : Prop where
  data : ∀ (i j : Nat) row token, p.data.rows[i]? = some row → row[j]? = some token →
    IsText token → ∃ m n, p.rows.toList[i]? = some m ∧ p.columns.toList[j]? = some n ∧
      s.KeepsText m n token
  header : ∀ (j : Nat) token, header[j]? = some token → IsText token →
    s.KeepsText Placement.headerRow j token

/-- A sheet is changed by opening its targets and writing all tokens in one go. -/
theorem run_of_edit (placed : r.Placed s p) (h : r.edit p s = .ok e) :
    ∃ o header, r.openTargets p s = .done o ∧ r.headerTokens = .ok header ∧
      Progress.run (Sheet.writeToken true) o (allTargets p header) = .done e := by
  obtain ⟨o, _, header, hopen, _, hheader, _⟩ := edit_eq_ok h
  obtain ⟨o', hopen', hwrite⟩ := bind_eq_ok.mp h
  rw [mapError_eq_ok, Progress.toExcept_eq_ok] at hopen'
  cases Progress.done_inj (hopen.symm.trans hopen')
  rw [mapError_eq_ok, write_eq placed hopen hheader, Progress.toExcept_eq_ok] at hwrite
  exact ⟨o, header, hopen, hheader, hwrite⟩

theorem keepsTexts_of_run {o : Sheet} (placed : r.Placed s p)
    (hheader : r.headerTokens = .ok header)
    (h : Progress.run (Sheet.writeToken true) o (allTargets p header) = .done e) :
    KeepsTexts p header e.stored where
  data := fun i j row token hrow htoken htext => by
    obtain ⟨m, n, hm, hn, ha⟩ :=
      Sheet.exists_place_of_token placed.rowsFit placed.columnsFit hrow htoken
    exact ⟨m, n, hm, hn, Sheet.keepsText_of_run (nodup_allTargets placed hheader) h
      (List.mem_append_left _ ha) htext⟩
  header := fun j token hj htext =>
    Sheet.keepsText_of_run (nodup_allTargets placed hheader) h
      (List.mem_append_right _ (Sheet.mem_headerTargets (a := ⟨_, j, token⟩).mpr ⟨rfl, hj⟩)) htext

/-- Markup can hold the sheet that the tokens are written to. -/
theorem markup_of_openTargets {o : Sheet} (found : r.Found d u)
    (hopen : r.openTargets p u.sheet = .done o) : o.Markup := by
  have hmarkup : u.sheet.Markup :=
    (Workbook.isMarkup_iff.mp (Directory.isMarkup_openForChange found.opened)).2.sheet? found.sheet
  rcases openTargets_eq_done hopen with rfl | hopened
  · exact hmarkup
  · exact Sheet.Each.openRows hmarkup hopened

/-- What was saved can be opened to be changed if and only if markup can hold the worksheet. -/
theorem Saves.opens_run_iff (h : r.Saves d u e) :
    (∃ w, (r.run d).2.openForChange u.file = .ok w) ↔ e.stored.Markup := by
  have found := found_of_subject h.subject
  obtain ⟨old, hrewritten⟩ := h.rewritten
  constructor
  · rintro ⟨w, hw⟩
    obtain ⟨place, content, hplace, hcontent, hchange⟩ := Directory.content_of_openForChange hw
    obtain ⟨place', hplace', _, hsaved, _⟩ := hrewritten.exists_place
    rw [Directory.resolve_rewritten hrewritten, hplace'] at hplace
    cases hplace
    cases hcontent.symm.trans hsaved
    rcases Directory.changeable_eq_ok hchange with ⟨_, hfresh, _⟩ | ⟨kept, hkept, hmarkup, _⟩
    · cases hfresh
    · cases hkept
      have hsheet : (u.workbook.put u.sheetName e).stored.sheet? u.sheetName = some e.stored := by
        rw [sheet?_stored, h.sheet?_put]
        rfl
      exact (Workbook.isMarkup_iff.mp hmarkup).2.sheet? hsheet
  · intro hmarkup
    have hreadable := Workbook.isMarkup_stored_put
      (Directory.isMarkup_openForChange found.opened) found.sheet hmarkup
    exact ⟨_, Directory.openForChange_rewritten found.opened hrewritten hreadable⟩

/-- **Stored texts.** A run that succeeds keeps each text among its tokens in its cell: all of it if
and only if it is short and has no carriage return. The file can be opened to be changed again if
and only if markup can hold what is kept of the texts. -/
theorem texts_kept (r : AddRequest) (d : Directory) (success : (r.run d).1.isSuccess = true) :
    ∃ u p header s, r.Found d u ∧ r.Placed u.sheet p ∧ r.headerTokens = .ok header ∧
      (r.run d).2.sheet? u.file u.sheetName = some s ∧ KeepsTexts p header s ∧
      ((∃ w, (r.run d).2.openForChange u.file = .ok w) ↔
        ∀ a ∈ allTargets p header, IsText a.token → Text.IsMarkupText (keptText a.token)) := by
  obtain ⟨u, e, saves⟩ := isSuccess_iff_saves.mp success
  have found := found_of_subject saves.subject
  obtain ⟨p, hp, hedit⟩ := changed_eq_some.mp saves.changed
  have placed := placed_of_plan hp
  obtain ⟨o, header, hopen, hheader, hrun⟩ := run_of_edit placed hedit
  refine ⟨u, p, header, e.stored, found, placed, hheader, saves.sheet?,
    keepsTexts_of_run placed hheader hrun, saves.opens_run_iff.trans ?_⟩
  exact Sheet.markup_stored_iff_of_run (nodup_allTargets placed hheader) hrun
    (markup_of_openTargets found hopen)

/-- A header and data in two rows, all of them texts but one. -/
theorem texts_kept_ragged :
    let r := ragged "0,2" false
    (r.run twoRows).1.isSuccess = true ∧
      ∃ u p header s, r.Found twoRows u ∧ r.Placed u.sheet p ∧ r.headerTokens = .ok header ∧
        (r.run twoRows).2.sheet? u.file u.sheetName = some s ∧ KeepsTexts p header s ∧
        ((∃ w, (r.run twoRows).2.openForChange u.file = .ok w) ↔
          ∀ a ∈ allTargets p header, IsText a.token → Text.IsMarkupText (keptText a.token)) :=
  have hsuccess : ((ragged "0,2" false).run twoRows).1.isSuccess = true := by decide +kernel
  ⟨hsuccess, texts_kept _ _ hsuccess⟩

/-! ### Texts that are changed -/

/-- A trimmed text without delimiters and control characters goes below the cell that is there. -/
theorem keepsText_single {token : String} (htext : IsText token) (htrim : Text.trim token = token)
    (hrow : '|' ∉ token.toList) (hcolumn : ',' ∉ token.toList)
    (hlegal : token.toList.any Sheet.isIllegal = false) :
    ((single token).run oneCell).1.isSuccess = true ∧
      ∃ s, ((single token).run oneCell).2.sheet? "b.xlsx" "S" = some s ∧ s.KeepsText 1 0 token := by
  let e := ((∅ : Sheet).put 0 0 (some (.text "a"))).put 1 0
    (some (.text (String.ofList (token.toList.take Sheet.textLimit))))
  have hblank : Text.isBlankText token = false := by
    rw [Bool.eq_false_iff, ne_eq, Text.isBlankText_iff, htrim]
    exact htext.1
  have hparse : Payload.parse "|" "," token = .ok ⟨[[token]]⟩ :=
    Payload.parse_eq_self (Payload.split_eq_self (by decide) (Text.pieces_of_not_mem hrow))
      (Payload.split_eq_self (by decide) (Text.pieces_of_not_mem hcolumn)) htrim
  have hkept : Sheet.content (.text token) =
      .ok (some (.text (String.ofList (token.toList.take Sheet.textLimit)))) := by
    rw [Sheet.content_text_eq_ok_iff, if_neg htext.1]
    refine ⟨fun c hc => ?_, rfl⟩
    exact Bool.eq_false_iff.mpr (List.any_eq_false.mp hlegal c (List.mem_of_mem_take hc))
  obtain ⟨hsubject, hplan, hedit⟩ :=
    draft_eq_ok_iff.mp (draft_single hblank hparse htext.2 hkept)
  have savable : e.Savable := by
    have htexts : ∀ (s : String) w, some (Value.text s) = some w → w.isStorable = true := by
      rintro s _ ⟨⟩
      rfl
    exact (Sheet.savable_empty.put 0 (by decide) (htexts _)).put 1 (by decide) (htexts _)
  have can : oneCell.CanSave "b.xlsx" := ⟨by decide, by decide⟩
  have saves : (single token).Saves oneCell _ e :=
    ⟨hsubject, changed_eq_some.mpr ⟨_, hplan, hedit⟩, can, savable, by simp⟩
  obtain ⟨_, header, _, hheader, hrun⟩ := run_of_edit (placed_of_plan hplan) hedit
  obtain ⟨_, _, hm, hn, hkeeps⟩ :=
    (keepsTexts_of_run (placed_of_plan hplan) hheader hrun).data 0 0 [token] token rfl rfl htext
  cases hm
  cases hn
  exact ⟨isSuccess_iff_saves.mpr ⟨_, _, saves⟩, _, saves.sheet?, hkeeps⟩

/-- A text is added without a failure, and it is another one that is saved. -/
def Alters (token : String) : Prop :=
  IsText token ∧ ((single token).run oneCell).1.isSuccess = true ∧
    ∃ s, ((single token).run oneCell).2.sheet? "b.xlsx" "S" = some s ∧
      s.cell 1 0 ≠ some (.text token)

theorem alters_of_not_whole {token : String} (htext : IsText token)
    (htrim : Text.trim token = token) (hrow : '|' ∉ token.toList) (hcolumn : ',' ∉ token.toList)
    (hlegal : token.toList.any Sheet.isIllegal = false)
    (h : ¬(token.length ≤ Sheet.textLimit ∧ '\r' ∉ token.toList)) : Alters token := by
  obtain ⟨success, s, hs, hkeeps⟩ := keepsText_single htext htrim hrow hcolumn hlegal
  exact ⟨htext, success, s, hs, fun hwhole => h (hkeeps.whole.mp hwhole)⟩

theorem isText_replicate (n : Nat) : IsText (String.ofList (List.replicate (n + 1) 'a')) := by
  have hlines : Numeral.dropFinalNewline (List.replicate (n + 1) 'a') =
      List.replicate (n + 1) 'a' :=
    Numeral.dropFinalNewline_of_not_mem (by simp)
  have hread : Numeral.read? (List.replicate (n + 1) 'a') = none := by
    rw [Numeral.read?, hlines]
    rfl
  constructor
  · rw [← String.toList_inj.ne, String.toList_ofList]
    exact List.cons_ne_nil _ _
  · rw [coerce, String.toList_ofList, hread]

-- The token is a variable here, as it is too long to be evaluated.
theorem alters_of_replicate {n : Nat} {token : String} (hn : Sheet.textLimit ≤ n)
    (h : token.toList = List.replicate (n + 1) 'a') : Alters token := by
  have hmem : ∀ c ∈ token.toList, c = 'a' := fun c hc => List.eq_of_mem_replicate (h ▸ hc)
  have htext : IsText token := by
    rw [← String.ofList_toList (s := token), h]
    exact isText_replicate n
  have htrim : Text.trim token = token := by
    rw [Text.trim, Text.trimBy_of_none fun c hc => by rw [hmem c hc]; decide, String.ofList_toList]
  refine alters_of_not_whole htext htrim (fun hrow => absurd (hmem _ hrow) (by decide))
    (fun hcolumn => absurd (hmem _ hcolumn) (by decide))
    (List.any_eq_false.mpr fun c hc => by rw [hmem c hc]; decide) fun hwhole => ?_
  have hshort := hwhole.1
  rw [← String.length_toList, h, List.length_replicate] at hshort
  omega

/-- A carriage return is lost, and so is the last character of a text that has one more than a cell
can hold. -/
theorem alters_longText :
    Alters "a\rb" ∧ Alters (String.ofList (List.replicate (Sheet.textLimit + 1) 'a')) :=
  ⟨alters_of_not_whole ⟨by decide, by rfl⟩ (by decide) (by decide) (by decide) (by decide)
    (by decide), alters_of_replicate (Nat.le_refl _) String.toList_ofList⟩

end AddRequest

end SheetActions
