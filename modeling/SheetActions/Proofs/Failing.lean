import SheetActions.Proofs.Stages
import SheetActions.Proofs.Tokens

/-! What a request leaves that fails to add data.

The sheet is changed step by step, but in memory: a failure of any stage before saving
leaves the directory as it was (`kept_of_not_spoilsFile`). So does the refusal of a file that
cannot be saved to. A workbook is saved in place, however, and what cannot be saved turns up
only then. A request that makes its workbook one of those (`SpoilsFile`) loses the file, with
the sheets that it did not name (`lost_of_spoilsFile`). -/
namespace SheetActions

/-! ### A text that is one token -/

theorem Payload.split_eq_self {delimiter text : String} (hne : delimiter.isEmpty = false)
    (h : Text.pieces delimiter.toList text.toList = [text.toList]) :
    split delimiter text = .ok [text] := by
  rw [split_eq hne, h, List.map_singleton, String.ofList_toList]

/-- A trimmed text without delimiters is the only token of itself. -/
theorem Payload.parse_eq_self {rowDelimiter columnDelimiter token : String}
    (hrow : split rowDelimiter token = .ok [token])
    (hcolumn : split columnDelimiter token = .ok [token]) (htrim : Text.trim token = token) :
    parse rowDelimiter columnDelimiter token = .ok ⟨[[token]]⟩ := by
  have htokens : tokens columnDelimiter token = .ok [token] := by
    rw [tokens, hcolumn]
    show Except.ok [Text.trim token] = _
    rw [htrim]
  rw [parse, hrow]
  refine bind_eq_ok.mpr ⟨[token], rfl, ?_⟩
  rw [List.mapM_cons, htokens]
  rfl

theorem coerce_of_read? {token : String} {digits : List Char}
    (hread : Numeral.read? token.toList = some (.integer false digits))
    (hlimit : digits.length ≤ Numeral.digitLimit) :
    coerce token = .ok (.integer (natOfDigits digits)) := by
  simp only [coerce, hread, Numeral.excess?, if_neg (Nat.not_lt_of_le hlimit)]
  rfl

namespace AddRequest
variable {r : AddRequest} {d : Directory}

/-! ### Failed runs -/

/-- The request comes as far as saving, with a workbook that no file can take. -/
def SpoilsFile (r : AddRequest) (d : Directory) : Prop :=
  ∃ t, r.draft d = .ok t ∧ d.CanSave t.subject.file ∧ t.workbook.Unsavable

theorem kept_of_not_spoilsFile (h : ¬ r.SpoilsFile d) :
    (r.run d).1.isSuccess = true ∨
      (r.run d).1.returnCode = Outcome.failureCode ∧ (r.run d).2 = d := by
  have ended := ended_run r d
  generalize r.run d = result at ended ⊢
  cases ended with
  | stopped | refused => exact .inr ⟨Outcome.returnCode_ofFault .., rfl⟩
  | @spoiled t old flaw d' ht can hw => exact absurd ⟨t, ht, can, hw⟩ h
  | saved => exact .inl rfl

theorem lost_of_spoilsFile (h : r.SpoilsFile d) :
    (r.run d).1.returnCode = Outcome.failureCode ∧
      ∃ old, old ≠ .archive ∧ d.Rewritten (Text.trim r.file) old .archive (r.run d).2 := by
  obtain ⟨t, ht, can, hw⟩ := h
  have ended := ended_run r d
  generalize r.run d = result at ended ⊢
  cases ended with
  | stopped ht' => cases ht.symm.trans ht'
  | refused ht' hobstructs =>
    cases ht.symm.trans ht'
    exact absurd can hobstructs.not_canSave
  | @spoiled t' old flaw d' ht' _ _ hne hrewritten =>
    rw [(draft_eq_ok ht').1.file] at hrewritten
    exact ⟨Outcome.returnCode_ofFault .., old, hne, hrewritten⟩
  | saved ht' _ hw' =>
    cases ht.symm.trans ht'
    exact absurd hw hw'

/-- **Failing.** A run succeeds, or it fails with the code of a failure. A failed run leaves
everything in its place unless it spoils its file; if it does, the file is lost, and all other
places are as before. -/
theorem failed_kept (r : AddRequest) (d : Directory) :
    (r.run d).1.isSuccess = true ∨
      (r.run d).1.returnCode = Outcome.failureCode ∧
        ((∀ place, (r.run d).2.node? place = d.node? place) ↔ ¬ r.SpoilsFile d) ∧
        (r.SpoilsFile d → ∃ old, old ≠ .archive ∧
          d.Rewritten (Text.trim r.file) old .archive (r.run d).2) := by
  by_cases h : r.SpoilsFile d
  · obtain ⟨hcode, old, hne, hrewritten⟩ := lost_of_spoilsFile h
    refine .inr ⟨hcode, iff_of_false (fun hsame => ?_) (fun hnot => hnot h),
      fun _ => ⟨old, hne, hrewritten⟩⟩
    obtain ⟨place, _, hold, hnew, _⟩ := hrewritten.exists_place
    rw [hsame place, hold] at hnew
    cases hnew
    exact hne rfl
  · refine (kept_of_not_spoilsFile h).imp_right fun ⟨hcode, hsame⟩ => ?_
    rw [hsame]
    exact ⟨hcode, iff_of_true (fun _ => rfl) h, fun hspoils => absurd hspoils h⟩

/-! ### A number that is too large

The number is a token like any other until the file is written. -/

/-- One file, with a worksheet of one cell. -/
def oneCell : Directory :=
  .ofFile "b.xlsx" ⟨[("S", (∅ : Sheet).put 0 0 (some (.text "a")))]⟩

/-- A request with one token. -/
def single (token : String) : AddRequest :=
  ⟨"b.xlsx", "S", "", token, "", "", "|", ",", false⟩

/-- A token that is all of the data goes below the cell that is there. -/
theorem draft_single {token : String} {v : Value} {kept : Option Value}
    (hblank : Text.isBlankText token = false)
    (hparse : Payload.parse "|" "," token = .ok ⟨[[token]]⟩) (hcoerce : coerce token = .ok v)
    (hkept : Sheet.content v = .ok kept) :
    let sheet := (∅ : Sheet).put 0 0 (some (.text "a"))
    (single token).draft oneCell = .ok ⟨⟨"b.xlsx", "S", ⟨[("S", sheet)]⟩, sheet⟩,
      ⟨⟨[[token]]⟩, IndexSet.interval 1 1, IndexSet.interval 0 1⟩, sheet.put 1 0 kept⟩ := by
  intro sheet
  let u : Subject := ⟨"b.xlsx", "S", ⟨[("S", sheet)]⟩, sheet⟩
  let p : Plan := ⟨⟨[[token]]⟩, IndexSet.interval 1 1, IndexSet.interval 0 1⟩
  let e := sheet.put 1 0 kept
  have hsubject : (single token).subject oneCell = .ok u := by
    simp only [subject, single, hblank]
    rfl
  have hplan : (single token).plan sheet = .ok p := by
    simp only [plan, single, hparse]
    rfl
  have hwrite : Sheet.writeToken false sheet ⟨1, 0, token⟩ = .done e := by
    simp only [Sheet.writeToken, hcoerce, Sheet.enter, Option.map_some, hkept]
    rfl
  have hrows : (sheet.writeRows p.data p.rows p.columns false).toExcept = .ok e := by
    show (Progress.run (Sheet.writeToken false) sheet [⟨1, 0, token⟩]).toExcept = .ok e
    rw [Progress.toExcept_eq_ok, Progress.run_cons_eq_done]
    exact ⟨e, hwrite, rfl⟩
  have hedit : (single token).edit p sheet = .ok e := by
    refine bind_eq_ok.mpr ⟨sheet, rfl, ?_⟩
    rw [mapError_eq_ok]
    exact bind_eq_ok.mpr ⟨e, hrows, rfl⟩
  exact draft_eq_ok_iff.mpr ⟨hsubject, hplan, hedit⟩

theorem spoilsFile_single {token : String} {n : Int} (hblank : Text.isBlankText token = false)
    (hparse : Payload.parse "|" "," token = .ok ⟨[[token]]⟩)
    (hcoerce : coerce token = .ok (.integer n)) (hn : (Binary64.ofInt n).isFinite = false) :
    (single token).SpoilsFile oneCell := by
  have can : oneCell.CanSave "b.xlsx" := ⟨by decide, by decide⟩
  refine ⟨_, draft_single hblank hparse hcoerce rfl, can, ("S", _), List.mem_singleton_self _,
    .inr ⟨1, 0, n, ?_, hn⟩⟩
  rw [Sheet.cell_put, if_pos ⟨rfl, rfl⟩]

/-- The digits of the least power of ten that is beyond the floating-point numbers. -/
def tooLarge : List Char := '1' :: List.replicate 309 '0'

-- The token is a variable, so that its characters are all that is ever evaluated of it.
theorem token_tooLarge {token : String} (h : token.toList = tooLarge) :
    Text.isBlankText token = false ∧ Payload.parse "|" "," token = .ok ⟨[[token]]⟩ ∧
      coerce token = .ok (.integer (natOfDigits tooLarge)) := by
  have hblank : Text.isBlankText token = false := by
    rw [Text.isBlankText, h]
    decide +kernel
  have htrim : Text.trim token = token := by
    have hsame : Text.trimBy Text.isBlank tooLarge = tooLarge := by decide +kernel
    rw [Text.trim, h, hsame, ← h, String.ofList_toList]
  have hrow : Payload.split "|" token = .ok [token] := by
    refine Payload.split_eq_self (by decide) ?_
    rw [h]
    decide +kernel
  have hcolumn : Payload.split "," token = .ok [token] := by
    refine Payload.split_eq_self (by decide) ?_
    rw [h]
    decide +kernel
  have hread : Numeral.read? token.toList = some (.integer false tooLarge) := by
    rw [h]
    decide +kernel
  exact ⟨hblank, Payload.parse_eq_self hrow hcolumn htrim,
    coerce_of_read? hread (by decide +kernel)⟩

theorem not_isFinite_tooLarge : (Binary64.ofInt (natOfDigits tooLarge)).isFinite = false := by
  decide +kernel

theorem spoilsFile_tooLarge {token : String} (h : token.toList = tooLarge) :
    (single token).SpoilsFile oneCell := by
  obtain ⟨hblank, hparse, hcoerce⟩ := token_tooLarge h
  exact spoilsFile_single hblank hparse hcoerce not_isFinite_tooLarge

/-- The file of one cell is gone when such a number was to be added to it. -/
theorem file_lost_tooLarge :
    let r := single (String.ofList tooLarge)
    (r.run oneCell).1.returnCode = Outcome.failureCode ∧
      (∃ w : Workbook, oneCell.node? ["b.xlsx"] = some (.file (.workbook w))) ∧
      (r.run oneCell).2.node? ["b.xlsx"] = some (.file .archive) := by
  have hlist : (String.ofList tooLarge).toList = tooLarge := String.toList_ofList
  obtain ⟨hcode, old, _, hrewritten⟩ := lost_of_spoilsFile (spoilsFile_tooLarge hlist)
  obtain ⟨place, hplace, _, hlost, _⟩ := hrewritten.exists_place
  have heq : Except.ok ["b.xlsx"] = Except.ok place := hplace
  cases heq
  exact ⟨hcode, ⟨_, rfl⟩, hlost⟩

end AddRequest

end SheetActions
