import SheetActions.Action.Read
import SheetActions.Proofs.Breakdowns
import SheetActions.Proofs.Denoting

/-! Specifications that are not read, and what a caller is told of them.

A specification that is not accepted is refused with the item that is at fault, unless the first
item at fault has a bound of too many digits: such a bound is never compared with the greatest
index, reading it breaks down (`Unread`, `overlong_iff`). A text without so many digits in a row is
never overlong (`not_overlong_of_shortRuns`). The actions look at their rows before anything else
that can fail once the worksheet is found, so the caller is told of just that (`unread_told`). -/
namespace SheetActions

namespace IndexSpec
variable {spec : String} {greatest : Int} {f : Fault}

theorem unread_of_parseItems {items : List (List Char)} {t : IndexSet}
    (h : parseItems spec greatest t items = .error f) :
    ∃ name text, Unread spec name text f := by
  induction items generalizing t with
  | nil => cases h
  | cons item items ih =>
    rcases bind_eq_error.mp h with h | ⟨_, _, h⟩
    · exact ⟨_, _, unread_of_parseItem h⟩
    · exact ih h

/-- A specification that is not accepted has an item that is refused or breaks down. -/
theorem unread_of_parse (h : parse spec greatest = .error f) :
    ∃ name text, Unread spec name text f := by
  rw [parse] at h
  split at h
  · cases h
  · exact unread_of_parseItems h

/-- A fault of a specification is a breakdown just when the specification is overlong. -/
theorem overlong_iff (h : parse spec greatest = .error f) :
    Overlong spec greatest ↔ f.kind? = none := by
  rw [← failsAs_parse_none_iff, h, failsAs_error_iff]

/-- An overlong item has an overlong bound. -/
theorem OverlongItem.exists_bound {item : List Char} (h : OverlongItem spec greatest item) :
    ∃ bound ∈ Text.pieces [':'] item, OverlongBound bound := by
  cases h with
  | index hpieces hbound => exact ⟨_, by rw [hpieces]; exact List.mem_cons_self, hbound⟩
  | first hpieces hbound => exact ⟨_, by rw [hpieces]; exact List.mem_cons_self, hbound⟩
  | last hpieces _ hbound =>
    exact ⟨_, by rw [hpieces]; exact List.mem_cons_of_mem _ List.mem_cons_self, hbound⟩

/-- Without a long run of digits nothing is overlong. -/
theorem not_overlong_of_shortRuns (short : Text.ShortRuns spec.toList) :
    ¬ Overlong spec greatest := by
  rintro ⟨_, before, text, after, hpieces, _, hitem⟩
  have htext : text ∈ Text.pieces [','] spec.toList := by
    rw [hpieces]
    exact List.mem_append_right before List.mem_cons_self
  have hinfix : Text.trimBy Text.isBlank text <:+: spec.toList :=
    (Text.trimBy_isInfix ..).trans ((Text.isSplit_pieces ',' spec.toList).isInfix htext)
  obtain ⟨bound, hbound, hdigits, hlong⟩ := hitem.exists_bound
  have hshort := shortRuns_of_mem (short.mono hinfix) hbound
  exact Nat.not_lt.mpr (hshort _ (Text.trimBy_isInfix ..) hdigits) hlong

/-- Digits alone, more than are read, are overlong, whatever the greatest index is. -/
theorem parse_of_overlongDigits {digits : List Char} (hdigits : ∀ c ∈ digits, c.isDigit = true)
    (hlong : Numeral.digitLimit < digits.length) (greatest : Int) :
    parse (String.ofList digits) greatest =
      .error (.breakdown (.numeralTooLong digits.length)) := by
  have hne : digits ≠ [] := List.length_pos_iff.mp (Nat.zero_lt_of_lt hlong)
  have hblank : ∀ c ∈ digits, Text.isBlank c = false := fun c hc =>
    Text.isBlank_of_isDigit (hdigits c hc)
  have hvisible : Text.isBlankText (String.ofList digits) = false := by
    obtain ⟨c, hc⟩ := List.exists_mem_of_ne_nil _ hne
    exact Text.isBlankText_eq_false_iff.mpr ⟨c, by rwa [String.toList_ofList], hblank c hc⟩
  have hother {d : Char} (hd : d.isDigit = false) : d ∉ digits := fun hmem => by
    rw [hdigits d hmem] at hd
    cases hd
  have hbound : parseBound (String.ofList digits) (String.ofList digits) greatest digits =
      .error (.breakdown (.numeralTooLong digits.length)) := by
    have hall : digits.all Char.isDigit = true := List.all_eq_true.mpr hdigits
    have hnotEmpty : digits.isEmpty = false := List.isEmpty_eq_false_iff.mpr hne
    simp only [parseBound, Text.trimBy_of_none hblank, hall, hnotEmpty, Bool.not_true,
      Bool.or_false, Bool.false_eq_true, if_false, gt_iff_lt, hlong, if_true]
  have hitem : parseItem (String.ofList digits) greatest digits =
      .error (.breakdown (.numeralTooLong digits.length)) := by
    rw [parseItem, if_neg (by simpa using hne), Text.pieces_of_not_mem (hother (by decide))]
    exact bind_eq_error.mpr (.inl hbound)
  rw [parse, hvisible, String.toList_ofList, Text.pieces_of_not_mem (hother (by decide)),
    parseItems, Text.trimBy_of_none hblank, hitem]
  rfl

/-- What a caller is told of a request whose specification of rows is not read. -/
structure ToldUnread (spec : String) (o : Outcome) : Prop where
  failed : o.isSuccess = false
  invalid_iff : o.errorCode = some FailureKind.invalidIndex.code ↔ ¬ Overlong spec maxRowIndex
  internal_iff : o.errorCode = some Outcome.internalCode ↔ Overlong spec maxRowIndex

theorem toldUnread_ofFault (h : parse spec maxRowIndex = .error f) (during : String) :
    ToldUnread spec (.ofFault during f) where
  failed := Outcome.isSuccess_ofFault during f
  invalid_iff := by
    refine (Outcome.errorCode_ofFault_iff (k := some .invalidIndex)).trans ?_
    rw [overlong_iff h]
    rcases failsAs_parse ⟨f, h, rfl⟩ with hkind | hkind <;> simp [hkind]
  internal_iff := by
    refine (Outcome.errorCode_ofFault_iff (k := none)).trans ?_
    rw [overlong_iff h]

end IndexSpec

/-! ### The actions -/

/-- Rows that are not read are what the caller is told of. -/
theorem ReadRequest.run_of_unread {r : ReadRequest} {d : Directory} {v : Reading} {f : Fault}
    (hread : r.reading d = .ok v) (h : IndexSpec.parse r.rows maxRowIndex = .error f) :
    r.run d = .ofFault "" f := by
  have hanswer : r.answer v = .error f :=
    bind_eq_error.mpr (.inl (bind_eq_error.mpr (.inl h)))
  have hall : (do r.answer (← r.reading d)) = Except.error f :=
    bind_eq_error.mpr (.inr ⟨v, hread, hanswer⟩)
  rw [run, hall]

theorem AddRequest.run_of_unread {r : AddRequest} {d : Directory} {u : Subject} {f : Fault}
    (hrow : r.rowDelimiter.isEmpty = false) (hcolumn : r.columnDelimiter.isEmpty = false)
    (hu : r.subject d = .ok u) (h : IndexSpec.parse r.rows maxRowIndex = .error f) :
    r.run d = (.ofFault Stage.resolving.during f, d) := by
  obtain ⟨data, hdata⟩ := exists_parse hrow hcolumn
  have hplan : r.plan u.sheet = .error f :=
    bind_eq_error.mpr (.inr ⟨data, hdata, bind_eq_error.mpr (.inl (bind_eq_error.mpr (.inl h)))⟩)
  have hchange : r.change u.sheet = .error (.resolving, f) := by
    refine bind_eq_error.mpr (.inl ?_)
    rw [hplan]
    rfl
  exact run_of_draft_error (draft_eq_error_iff.mpr (.inr ⟨u, hu, hchange⟩))

namespace IndexSpec

/-- **Specifications that are not read.** A specification is accepted or refused unless it is
overlong, and breaks down on its digits if it is. A caller who names rows of a worksheet that is
found and gives a specification that is not accepted is told of a failure. It is a specification
that is invalid, unless it is overlong: then the failure is an internal one. Nothing is changed. -/
theorem unread_told (environment : List (String × String)) :
    (∀ spec greatest,
      (¬ Overlong spec greatest → (∃ t, parse spec greatest = .ok t) ∨
        ∃ item flaw, parse spec greatest = .error (refuse spec item flaw)) ∧
      (Overlong spec greatest → ∃ n, Numeral.digitLimit < n ∧
        parse spec greatest = .error (.breakdown (.numeralTooLong n)))) ∧
    (∀ (r : ReadRequest) (d : Directory) v, r.reading d = .ok v →
      (∀ t, parse r.rows maxRowIndex ≠ .ok t) → ToldUnread r.rows (r.run d)) ∧
    ∀ j (r : AddRequest) (d : Directory) u,
      AddRequest.ofJson (Settings.ofEnvironment environment) j = .valid r →
      r.subject d = .ok u → (∀ t, parse r.rows maxRowIndex ≠ .ok t) →
      ToldUnread r.rows (r.run d).1 ∧ (r.run d).2 = d := by
  refine ⟨fun spec greatest => ?_, fun r d v hread hbad => ?_, fun j r d u hr hu hbad => ?_⟩
  · cases hparse : parse spec greatest with
    | ok t =>
      refine ⟨fun _ => .inl ⟨t, rfl⟩, fun hlong => ?_⟩
      rw [← failsAs_parse_none_iff, hparse] at hlong
      exact absurd hlong not_failsAs_ok
    | error f =>
      rw [overlong_iff hparse]
      obtain ⟨item, _, hunread⟩ := unread_of_parse hparse
      cases hunread with
      | refused flaw => exact ⟨fun _ => .inr ⟨item, flaw, rfl⟩, nofun⟩
      | overlong _ _ hlong => exact ⟨fun h => absurd rfl h, fun _ => ⟨_, hlong, rfl⟩⟩
  · cases hparse : parse r.rows maxRowIndex with
    | ok t => exact absurd hparse (hbad t)
    | error f =>
      rw [ReadRequest.run_of_unread hread hparse]
      exact toldUnread_ofFault hparse ""
  · cases hparse : parse r.rows maxRowIndex with
    | ok t => exact absurd hparse (hbad t)
    | error f =>
      obtain ⟨hrow, hcolumn⟩ := AddRequest.delimiters_of_ofJson hr
      rw [AddRequest.run_of_unread hrow hcolumn hu hparse]
      exact ⟨toldUnread_ofFault hparse _, rfl⟩

/-- The form for rows in the file of one cell. -/
def rowsForm (spec : String) : Json :=
  .object [("excel_file_name", .text "b.xlsx"), ("worksheet_name", .text "S"),
    ("row_data", .text "1"), ("row_index", .text spec)]

/-- The form as a request to read. -/
def readRows (spec : String) : ReadRequest :=
  ⟨"b.xlsx", "S", true, 0, spec, "", "|", ","⟩

/-- The form as a request to add. -/
def addRows (spec : String) : AddRequest :=
  { AddRequest.single "1" with rows := spec }

theorem ofJson_rowsForm (spec : String) :
    ReadRequest.ofJson (Settings.ofEnvironment []) (rowsForm spec) = .valid (readRows spec) ∧
      AddRequest.ofJson (Settings.ofEnvironment []) (rowsForm spec) = .valid (addRows spec) :=
  ⟨rfl, rfl⟩

theorem exists_reading_readRows (spec : String) :
    ∃ v, (readRows spec).reading AddRequest.oneCell = .ok v := by
  have hsame : (readRows spec).reading AddRequest.oneCell =
      (readRows "").reading AddRequest.oneCell := rfl
  have hread : ((readRows "").reading AddRequest.oneCell).isOk = true := by decide +kernel
  rw [hsame]
  cases h : (readRows "").reading AddRequest.oneCell with
  | ok v => exact ⟨v, rfl⟩
  | error f =>
    rw [h] at hread
    cases hread

theorem exists_subject_addRows (spec : String) :
    ∃ u, (addRows spec).subject AddRequest.oneCell = .ok u := by
  have hsame : (addRows spec).subject AddRequest.oneCell =
      (AddRequest.single "1").subject AddRequest.oneCell := rfl
  have hsubject : ∃ u, (AddRequest.single "1").subject AddRequest.oneCell = .ok u := ⟨_, rfl⟩
  rwa [hsame]

/-- A letter among the rows is told as an invalid specification. -/
theorem unread_told_letter :
    ((readRows "1,x").run AddRequest.oneCell).errorCode = some FailureKind.invalidIndex.code ∧
      ((addRows "1,x").run AddRequest.oneCell).1.errorCode =
        some FailureKind.invalidIndex.code := by
  obtain ⟨_, htoldRead, htoldAdd⟩ := unread_told []
  have hbad : ∀ t, parse "1,x" maxRowIndex ≠ .ok t := fun t ht => by
    have hnone : (parse "1,x" maxRowIndex).toOption = none := by decide
    rw [ht] at hnone
    cases hnone
  have hshort : ¬ Overlong "1,x" maxRowIndex :=
    not_overlong_of_shortRuns (Text.shortRuns_of_length (by decide))
  obtain ⟨v, hv⟩ := exists_reading_readRows "1,x"
  obtain ⟨u, hu⟩ := exists_subject_addRows "1,x"
  exact ⟨(htoldRead _ _ v hv hbad).invalid_iff.mpr hshort,
    (htoldAdd _ _ _ u (ofJson_rowsForm _).2 hu hbad).1.invalid_iff.mpr hshort⟩

/-- Rows that break down when they are read are told as an internal failure. -/
theorem internalCode_of_breakdown {spec : String} {b : Breakdown}
    (h : parse spec maxRowIndex = .error (.breakdown b)) :
    ((readRows spec).run AddRequest.oneCell).errorCode = some Outcome.internalCode ∧
      ((addRows spec).run AddRequest.oneCell).1.errorCode = some Outcome.internalCode := by
  obtain ⟨v, hv⟩ := exists_reading_readRows spec
  obtain ⟨u, hu⟩ := exists_subject_addRows spec
  have hread : (readRows spec).run AddRequest.oneCell = .ofFault "" (.breakdown b) :=
    ReadRequest.run_of_unread hv h
  have hadd : (addRows spec).run AddRequest.oneCell =
      (.ofFault AddRequest.Stage.resolving.during (.breakdown b), AddRequest.oneCell) :=
    AddRequest.run_of_unread rfl rfl hu h
  rw [hread, hadd]
  exact ⟨rfl, rfl⟩

/-- An index of 4301 digits is past every greatest index, and is told as an internal failure. -/
theorem internalCode_overlongRows :
    let spec := String.ofList (List.replicate 4301 '1')
    (∀ greatest, parse spec greatest = .error (.breakdown (.numeralTooLong 4301))) ∧
      ReadRequest.ofJson (Settings.ofEnvironment []) (rowsForm spec) = .valid (readRows spec) ∧
      (∃ v, (readRows spec).reading AddRequest.oneCell = .ok v) ∧
      ((readRows spec).run AddRequest.oneCell).errorCode = some Outcome.internalCode ∧
      AddRequest.ofJson (Settings.ofEnvironment []) (rowsForm spec) = .valid (addRows spec) ∧
      (∃ u, (addRows spec).subject AddRequest.oneCell = .ok u) ∧
      ((addRows spec).run AddRequest.oneCell).1.errorCode = some Outcome.internalCode := by
  intro spec
  have hdigits : ∀ c ∈ List.replicate 4301 '1', c.isDigit = true := fun c hc => by
    rw [List.eq_of_mem_replicate hc]
    decide
  have hlength : (List.replicate 4301 '1').length = 4301 := List.length_replicate
  have hparse : ∀ greatest, parse spec greatest = .error (.breakdown (.numeralTooLong 4301)) :=
    fun greatest => by
      have hlong := parse_of_overlongDigits hdigits (by rw [hlength]; decide) greatest
      rwa [hlength] at hlong
  obtain ⟨hread, hadd⟩ := ofJson_rowsForm spec
  obtain ⟨htoldRead, htoldAdd⟩ := internalCode_of_breakdown (hparse maxRowIndex)
  exact ⟨hparse, hread, exists_reading_readRows spec, htoldRead, hadd, exists_subject_addRows spec,
    htoldAdd⟩

end IndexSpec

end SheetActions
