import SheetActions.Proofs.Columns
import SheetActions.Proofs.Tokens

/-! How a stage can fail.

A caller is told of a failure by a code. A foreseen failure has the code of its kind; all
breakdowns share one code, which no kind has (`Fault.code_eq_iff`). `FailsAs x k` says that a
stage fails, and how. A chain of stages fails as the first of them that does
(`failsAs_bind_iff`), so each stage is looked at once: a specification is refused or breaks
down, data does not fit, rows cannot be opened, a token cannot be written. Saving fails in
one way only. -/
namespace SheetActions

/-! ### Kinds and codes -/

/-- The kind of a foreseen failure; a breakdown has none. -/
def Fault.kind? : Fault → Option FailureKind
  | .refusal r => some r.kind
  | .breakdown _ => none

/-- The code that a caller is told. -/
def FailureKind.codeOf : Option FailureKind → String
  | some kind => kind.code
  | none => Outcome.internalCode

theorem FailureKind.codeOf_injective : Function.Injective codeOf := by
  rintro (_ | a) (_ | b) h
  · rfl
  · cases b <;> exact absurd h (by decide)
  · cases a <;> exact absurd h (by decide)
  · cases a <;> cases b <;> first | rfl | exact absurd h (by decide)

theorem Outcome.errorCode_ofFault (during : String) (f : Fault) :
    (ofFault during f).errorCode = some (FailureKind.codeOf f.kind?) := by
  cases f <;> rfl

theorem Outcome.errorCode_ofFault_iff {during : String} {f : Fault} {k : Option FailureKind} :
    (ofFault during f).errorCode = some (FailureKind.codeOf k) ↔ f.kind? = k := by
  rw [errorCode_ofFault, Option.some_inj, FailureKind.codeOf_injective.eq_iff]

theorem Fault.isShiftFailure_iff {f : Fault} :
    f.IsShiftFailure ↔ f.kind? = some .shiftFailure := by
  constructor
  · rintro ⟨_, _, _, _, rfl⟩
    rfl
  · intro h
    cases f with
    | breakdown => cases h
    | refusal r =>
      cases r with
      | shiftFailure first last count reason => exact ⟨first, last, count, reason, rfl⟩
      | _ => cases h

/-! ### Stages that fail -/

section FailsOnly
variable {α β : Type} {P : Fault → Prop} {x : Except Fault α}

/-- A stage does not fail, or its fault has a property. -/
def FailsOnly (P : Fault → Prop) (x : Except Fault α) : Prop :=
  ∀ f, x = .error f → P f

theorem failsOnly_ok (a : α) : FailsOnly P (.ok a : Except Fault α) := nofun

theorem failsOnly_error {f : Fault} (h : P f) : FailsOnly P (.error f : Except Fault α) := by
  rintro _ ⟨⟩
  exact h

theorem failsOnly_bind {g : α → Except Fault β} (hx : FailsOnly P x)
    (hg : ∀ a, FailsOnly P (g a)) : FailsOnly P (x >>= g) := by
  intro f hf
  rcases bind_eq_error.mp hf with hf | ⟨a, _, hf⟩
  · exact hx f hf
  · exact hg a f hf

theorem failsOnly_ite {c : Prop} [Decidable c] {y : Except Fault α} (hx : FailsOnly P x)
    (hy : FailsOnly P y) : FailsOnly P (if c then x else y) := by
  split
  · exact hx
  · exact hy

end FailsOnly

section FailsAs
variable {α β : Type} {x : Except Fault α} {f : Fault} {k : Option FailureKind}

/-- A stage fails with a failure of a kind, or it breaks down. -/
def FailsAs (x : Except Fault α) (k : Option FailureKind) : Prop :=
  ∃ f, x = .error f ∧ f.kind? = k

theorem failsAs_error_iff : FailsAs (.error f : Except Fault α) k ↔ f.kind? = k := by
  simp [FailsAs]

theorem not_failsAs_ok {a : α} : ¬ FailsAs (.ok a) k := by
  rintro ⟨_, h, _⟩
  cases h

/-- A chain of stages fails as the first stage does, or as the second on its result. -/
theorem failsAs_bind_iff {g : α → Except Fault β} :
    FailsAs (x >>= g) k ↔ FailsAs x k ∨ ∃ a, x = .ok a ∧ FailsAs (g a) k := by
  simp only [FailsAs, bind_eq_error]
  constructor
  · rintro ⟨f, h | ⟨a, ha, h⟩, hk⟩
    · exact .inl ⟨f, h, hk⟩
    · exact .inr ⟨a, ha, f, h, hk⟩
  · rintro (⟨f, h, hk⟩ | ⟨a, ha, f, h, hk⟩)
    · exact ⟨f, .inl h, hk⟩
    · exact ⟨f, .inr ⟨a, ha, h⟩, hk⟩

theorem failsAs_ite_iff {c : Prop} [Decidable c] {y : Except Fault α} :
    FailsAs (if c then x else y) k ↔ (c ∧ FailsAs x k) ∨ (¬ c ∧ FailsAs y k) := by
  split <;> simp [*]

theorem failsAs_map_iff {g : α → β} : FailsAs (x.map g) k ↔ FailsAs x k := by
  cases x with
  | ok a => exact iff_of_false not_failsAs_ok not_failsAs_ok
  | error f => exact failsAs_error_iff.trans failsAs_error_iff.symm

/-- A stage for each item of a list fails as it does for one of them. -/
theorem exists_failsAs_of_mapM {g : α → Except Fault β} {l : List α} (h : FailsAs (l.mapM g) k) :
    ∃ a ∈ l, FailsAs (g a) k := by
  induction l with
  | nil => exact absurd h not_failsAs_ok
  | cons a l ih =>
    rw [List.mapM_cons] at h
    rcases failsAs_bind_iff.mp h with h | ⟨_, _, h⟩
    · exact ⟨a, List.mem_cons_self, h⟩
    rcases failsAs_bind_iff.mp h with h | ⟨_, _, h⟩
    · obtain ⟨b, hb, h⟩ := ih h
      exact ⟨b, List.mem_cons_of_mem a hb, h⟩
    · exact absurd h not_failsAs_ok

/-- Work in steps fails as one of the steps does. -/
theorem exists_failsAs_of_run {σ : Type} {step : σ → α → Progress σ} {s : σ} {l : List α}
    (h : FailsAs (Progress.run step s l).toExcept k) :
    ∃ t, ∃ a ∈ l, FailsAs (step t a).toExcept k := by
  obtain ⟨f, hf, hk⟩ := h
  obtain ⟨before, a, _, t, rfl, _, hstep⟩ :=
    Progress.exists_step_of_run_fault (Progress.toExcept_eq_error.mp hf)
  have hfails : (step t a).toExcept = .error f := by
    rw [hstep]
    rfl
  exact ⟨t, a, List.mem_append_right before List.mem_cons_self, f, hfails, hk⟩

/-- A stage that does not fail has a result. -/
theorem exists_ok_of_not_failsAs (h : ∀ k, ¬ FailsAs x k) : ∃ a, x = .ok a := by
  cases x with
  | ok a => exact ⟨a, rfl⟩
  | error f => exact absurd ⟨f, rfl, rfl⟩ (h f.kind?)

end FailsAs

variable {k : Option FailureKind}

/-! ### Specifications -/

namespace IndexSpec
variable {spec item : String} {greatest : Int}

/-- A bound of nothing but digits, more than are read. -/
def OverlongBound (bound : List Char) : Prop :=
  (∀ c ∈ Text.trimBy Text.isBlank bound, c.isDigit = true) ∧
    Numeral.digitLimit < (Text.trimBy Text.isBlank bound).length

theorem failsAs_parseBound {bound : List Char}
    (h : FailsAs (parseBound spec item greatest bound) k) : k = none ∨ k = some .invalidIndex := by
  simp only [parseBound, failsAs_ite_iff, failsAs_error_iff, not_failsAs_ok] at h
  rcases h with ⟨_, rfl⟩ | ⟨_, ⟨_, rfl⟩ | ⟨_, ⟨_, rfl⟩ | ⟨_, h⟩⟩⟩
  · exact .inr rfl
  · exact .inl rfl
  · exact .inr rfl
  · exact h.elim

theorem failsAs_parseBound_none_iff {bound : List Char} :
    FailsAs (parseBound spec item greatest bound) none ↔ OverlongBound bound := by
  simp only [parseBound, failsAs_ite_iff, failsAs_error_iff, not_failsAs_ok, refuse, Fault.kind?,
    reduceCtorEq, and_false, or_false, and_true, false_or, OverlongBound, Bool.or_eq_true,
    List.isEmpty_iff, Bool.not_eq_true', List.all_eq_false, not_or, not_exists, not_and, not_not,
    gt_iff_lt]
  constructor
  · rintro ⟨⟨_, hdigits⟩, hlong⟩
    exact ⟨hdigits, hlong⟩
  · rintro ⟨hdigits, hlong⟩
    refine ⟨⟨fun hnil => ?_, hdigits⟩, hlong⟩
    rw [hnil] at hlong
    cases hlong

/-- An item with an overlong bound. The second bound of a span counts once the first is read. -/
inductive OverlongItem (spec : String) (greatest : Int) (item : List Char) : Prop where
  | index {bound : List Char} : Text.pieces [':'] item = [bound] → OverlongBound bound →
      OverlongItem spec greatest item
  | first {first last : List Char} : Text.pieces [':'] item = [first, last] →
      OverlongBound first → OverlongItem spec greatest item
  | last {first last : List Char} {n : Nat} : Text.pieces [':'] item = [first, last] →
      parseBound spec (String.ofList item) greatest first = .ok n → OverlongBound last →
      OverlongItem spec greatest item

theorem not_overlongBound_nil : ¬ OverlongBound [] := by
  rintro ⟨_, h⟩
  cases h

theorem not_overlongItem_nil : ¬ OverlongItem spec greatest [] := by
  have hpieces : Text.pieces [':'] [] = [[]] := rfl
  rintro (⟨h, hbound⟩ | ⟨h, _⟩ | ⟨h, _⟩) <;> rw [hpieces] at h <;> cases h
  exact not_overlongBound_nil hbound

theorem failsAs_parseItem {text : List Char} (h : FailsAs (parseItem spec greatest text) k) :
    k = none ∨ k = some .invalidIndex := by
  simp only [parseItem, failsAs_ite_iff] at h
  rcases h with ⟨_, h⟩ | ⟨_, h⟩
  · exact .inr (failsAs_error_iff.mp h).symm
  · split at h
    · rcases failsAs_bind_iff.mp h with h | ⟨_, _, h⟩
      · exact failsAs_parseBound h
      · exact absurd h not_failsAs_ok
    · rcases failsAs_bind_iff.mp h with h | ⟨_, _, h⟩
      · exact failsAs_parseBound h
      · rcases failsAs_bind_iff.mp h with h | ⟨_, _, h⟩
        · exact failsAs_parseBound h
        · split at h
          · exact .inr (failsAs_error_iff.mp h).symm
          · exact absurd h not_failsAs_ok
    · exact .inr (failsAs_error_iff.mp h).symm

theorem failsAs_parseItem_none_iff {text : List Char} :
    FailsAs (parseItem spec greatest text) none ↔ OverlongItem spec greatest text := by
  cases text with
  | nil =>
    refine iff_of_false ?_ not_overlongItem_nil
    intro h
    cases failsAs_error_iff.mp h
  | cons c text =>
    simp only [parseItem, List.isEmpty_cons, Bool.false_eq_true, if_false]
    constructor
    · intro h
      split at h
      · rename_i bound hpieces
        rcases failsAs_bind_iff.mp h with h | ⟨_, _, h⟩
        · exact .index hpieces (failsAs_parseBound_none_iff.mp h)
        · exact absurd h not_failsAs_ok
      · rename_i first last hpieces
        rcases failsAs_bind_iff.mp h with h | ⟨n, hn, h⟩
        · exact .first hpieces (failsAs_parseBound_none_iff.mp h)
        · rcases failsAs_bind_iff.mp h with h | ⟨_, _, h⟩
          · exact .last hpieces hn (failsAs_parseBound_none_iff.mp h)
          · split at h
            · cases failsAs_error_iff.mp h
            · exact absurd h not_failsAs_ok
      · cases failsAs_error_iff.mp h
    · intro h
      cases h with
      | index hpieces hbound =>
        rw [hpieces]
        exact failsAs_bind_iff.mpr (.inl (failsAs_parseBound_none_iff.mpr hbound))
      | first hpieces hbound =>
        rw [hpieces]
        exact failsAs_bind_iff.mpr (.inl (failsAs_parseBound_none_iff.mpr hbound))
      | last hpieces hn hbound =>
        rw [hpieces]
        refine failsAs_bind_iff.mpr (.inr ⟨_, hn, ?_⟩)
        exact failsAs_bind_iff.mpr (.inl (failsAs_parseBound_none_iff.mpr hbound))

/-- The items before the first one that fails are all read. -/
theorem failsAs_parseItems_iff {items : List (List Char)} {t : IndexSet} :
    FailsAs (parseItems spec greatest t items) k ↔
      ∃ before text after, items = before ++ text :: after ∧
        (∀ x ∈ before, ∃ y, parseItem spec greatest (Text.trimBy Text.isBlank x) = .ok y) ∧
        FailsAs (parseItem spec greatest (Text.trimBy Text.isBlank text)) k := by
  induction items generalizing t with
  | nil =>
    refine iff_of_false not_failsAs_ok ?_
    rintro ⟨before, text, after, h, _⟩
    simp at h
  | cons item items ih =>
    rw [parseItems, failsAs_bind_iff]
    constructor
    · rintro (h | ⟨x, hx, h⟩)
      · exact ⟨[], item, items, rfl, List.forall_mem_nil _, h⟩
      · obtain ⟨before, text, after, rfl, hbefore, htext⟩ := ih.mp h
        exact ⟨item :: before, text, after, rfl,
          List.forall_mem_cons.mpr ⟨⟨x, hx⟩, hbefore⟩, htext⟩
    · rintro ⟨before, text, after, hitems, hbefore, htext⟩
      cases before with
      | nil =>
        cases hitems
        exact .inl htext
      | cons x before =>
        cases hitems
        obtain ⟨⟨y, hy⟩, hbefore⟩ := List.forall_mem_cons.mp hbefore
        exact .inr ⟨y, hy, ih.mpr ⟨before, text, after, rfl, hbefore, htext⟩⟩

/-- The first item of a specification that is not read has an overlong bound. -/
def Overlong (spec : String) (greatest : Int) : Prop :=
  Text.isBlankText spec = false ∧ ∃ before text after,
    Text.pieces [','] spec.toList = before ++ text :: after ∧
    (∀ x ∈ before, ∃ y, parseItem spec greatest (Text.trimBy Text.isBlank x) = .ok y) ∧
    OverlongItem spec greatest (Text.trimBy Text.isBlank text)

theorem failsAs_parse (h : FailsAs (parse spec greatest) k) :
    k = none ∨ k = some .invalidIndex := by
  rcases failsAs_ite_iff.mp h with ⟨_, h⟩ | ⟨_, h⟩
  · exact absurd h not_failsAs_ok
  · obtain ⟨_, _, _, _, _, h⟩ := failsAs_parseItems_iff.mp h
    exact failsAs_parseItem h

theorem not_failsAs_invalidInput : ¬ FailsAs (parse spec greatest) (some .invalidInput) := by
  intro h
  rcases failsAs_parse h with h | h <;> cases h

theorem failsAs_parse_none_iff : FailsAs (parse spec greatest) none ↔ Overlong spec greatest := by
  simp only [parse, failsAs_ite_iff, not_failsAs_ok, and_false, false_or, Bool.not_eq_true,
    failsAs_parseItems_iff, failsAs_parseItem_none_iff, Overlong]

end IndexSpec

/-! ### Where data goes -/

namespace Placement
variable {spec : String} {used count : Nat} {hasHeader reserve : Bool} {rows : IndexSet}

theorem failsAs_checkStop {stop : Nat} (h : FailsAs (checkStop spec stop) k) :
    k = some .invalidIndex := by
  rcases failsAs_ite_iff.mp h with ⟨_, h⟩ | ⟨_, h⟩
  · exact (failsAs_error_iff.mp h).symm
  · exact absurd h not_failsAs_ok

/-- Rows are refused, or their specification is not even read. -/
theorem failsAs_resolveRows (h : FailsAs (resolveRows spec used count hasHeader reserve) k) :
    FailsAs (IndexSpec.parse spec maxRowIndex) k ∨ k = some .invalidIndex := by
  rcases failsAs_bind_iff.mp h with h | ⟨explicit, _, h⟩
  · exact .inl h
  · right
    split at h
    · split at h
      · rcases failsAs_bind_iff.mp h with h | ⟨_, _, h⟩
        · exact failsAs_checkStop h
        · exact absurd h not_failsAs_ok
      · exact absurd h not_failsAs_ok
    · simp only at h
      split at h
      · rcases failsAs_bind_iff.mp h with h | ⟨_, _, h⟩
        · exact failsAs_checkStop h
        · exact absurd h not_failsAs_ok
      · exact absurd h not_failsAs_ok

theorem failsAs_resolveRows_none_iff :
    FailsAs (resolveRows spec used count hasHeader reserve) none ↔
      IndexSpec.Overlong spec maxRowIndex := by
  rw [← IndexSpec.failsAs_parse_none_iff]
  refine ⟨fun h => ?_, fun h => failsAs_bind_iff.mpr (.inl h)⟩
  exact (failsAs_resolveRows h).resolve_right nofun

/-- Columns are refused, or their specification is not even read. -/
theorem failsAs_resolveColumns (h : FailsAs (resolveColumns spec count) k) :
    FailsAs (IndexSpec.parse spec maxColumnIndex) k ∨ k = some .invalidIndex := by
  rcases failsAs_bind_iff.mp h with h | ⟨explicit, _, h⟩
  · exact .inl h
  · right
    split at h
    · exact absurd h not_failsAs_ok
    · split at h
      · exact (failsAs_error_iff.mp h).symm
      · exact absurd h not_failsAs_ok

theorem failsAs_resolveColumns_none_iff :
    FailsAs (resolveColumns spec count) none ↔ IndexSpec.Overlong spec maxColumnIndex := by
  rw [← IndexSpec.failsAs_parse_none_iff]
  refine ⟨fun h => ?_, fun h => failsAs_bind_iff.mpr (.inl h)⟩
  exact (failsAs_resolveColumns h).resolve_right nofun

theorem failsAs_checkFits {data : Payload} {columns : IndexSet}
    (h : FailsAs (checkFits data rows columns) k) : k = some .doesNotFit := by
  simp only [checkFits, failsAs_ite_iff, failsAs_error_iff, not_failsAs_ok] at h
  rcases h with ⟨_, rfl⟩ | ⟨_, ⟨_, rfl⟩ | ⟨_, h⟩⟩
  · rfl
  · rfl
  · exact h.elim

theorem le_of_max? {t : IndexSet} {greatest : Nat} (h : t.max? = some greatest) :
    ∀ i ∈ t, i ≤ greatest := by
  intro i hi
  obtain ⟨l, hl⟩ : ∃ l, t.toList = l ++ [greatest] := List.getLast?_eq_some_iff.mp h
  have hsorted := t.ascending
  rw [hl, List.pairwise_append] at hsorted
  rw [IndexSet.mem_iff, hl, List.mem_append, List.mem_singleton] at hi
  rcases hi with hi | rfl
  · exact Nat.le_of_lt (hsorted.2.2 i hi greatest (List.mem_singleton_self _))
  · exact Nat.le_refl _

/-- The rows that data goes to lie in the grid. -/
theorem le_of_resolveRows
    (h : resolveRows spec used count hasHeader reserve = .ok rows) :
    ∀ i ∈ rows, i ≤ maxRowIndex := by
  have hstop : ∀ {stop : Nat} {u}, checkStop spec stop = .ok u → stop ≤ maxRowIndex + 1 := by
    intro stop u hok
    by_contra hpast
    rw [checkStop, if_pos (by omega)] at hok
    cases hok
  obtain ⟨explicit, hexplicit, h⟩ := bind_eq_ok.mp h
  have hgrid := IndexSpec.le_of_parse hexplicit
  intro i hi
  split at h
  · rename_i greatest hgreatest
    split at h
    · obtain ⟨_, hok, h⟩ := bind_eq_ok.mp h
      cases h
      have hlast := hstop hok
      obtain ⟨j, hj, rfl⟩ := IndexSet.mem_shift.mp hi
      have := le_of_max? hgreatest j hj
      omega
    · cases h
      have := hgrid i hi
      omega
  · simp only at h
    split at h
    · obtain ⟨_, hok, h⟩ := bind_eq_ok.mp h
      cases h
      have hlast := hstop hok
      have := (IndexSet.mem_interval.mp hi).2
      omega
    · cases h
      have := IndexSet.mem_interval.mp hi
      omega

end Placement

end SheetActions
