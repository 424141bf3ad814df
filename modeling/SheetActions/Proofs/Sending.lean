import Mathlib.Data.List.SplitBy
import SheetActions.Http.Service

/-! Replies that can be sent.

A reply is written in UTF-8, and what stands between the texts of an outcome can always be written.
So the reply is sent just when no text of the outcome holds a surrogate without its partner
(`send_ofOutcome_iff`). Else the caller gets no answer but an error that tells where the first ones
are. -/
namespace SheetActions

/-! ### Texts -/

namespace Text
variable {s t sep : String} {l : List String}

/-- A text without stand-ins for surrogates. -/
def IsEncodable (s : String) : Prop :=
  ∀ c ∈ s.toList, surrogate? c = none

instance (s : String) : Decidable (IsEncodable s) :=
  List.decidableBAll _ s.toList

theorem isEncodable_append : IsEncodable (s ++ t) ↔ IsEncodable s ∧ IsEncodable t := by
  simp only [IsEncodable, String.toList_append, List.forall_mem_append]

/-- Texts with something encodable between them are encodable if each of them is. -/
theorem isEncodable_intercalate (hsep : IsEncodable sep) :
    IsEncodable (sep.intercalate l) ↔ ∀ s ∈ l, IsEncodable s := by
  have hall : ∀ parts : List (List Char),
      (∀ c ∈ sep.toList.intercalate parts, surrogate? c = none) ↔
        ∀ p ∈ parts, ∀ c ∈ p, surrogate? c = none := by
    intro parts
    induction parts with
    | nil => simp
    | cons p parts ih =>
      cases parts with
      | nil => simp
      | cons q parts =>
        rw [List.intercalate_cons_cons, List.forall_mem_append, List.forall_mem_append, ih]
        constructor
        · exact fun h => List.forall_mem_cons.mpr ⟨h.1.1, h.2⟩
        · intro h
          obtain ⟨hp, hparts⟩ := List.forall_mem_cons.mp h
          exact ⟨⟨hp, hsep⟩, hparts⟩
  rw [IsEncodable, String.toList_intercalate, hall, List.forall_mem_map]
  rfl

theorem runOf?_eq_none_iff {group : List (Char × Nat)} :
    runOf? group = none ↔ ∀ a ∈ group, surrogate? a.1 = none := by
  unfold runOf?
  split
  · rename_i hnil
    exact iff_of_true rfl (by simpa using hnil)
  · rename_i first rest hcons
    refine iff_of_false nofun fun hnone => ?_
    rw [List.filterMap_eq_nil_iff.mpr fun a ha => by rw [hnone a ha]; rfl] at hcons
    cases hcons

/-- Only texts that are not encodable have surrogates in a row. -/
theorem surrogateRuns_eq_nil_iff : surrogateRuns s = [] ↔ IsEncodable s := by
  have hflatten : ∀ groups : List (List (Char × Nat)),
      (∀ group ∈ groups, ∀ a ∈ group, surrogate? a.1 = none) ↔
        ∀ a ∈ groups.flatten, surrogate? a.1 = none := by
    intro groups
    simp only [List.mem_flatten]
    exact ⟨fun h a ⟨group, hgroup, ha⟩ => h group hgroup a ha,
      fun h group hgroup a ha => h a ⟨group, hgroup, ha⟩⟩
  have hfst : s.toList.zipIdx.map Prod.fst = s.toList := List.zipIdx_map_fst 0 _
  rw [surrogateRuns, List.filterMap_eq_nil_iff]
  simp only [runOf?_eq_none_iff]
  rw [hflatten, List.flatten_splitBy]
  conv_rhs => rw [IsEncodable, ← hfst, List.forall_mem_map]

end Text

/-! ### JSON -/

namespace Json
open Text

/-- What is written for a character is encodable if the character is. -/
theorem isEncodable_escapeChar (c : Char) :
    (∀ x ∈ escapeChar c, surrogate? x = none) ↔ surrogate? c = none := by
  have hall : ∀ l : List Char, (l.all fun x => surrogate? x = none) = true →
      ∀ x ∈ l, surrogate? x = none := fun l => by simp
  have hunit : ∀ n < 0x20, ((escapeUnit n).all fun x => surrogate? x = none) = true := by decide
  have hlow : c.toNat < 0x20 → surrogate? c = none := by
    intro h
    refine if_neg fun hin => ?_
    rw [Bool.and_eq_true, decide_eq_true_eq, firstStandIn] at hin
    omega
  unfold escapeChar
  split
  · rename_i h
    rcases h with rfl | rfl <;> exact iff_of_true (hall _ (by decide)) (by decide)
  split
  · rename_i h
    unfold controlLetter? at h
    split at h <;> cases h <;> exact iff_of_true (hall _ (by decide)) (by decide)
  split
  · rename_i h
    exact iff_of_true (hall _ (hunit _ h)) (hlow h)
  · exact List.forall_mem_singleton

theorem isEncodable_stringText {s : String} :
    IsEncodable (stringText escapeChar s) ↔ IsEncodable s := by
  have hquote : surrogate? '"' = none := by decide
  simp only [IsEncodable, stringText, String.toList_ofList, List.forall_mem_cons,
    List.forall_mem_append, List.forall_mem_flatMap, isEncodable_escapeChar, hquote, true_and]
  exact and_iff_left nofun

end Json

/-! ### Outcomes -/

/-- No text of an outcome holds a surrogate without its partner. -/
structure Outcome.IsEncodable (o : Outcome) : Prop where
  returnCode : Text.IsEncodable o.returnCode
  returnResult : Text.IsEncodable o.returnResult
  exception : Text.IsEncodable o.exception
  errorCode : ∀ code, o.errorCode = some code → Text.IsEncodable code
  outputs : ∀ f ∈ o.outputs, Text.IsEncodable f.1 ∧ Text.IsEncodable f.2

namespace Outcome
open Json Text
variable {o : Outcome}

theorem printFields_texts (l : List (String × String)) :
    printFields Json.escapeChar (l.map fun f => (f.1, .text f.2)) =
      l.map fun f => stringText Json.escapeChar f.1 ++ ":" ++ stringText Json.escapeChar f.2 := by
  induction l with
  | nil => rfl
  | cons f l ih =>
    rw [List.map_cons, List.map_cons, ← ih]
    rfl

/-- What stands between texts in an object. -/
theorem isEncodable_marks : Text.IsEncodable "," ∧ Text.IsEncodable ":" ∧
    Text.IsEncodable "\x7b" ∧ Text.IsEncodable "\x7d" := by
  decide

theorem isEncodable_texts (l : List (String × String)) :
    Text.IsEncodable (printWith Json.escapeChar (textsToJson l)) ↔
      ∀ f ∈ l, Text.IsEncodable f.1 ∧ Text.IsEncodable f.2 := by
  simp only [textsToJson, printWith, printFields_texts, isEncodable_append, isEncodable_marks,
    true_and, and_true, isEncodable_intercalate isEncodable_marks.1, List.forall_mem_map,
    isEncodable_stringText]

theorem isFinite_texts (l : List (String × String)) : (textsToJson l).isFinite = true := by
  show fieldsAreFinite _ = true
  induction l with
  | nil => rfl
  | cons f l ih => exact ih

theorem isEncodable_code (code : Option String) :
    Text.IsEncodable (printWith Json.escapeChar (.ofText? code)) ↔
      ∀ c, code = some c → Text.IsEncodable c := by
  cases code with
  | none => exact iff_of_true (by decide) nofun
  | some code =>
    simp only [ofText?, printWith, isEncodable_stringText, Option.some.injEq, forall_eq']

/-- Around the texts of an outcome there is nothing that cannot be encoded. -/
theorem isEncodable_sent : Text.IsEncodable o.toJson.sent ↔ o.IsEncodable := by
  have hname : ∀ name ∈ ["returnCode", "returnResult", "exception", "errorCode", "outputs"],
      Text.IsEncodable name := by decide
  simp only [List.forall_mem_cons] at hname
  simp only [sent, toJson, printWith, printFields, isEncodable_append,
    isEncodable_intercalate isEncodable_marks.1, List.forall_mem_cons, isEncodable_stringText,
    isEncodable_texts, isEncodable_code, hname, isEncodable_marks, true_and, and_true]
  constructor
  · rintro ⟨hcode, hresult, hexception, herror, houtputs, -⟩
    exact ⟨hcode, hresult, hexception, herror, houtputs⟩
  · intro h
    exact ⟨h.returnCode, h.returnResult, h.exception, h.errorCode, h.outputs, nofun⟩

theorem isFinite_toJson : o.toJson.isFinite = true := by
  have hcode : (Json.ofText? o.errorCode).isFinite = true := by
    cases o.errorCode <;> rfl
  simp only [toJson, isFinite, fieldsAreFinite, hcode, isFinite_texts, Bool.and_true]

end Outcome

/-- The error in place of a reply. -/
def Http.unanswered? : Except Unanswered Reply → Option Unanswered
  | .ok _ => none
  | .error cause => some cause

namespace Http.Reply
variable {o : Outcome}

/-- Outcomes hold no numbers, so that only surrogates can be in the way. -/
theorem unsent?_toJson :
    unsent? o.toJson = (Text.surrogateRuns o.toJson.sent).head?.map .notEncodable := by
  rw [unsent?, Outcome.isFinite_toJson]
  rfl

/-- The reply for an outcome is sent if all of its texts can be encoded. -/
theorem send_ofOutcome_iff : (ofOutcome o).send = .ok (ofOutcome o) ↔ o.IsEncodable := by
  rw [← Outcome.isEncodable_sent, ← Text.surrogateRuns_eq_nil_iff, send, ofOutcome, unsent?_toJson]
  cases Text.surrogateRuns o.toJson.sent with
  | nil => exact iff_of_true rfl rfl
  | cons run runs => exact iff_of_false nofun nofun

/-- Else there is an error, which tells of the first surrogates in the text of the reply. -/
theorem send_ofOutcome_of_not (h : ¬ o.IsEncodable) : ∃ run runs,
    Text.surrogateRuns o.toJson.sent = run :: runs ∧
      (ofOutcome o).send = .error (.notEncodable run) := by
  rw [← Outcome.isEncodable_sent, ← Text.surrogateRuns_eq_nil_iff] at h
  obtain ⟨run, runs, hruns⟩ := List.exists_cons_of_ne_nil h
  refine ⟨run, runs, hruns, ?_⟩
  rw [send, ofOutcome, unsent?_toJson, hruns]
  rfl

end Http.Reply

end SheetActions
