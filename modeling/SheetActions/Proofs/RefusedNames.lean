import SheetActions.Proofs.Creating
import SheetActions.Proofs.Faults
import SheetActions.Proofs.Naming
import SheetActions.Proofs.Searching

/-! Two checks of the names of worksheets.

The names of a request are checked as they are read, and again when the new workbook is written. The
second check knows two rules that the first one does not: a name has no apostrophe at its ends, and
its length is counted in units of sixteen bits (`SheetNames.enterable_iff`). So a name can pass the
first check and not the second one (`SheetNames.Slips`). Then the failure is one of writing the
file, where any other name that is refused is an input that is invalid
(`CreateRequest.code_of_names`). -/
namespace SheetActions

/-! ### The check of the program that writes new workbooks -/

namespace Text

theorem length_le_units16 (s : String) : s.length ≤ units16 s := by
  have hfold : ∀ (l : List Char) (n : Nat),
      n + l.length ≤ l.foldl (fun n c => n + if c.toNat < 0x10000 then 1 else 2) n := by
    intro l
    induction l with
    | nil => exact fun n => Nat.le_refl n
    | cons c l ih =>
      intro n
      have hone : n + 1 ≤ n + if c.toNat < 0x10000 then 1 else 2 := by
        split <;> omega
      rw [List.length_cons, Nat.add_comm l.length, ← Nat.add_assoc]
      exact (Nat.add_le_add_right hone _).trans (ih _)
  rw [units16, ← String.length_toList]
  exact (Nat.le_of_eq (Nat.zero_add _).symm).trans (hfold _ 0)

end Text

namespace SheetNames
variable {names : List String} {name : String}

/-- A name that is short and has no reserved character can still not be that of a new worksheet:
there is an apostrophe at an end of it, or it has too many units of sixteen bits. -/
def Slips (name : String) : Prop :=
  name.toList.head? = some '\'' ∨ name.toList.getLast? = some '\'' ∨
    Directory.nameUnits < Text.units16 name

theorem refusedName?_eq_none_iff : Directory.refusedName? name = none ↔ ¬ Slips name := by
  unfold Directory.refusedName? Slips
  split
  · rename_i hlong
    exact iff_of_false nofun fun h => h (.inr (.inr hlong))
  · rename_i hshort
    split
    · rename_i hquoted
      exact iff_of_false nofun fun h => h (hquoted.imp_right .inl)
    · rename_i hbare
      refine iff_of_true rfl ?_
      rintro (hfirst | hlast | hlong)
      · exact hbare (.inl hfirst)
      · exact hbare (.inr hlast)
      · exact hshort hlong

/-- Names that the program that writes new workbooks takes for their worksheets. -/
structure Enterable (names : List String) : Prop where
  short : ∀ name ∈ names, Text.units16 name ≤ Directory.nameUnits
  plain : ∀ name ∈ names, ∀ c ∈ name.toList, c ∉ reserved
  bare : ∀ name ∈ names, name.toList.head? ≠ some '\'' ∧ name.toList.getLast? ≠ some '\''
  differ : names.Pairwise fun a b => Text.lower a ≠ Text.lower b

theorem enterable_iff : Enterable names ↔ Usable names ∧ ∀ name ∈ names, ¬ Slips name := by
  constructor
  · rintro ⟨short, plain, bare, differ⟩
    refine ⟨⟨fun name hname => ?_, plain, differ⟩, fun name hname => ?_⟩
    · exact (Text.length_le_units16 name).trans (short name hname)
    · rintro (hfirst | hlast | hlong)
      · exact (bare name hname).1 hfirst
      · exact (bare name hname).2 hlast
      · exact Nat.not_lt.mpr (short name hname) hlong
  · rintro ⟨⟨_, plain, differ⟩, hslips⟩
    refine ⟨fun name hname => ?_, plain, fun name hname => ⟨fun hfirst => ?_, fun hlast => ?_⟩,
      differ⟩
    · exact Nat.not_lt.mp fun hlong => hslips name hname (.inr (.inr hlong))
    · exact hslips name hname (.inl hfirst)
    · exact hslips name hname (.inr (.inl hlast))

/-- Names are refused for one reason, or they can stand in one workbook. -/
theorem exists_refused_iff : (∃ flaw, Refused names flaw) ↔ ¬ (names ≠ [] ∧ Usable names) := by
  simp only [← check_eq_error_iff]
  have hok : check names = .ok names ↔ names ≠ [] ∧ Usable names := by
    rw [check_eq_ok_iff]
    exact and_iff_right rfl
  rw [← hok]
  cases hcheck : check names with
  | ok given =>
    obtain ⟨rfl, _⟩ := check_eq_ok_iff.mp hcheck
    simp
  | error flaw => simp

end SheetNames

/-! ### Requests -/

/-- There is nothing at a path yet, but the folder for it is there and may be written to. -/
structure Directory.Free (d : Directory) (file : String) : Prop where
  nothing : ∃ place, d.resolve (Path.ofText file) = .ok place ∧ d.node? place = none
  folder : d.holdsFolder (Path.ofText file).parent = true
  writable : d.isWritable (Path.ofText file).parent = true

namespace Directory
variable {d : Directory} {file : String}

theorem Free.prepare (free : d.Free file) : d.prepare file = .done d := by
  obtain ⟨place, hplace, hnode⟩ := free.nothing
  obtain ⟨parent, hparent⟩ := holdsFolder_iff.mp free.folder
  have hmissing : d.find (Path.ofText file) = .error .missing := by
    rw [find, hplace, ok_bind, hnode]
    rfl
  have hnothing : d.isPresent (Path.ofText file) = .ok false := by
    simp only [isPresent, hmissing]
  have hfolder : d.isPresent (Path.ofText file).parent = .ok true := by
    simp only [isPresent, hparent]
  unfold Directory.prepare ensureFolder
  simp only [hnothing, hfolder, Progress.andThen, requireAccess, free.writable, if_true]
  rfl

theorem Free.store (free : d.Free file) (content : Content) :
    ∃ place,
      d.store file (Path.ofText file).text content = .done (d.put place (.file content)) := by
  obtain ⟨place, hplace, hnode⟩ := free.nothing
  refine ⟨place, ?_⟩
  have hwrite : d.writeFile (Path.ofText file) content = .ok (d.put place (.file content)) := by
    rw [writeFile, hplace, ok_bind, hnode]
    exact if_neg (Bool.eq_false_iff.mp (isReadOnly_dropLast hplace hnode free.writable))
  unfold Directory.store
  rw [hwrite]
  rfl

end Directory

namespace CreateRequest
open Directory SheetNames
variable {r : CreateRequest} {d : Directory}

/-- The name of the file ends as that of a new file does. -/
def Suffixed (r : CreateRequest) : Prop :=
  format.toList <:+ (Text.lower (Text.trim r.file)).toList

/-- How a run ends where a file can be made. -/
inductive Answered (r : CreateRequest) (names : List String) : Outcome → Prop where
  | otherFormat : ¬ r.Suffixed → Answered r names (.ofFault "" (otherFormat (Text.trim r.file)))
  | refused {flaw : Flaw} : r.Suffixed → Refused names flaw →
      Answered r names (.ofFault "" (.refusal (.input flaw.message "worksheet_names")))
  | slipped {reason : String} : r.Suffixed → names ≠ [] → Usable names →
      (∃ name ∈ names, Slips name) →
      Answered r names (.ofFault "" (writeFault (Text.trim r.file) "add worksheet" reason))
  | created : r.Suffixed → names ≠ [] → Usable names → (∀ name ∈ names, ¬ Slips name) →
      Answered r names (outcome (Text.trim r.file))

theorem answered_of_names {names : List String} (free : d.Free (Text.trim r.file))
    (hsuffix : r.Suffixed) (hnames : r.names = .ok (Text.trim r.file, names)) (hne : names ≠ [])
    (usable : Usable names) :
    r.Answered names (r.run d).1 := by
  simp only [run, hnames, create, free.prepare, Progress.done, Progress.andThen]
  cases hreason : names.findSome? refusedName? with
  | some reason =>
    obtain ⟨name, hname, hrefused⟩ := List.exists_of_findSome?_eq_some hreason
    refine .slipped hsuffix hne usable ⟨name, hname, ?_⟩
    by_contra hslips
    rw [refusedName?_eq_none_iff.mpr hslips] at hrefused
    cases hrefused
  | none =>
    obtain ⟨place, hstore⟩ := free.store (.fresh names)
    rw [List.findSome?_eq_none_iff] at hreason
    simp only [hstore]
    exact .created hsuffix hne usable fun name hname =>
      refusedName?_eq_none_iff.mp (hreason name hname)

section Named
variable (named : Text.isBlankText r.file = false)
include named

theorem names_of_not_suffixed (h : ¬ r.Suffixed) :
    r.names = .error (otherFormat (Text.trim r.file)) := by
  have hsuffix : format.toList.isSuffixOf (Text.lower (Text.trim r.file)).toList = false := by
    rw [Bool.eq_false_iff]
    exact fun hends => h (List.isSuffixOf_iff_suffix.mp hends)
  rw [names, Input.fileName, Input.required_eq_ok_iff.mpr ⟨named, rfl⟩, ok_bind, hsuffix]
  rfl

theorem names_of_suffixed (h : r.Suffixed) :
    r.names = (SheetNames.parse r.delimiter r.sheetNames).map (Text.trim r.file, ·) := by
  rw [names, Input.fileName, Input.required_eq_ok_iff.mpr ⟨named, rfl⟩, ok_bind,
    List.isSuffixOf_iff_suffix.mpr h]
  cases SheetNames.parse r.delimiter r.sheetNames <;> rfl

theorem answered_run (hne : r.delimiter.isEmpty = false) (free : d.Free (Text.trim r.file)) :
    r.Answered (ofPieces (Text.pieces r.delimiter.toList r.sheetNames.toList)) (r.run d).1 := by
  by_cases hsuffix : r.Suffixed
  · have hnames := names_of_suffixed named hsuffix
    cases hparse : SheetNames.parse r.delimiter r.sheetNames with
    | error f =>
      obtain ⟨flaw, hflaw, rfl⟩ := (parse_eq_error_iff hne).mp hparse
      rw [hparse] at hnames
      simp only [run, hnames]
      exact .refused hsuffix (check_eq_error_iff.mp hflaw)
    | ok given =>
      obtain ⟨rfl, hsome, husable⟩ := check_eq_ok_iff.mp ((parse_eq_ok_iff hne).mp hparse)
      rw [hparse] at hnames
      exact answered_of_names free hsuffix hnames hsome husable
  · simp only [run, names_of_not_suffixed named hsuffix]
    exact .otherFormat hsuffix

end Named

/-- **Two checks.** The program that writes new workbooks takes the names that can stand in one
workbook but for those that slip through. Where a file can be made, a request for another format is
told so; with the right one it is told of an invalid input exactly if its names cannot stand in one
workbook, of a failure to write the file exactly if they can and one of them slips through, and else
the file is made. -/
theorem code_of_names (r : CreateRequest) (d : Directory) (named : Text.isBlankText r.file = false)
    (hne : r.delimiter ≠ "") (free : d.Free (Text.trim r.file)) :
    (∀ names, Enterable names ↔ Usable names ∧ ∀ name ∈ names, ¬ Slips name) ∧
      ∃ names, SheetNames.split r.delimiter r.sheetNames = .ok names ∧
        ((r.run d).1.errorCode = some FailureKind.invalidFormat.code ↔ ¬ r.Suffixed) ∧
        ((r.run d).1.errorCode = some FailureKind.invalidInput.code ↔
          r.Suffixed ∧ ¬ (names ≠ [] ∧ Usable names)) ∧
        ((r.run d).1.errorCode = some FailureKind.writeFailure.code ↔
          r.Suffixed ∧ (names ≠ [] ∧ Usable names) ∧ ∃ name ∈ names, Slips name) ∧
        ((r.run d).1.isSuccess = true ↔
          r.Suffixed ∧ (names ≠ [] ∧ Usable names) ∧ ∀ name ∈ names, ¬ Slips name) := by
  have hempty : r.delimiter.isEmpty = false := by simpa using hne
  refine ⟨fun names => enterable_iff, _, split_eq hempty _, ?_⟩
  have answered := answered_run named hempty free
  generalize ofPieces (Text.pieces r.delimiter.toList r.sheetNames.toList) = names at answered ⊢
  generalize (r.run d).1 = o at answered ⊢
  have hcode : ∀ (f : Fault) (k : FailureKind),
      (Outcome.ofFault "" f).errorCode = some k.code ↔ f.kind? = some k := fun _ k =>
    Outcome.errorCode_ofFault_iff (k := some k)
  cases answered with
  | otherFormat h =>
    have hkind : (otherFormat (Text.trim r.file)).kind? = some .invalidFormat := rfl
    simp [hcode, hkind, Outcome.isSuccess_ofFault, h]
  | @refused flaw h hrefused =>
    have hkind : (Fault.refusal (.input flaw.message "worksheet_names")).kind? =
        some .invalidInput := rfl
    have hunusable := exists_refused_iff.mp ⟨flaw, hrefused⟩
    simp only [hcode, hkind, Outcome.isSuccess_ofFault, h, hunusable]
    simp
  | @slipped reason h hsome usable hslips =>
    have hkind : (writeFault (Text.trim r.file) "add worksheet" reason).kind? =
        some .writeFailure := rfl
    simp only [hcode, hkind, Outcome.isSuccess_ofFault, h, usable]
    simpa [hsome] using hslips
  | created h hsome usable hslips =>
    have hcode : (outcome (Text.trim r.file)).errorCode = none := rfl
    have hsuccess : (outcome (Text.trim r.file)).isSuccess = true := rfl
    simp only [hcode, hsuccess, h, usable]
    simpa [hsome] using hslips

theorem free_empty : (∅ : Directory).Free "n.xlsx" where
  nothing := ⟨["n.xlsx"], by rfl, by rfl⟩
  folder := by decide +kernel
  writable := by decide +kernel

/-- A name with an apostrophe at its front. -/
def quoted : CreateRequest :=
  ⟨"n.xlsx", "'q", ","⟩

/-- It can stand in a workbook, but it cannot be entered into a new one. -/
theorem code_of_names_quoted :
    Text.isBlankText quoted.file = false ∧ quoted.delimiter ≠ "" ∧
      (∅ : Directory).Free (Text.trim quoted.file) ∧ quoted.Suffixed ∧ Usable ["'q"] ∧
      ¬ Enterable ["'q"] ∧ (quoted.run ∅).1.errorCode = some FailureKind.writeFailure.code ∧
      (quoted.run ∅).1.isSuccess = false := by
  have htrim : Text.trim quoted.file = "n.xlsx" := by decide
  have hfree : (∅ : Directory).Free (Text.trim quoted.file) := htrim ▸ free_empty
  have hsuffix : quoted.Suffixed := by
    show format.toList <:+ (Text.lower (Text.trim quoted.file)).toList
    decide +kernel
  have husable : Usable ["'q"] := (check_eq_ok_iff.mp (by rfl)).2.2
  have hslips : ∃ name ∈ ["'q"], Slips name := ⟨"'q", by decide, .inl (by decide)⟩
  have hsplit : SheetNames.split quoted.delimiter quoted.sheetNames = .ok ["'q"] := by rfl
  obtain ⟨henter, names, hnames, _, _, hwrite, hsuccess⟩ :=
    code_of_names quoted ∅ (by decide) (by decide) hfree
  cases hsplit.symm.trans hnames
  refine ⟨by decide, by decide, hfree, hsuffix, husable, fun h => ?_,
    hwrite.mpr ⟨hsuffix, ⟨by decide, husable⟩, hslips⟩, ?_⟩
  · obtain ⟨name, hname, hslip⟩ := hslips
    exact ((henter _).mp h).2 name hname hslip
  · rw [Bool.eq_false_iff]
    intro h
    obtain ⟨name, hname, hslip⟩ := hslips
    exact (hsuccess.mp h).2.2 name hname hslip

/-- The name passes the first check and not the second one, so an input that is invalid is told as a
failure to write. -/
theorem quoted_slips :
    SheetNames.parse "," "'q" = .ok ["'q"] ∧ ¬ Enterable ["'q"] ∧
      (∅ : Directory).Free (Text.trim quoted.file) ∧
      (quoted.run ∅).1.errorCode = some FailureKind.writeFailure.code := by
  have htrim : Text.trim quoted.file = "n.xlsx" := by decide
  refine ⟨by rfl, fun h => ?_, htrim ▸ free_empty, by decide +kernel⟩
  exact (h.bare "'q" (List.mem_singleton_self _)).1 (by decide)

end CreateRequest

end SheetActions
