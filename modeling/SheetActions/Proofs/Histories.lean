import SheetActions.Action.Add
import SheetActions.Action.Create
import SheetActions.Proofs.Stages

/-! Directories that requests lead to.

From an empty directory requests to create workbooks and to add data lead to others (`Reached`),
whether they succeed or fail. What all sheets in the files have is not lost by creating a workbook
(`CreateRequest.all_run`): it puts only folders and a file without values into the directory. So
a property of sheets that adding data keeps is one of all sheets that are ever reached
(`Reached.all`). -/
namespace SheetActions

/-- The directories that requests lead to from an empty one. -/
inductive Directory.Reached : Directory → Prop where
  | empty : Reached ∅
  | create {d : Directory} (r : CreateRequest) : Reached d → Reached (r.run d).2
  | add {d : Directory} (r : AddRequest) : Reached d → Reached (r.run d).2

/-- What holds of the state before more work holds after it, if the work keeps it. -/
theorem Progress.state_andThen {σ : Type} {Q : σ → Prop} {p : Progress σ} {next : σ → Progress σ}
    (h : Q p.state) (keeps : ∀ s, Q s → Q (next s).state) : Q (p.andThen next).state := by
  unfold andThen
  split
  · exact keeps _ h
  · exact h

namespace Directory
variable {P : Sheet → Prop} {d d' : Directory}

/-! ### Creating -/

theorem add_eq_ok_iff {place : Place} {node : Node} : d.add place node = .ok d' ↔
    d.isReadOnly place.dropLast = false ∧ d' = d.put place node := by
  unfold add
  split
  · rename_i hdenied
    exact iff_of_false nofun fun h => by rw [h.1] at hdenied; cases hdenied
  · rename_i hwritable
    rw [Except.ok.injEq, eq_comm, and_iff_right (Bool.not_eq_true _ ▸ hwritable)]

/-- A file that is written is no folder, and nothing else changes. -/
theorem writeFile_eq_ok {p : Path} {content : Content} (h : d.writeFile p content = .ok d') :
    ∃ place, d.resolve p = .ok place ∧ d.node? place ≠ some .folder ∧
      d' = d.put place (.file content) := by
  obtain ⟨place, hplace, h⟩ := bind_eq_ok.mp h
  refine ⟨place, hplace, ?_⟩
  split at h
  · cases h
  · rename_i hnode
    split at h
    · cases h
    · cases h
      exact ⟨by rw [hnode]; exact nofun, rfl⟩
  · rename_i hnode
    exact ⟨by rw [hnode]; exact nofun, (add_eq_ok_iff.mp h).2⟩

theorem state_requireAccess (file : String) (d : Directory) : (requireAccess file d).state = d := by
  unfold requireAccess
  split <;> rfl

namespace All

theorem empty : (∅ : Directory).All P := by
  intro place content h
  unfold node? at h
  split at h <;> cases h

theorem put (all : d.All P) {node : Node} (h : ∀ content, node = .file content → content.All P)
    (place : Place) : (d.put place node).All P := by
  intro other content hcontent
  rw [node?_put] at hcontent
  split at hcontent
  · exact h content (Option.some.inj hcontent)
  · exact all other content hcontent

theorem add (all : d.All P) {place : Place} {node : Node}
    (hnode : ∀ content, node = .file content → content.All P) (h : d.add place node = .ok d') :
    d'.All P := by
  obtain ⟨_, rfl⟩ := add_eq_ok_iff.mp h
  exact all.put hnode place

theorem makeFolder (all : d.All P) {p : Path} (h : d.makeFolder p = .ok d') : d'.All P := by
  obtain ⟨place, _, h⟩ := bind_eq_ok.mp h
  split at h
  · cases h
  · exact all.add (by rintro content ⟨⟩) h

theorem writeFile (all : d.All P) {p : Path} {content : Content} (hcontent : content.All P)
    (h : d.writeFile p content = .ok d') : d'.All P := by
  obtain ⟨place, _, _, rfl⟩ := writeFile_eq_ok h
  exact all.put (fun _ heq => by cases heq; exact hcontent) place

theorem store (all : d.All P) {content : Content} (hcontent : content.All P)
    (file named : String) : (d.store file named content).state.All P := by
  unfold Directory.store
  split
  · exact all.writeFile hcontent ‹_›
  · exact all

theorem settle (all : d.All P) (file : String) (p : Path) (flaw : PathFlaw) :
    (Directory.settle file p d flaw).state.All P := by
  unfold Directory.settle
  split
  · exact all
  · exact all

/-- Making folders keeps all files, by induction on the components of the path. -/
theorem makeFolders (all : d.All P) (file : String) (components : List String) :
    (Directory.makeFolders file d components).state.All P := by
  induction components generalizing d with
  | nil => exact all
  | cons component before ih =>
    unfold Directory.makeFolders
    simp only
    split
    · exact all.makeFolder ‹_›
    · refine Progress.state_andThen (Q := fun d : Directory => d.All P) (ih all) fun d all => ?_
      split
      · exact all.makeFolder ‹_›
      · exact all.settle file _ _
    · exact all.settle file _ _

theorem ensureFolder (all : d.All P) (file : String) : (d.ensureFolder file).state.All P := by
  unfold Directory.ensureFolder
  simp only
  split
  · exact all
  · exact all
  · exact all.makeFolders file _

theorem prepare (all : d.All P) (file : String) : (d.prepare file).state.All P := by
  unfold Directory.prepare
  split
  · exact all
  · exact all
  · refine Progress.state_andThen (Q := fun d : Directory => d.All P) (all.ensureFolder file)
      fun d all => ?_
    rw [state_requireAccess]
    exact all

theorem create (all : d.All P) (file : String) (names : List String) :
    (d.create file names).state.All P := by
  refine Progress.state_andThen (Q := fun d : Directory => d.All P) (all.prepare file)
    fun d all => ?_
  split
  · exact all
  · refine all.store ?_ _ _
    rintro w ⟨⟩

end All

end Directory

/-- Creating a workbook adds no values. -/
theorem CreateRequest.all_run {P : Sheet → Prop} {d : Directory} (all : d.All P)
    (r : CreateRequest) : (r.run d).2.All P := by
  unfold run
  split
  · exact all
  · simp only
    split
    · exact all.create _ _
    · exact all.create _ _

/-! ### Histories -/

/-- What adding data keeps holds of all sheets that are reached. -/
theorem Directory.Reached.all {P : Sheet → Prop} {d : Directory} (reached : d.Reached)
    (added : ∀ (r : AddRequest) (d : Directory), d.All P → (r.run d).2.All P) : d.All P := by
  induction reached with
  | empty => exact .empty
  | create r _ ih => exact CreateRequest.all_run ih r
  | add r _ ih => exact added r _ ih

end SheetActions
