import SheetActions.Proofs.Histories

/-!
What creating a workbook does to a directory.

A new workbook is put where nothing is, and folders that are missing on the way are made first. So
the directory afterwards is a `Widened` one: it has what was there, and maybe more folders, each of
them on the way along the path. This holds after every step (`widened_makeFolders`), also when
a later step fails: folders that were made stay. When all steps succeed, there is one more
file, and it is that of the new workbook (`CreateRequest.run_creates`).

Whether the path leads to something is looked at before the folders are made. A path that leads
nowhere only for want of a folder, such as `new/../b.xlsx`, can lead to a file later. What was in
that file is lost, so such paths are left out where files are said to stay (`Spares`). -/
namespace SheetActions

namespace Directory
variable {d d' d'' : Directory} {p q : Path} {place : Place} {file : String}

/-! ### More folders -/

/-- All folders of a directory are in another one. -/
def FoldersIn (d d' : Directory) : Prop :=
  ∀ place, d.node? place = some .folder → d'.node? place = some .folder

theorem enter_eq_ok_iff {here : Place} {component : String} :
    d.enter here component = .ok place ↔
      advance here component = .ok place ∧ d.node? place = some .folder := by
  rw [enter, bind_eq_ok]
  constructor
  · rintro ⟨place', hplace, h⟩
    split at h
    · cases h
      exact ⟨hplace, ‹_›⟩
    · cases h
    · cases h
  · rintro ⟨hplace, hfolder⟩
    exact ⟨place, hplace, by rw [hfolder]; rfl⟩

/-- The way along a path stays the same when there are more folders. -/
theorem FoldersIn.foldlM_enter (h : d.FoldersIn d') {l : List String} {here : Place}
    (hl : l.foldlM d.enter here = .ok place) : l.foldlM d'.enter here = .ok place := by
  induction l generalizing here with
  | nil => exact hl
  | cons c l ih =>
    rw [List.foldlM_cons, bind_eq_ok] at hl ⊢
    obtain ⟨next, hnext, hl⟩ := hl
    obtain ⟨hadvance, hfolder⟩ := enter_eq_ok_iff.mp hnext
    exact ⟨next, enter_eq_ok_iff.mpr ⟨hadvance, h next hfolder⟩, ih hl⟩

/-- A path that is short enough, with a text that a path can have. -/
structure Followable (p : Path) : Prop where
  plain : PathFlaw.ofText? p.text = none
  short : p.text.utf8ByteSize < pathLimit

/-- A path leads to a place by way of the folders that all of its components but the last one lead
to; the path without components leads to the current directory. -/
theorem resolve_eq_ok_iff : d.resolve p = .ok place ↔ Followable p ∧
    (p.components = [] ∧ place = [] ∨ ∃ before last folder, p.components = before ++ [last] ∧
      before.foldlM d.enter [] = .ok folder ∧ advance folder last = .ok place) := by
  unfold resolve
  split
  · rename_i hflaw
    exact iff_of_false nofun fun h => by cases h.1.plain.symm.trans hflaw
  rename_i hplain
  split
  · rename_i hlong
    exact iff_of_false nofun fun h => Nat.not_lt.mpr hlong h.1.short
  rename_i hshort
  rw [and_iff_right ⟨hplain, Nat.not_le.mp hshort⟩]
  rcases List.eq_nil_or_concat p.components with hnil | ⟨before, last, hlast⟩
  · rw [hnil]
    constructor
    · rintro ⟨⟩
      exact .inl ⟨rfl, rfl⟩
    · rintro (⟨_, rfl⟩ | ⟨before, last, _, happend, _⟩)
      · rfl
      · exact absurd happend.symm (List.append_ne_nil_of_right_ne_nil _ (List.cons_ne_nil _ _))
  · rw [hlast, List.concat_eq_append]
    simp only [List.getLast?_concat, List.dropLast_concat, bind_eq_ok, List.append_eq_nil_iff,
      List.cons_ne_nil, and_false, false_and, false_or]
    constructor
    · rintro ⟨folder, hfolder, hadvance⟩
      exact ⟨before, last, folder, rfl, hfolder, hadvance⟩
    · rintro ⟨before', last', folder, heq, hfolder, hadvance⟩
      obtain ⟨rfl, rfl⟩ := List.append_singleton_inj.mp heq
      exact ⟨folder, hfolder, hadvance⟩

theorem FoldersIn.resolve (h : d.FoldersIn d') (hp : d.resolve p = .ok place) :
    d'.resolve p = .ok place := by
  rw [resolve_eq_ok_iff] at hp ⊢
  refine hp.imp_right (Or.imp_right ?_)
  rintro ⟨before, last, folder, hcomponents, hfolder, hadvance⟩
  exact ⟨before, last, folder, hcomponents, h.foldlM_enter hfolder, hadvance⟩

theorem holds_iff : d.holds p = true ↔ ∃ place node, d.find p = .ok (place, node) := by
  unfold holds
  cases d.find p with
  | ok found => exact iff_of_true rfl ⟨found.1, found.2, rfl⟩
  | error => exact iff_of_false nofun nofun

theorem holdsFolder_iff : d.holdsFolder p = true ↔ ∃ place, d.find p = .ok (place, .folder) := by
  unfold holdsFolder
  split
  · rename_i place hfind
    exact iff_of_true rfl ⟨place, hfind⟩
  · rename_i hnone
    exact iff_of_false nofun fun h => h.elim hnone

/-! ### Folders on the way -/

/-- A folder that was missing on the way along a path, and that may be written to. -/
structure AddedOn (p : Path) (d d' : Directory) (place : Place) : Prop where
  missing : d.node? place = none
  folder : d'.node? place = some .folder
  writable : d'.isReadOnly place = false
  onTheWay : ∃ before, before <+: p.components ∧ d'.resolve ⟨before⟩ = .ok place

/-- Nothing has changed but for folders that were missing on the way along a path. -/
def Widened (p : Path) (d d' : Directory) : Prop :=
  ∀ place, SameAt d d' place ∨ AddedOn p d d' place

/-- What is put at a place changes no other one. -/
theorem sameAt_put {other : Place} (node : Node) (h : other ≠ place) :
    SameAt d (d.put place node) other where
  node := by rw [node?_put, if_neg fun heq => h heq.1]
  isReadOnly := by rw [isReadOnly_put, decide_eq_true h, Bool.and_true]

theorem Widened.refl (p : Path) (d : Directory) : Widened p d d :=
  fun _ => .inl .refl

/-- What was there stays. -/
theorem Widened.kept (h : Widened p d d') {node : Node} (hnode : d.node? place = some node) :
    SameAt d d' place := by
  rcases h place with hsame | hadded
  · exact hsame
  · rw [hadded.missing] at hnode
    cases hnode

theorem Widened.foldersIn (h : Widened p d d') : d.FoldersIn d' :=
  fun _ hfolder => (h.kept hfolder).node.trans hfolder

theorem Widened.trans (h : Widened p d d') (h' : Widened p d' d'') : Widened p d d'' := by
  intro place
  rcases h' place with hsame | hadded
  · rcases h place with hsame' | hadded
    · exact .inl (hsame'.trans hsame)
    · obtain ⟨before, hbefore, hplace⟩ := hadded.onTheWay
      exact .inr ⟨hadded.missing, hsame.node.trans hadded.folder,
        hsame.isReadOnly.trans hadded.writable, before, hbefore, h'.foldersIn.resolve hplace⟩
  · rcases h place with hsame' | hfolder
    · exact .inr ⟨hsame'.node.symm.trans hadded.missing, hadded.folder, hadded.writable,
        hadded.onTheWay⟩
    · have hmissing := hadded.missing
      rw [hfolder.folder] at hmissing
      cases hmissing

theorem makeFolder_eq_ok (h : d.makeFolder q = .ok d') :
    ∃ place, d.resolve q = .ok place ∧ d.node? place = none ∧ d' = d.put place .folder := by
  obtain ⟨place, hplace, h⟩ := bind_eq_ok.mp h
  refine ⟨place, hplace, ?_⟩
  cases hnode : d.node? place with
  | none =>
    rw [hnode] at h
    exact ⟨rfl, (add_eq_ok_iff.mp h).2⟩
  | some node =>
    rw [hnode] at h
    cases h

/-- Nothing is given where nothing is. -/
theorem not_isGiven_of_node? (h : d.node? place ≠ some .folder) : ¬ isGiven place := by
  intro hgiven
  rw [node?, if_pos hgiven] at h
  exact h rfl

theorem widened_makeFolder (hq : q.components <+: p.components) (h : d.makeFolder q = .ok d') :
    Widened p d d' := by
  obtain ⟨place, hplace, hnone, rfl⟩ := makeFolder_eq_ok h
  have hput : (d.put place .folder).node? place = some .folder := by
    rw [node?_put, if_pos ⟨rfl, not_isGiven_of_node? (by rw [hnone]; exact nofun)⟩]
  have hfolders : d.FoldersIn (d.put place .folder) := by
    intro other hother
    rw [node?_put]
    split
    · rfl
    · exact hother
  intro other
  by_cases hother : other = place
  · rw [hother]
    have hwritable : (d.put place .folder).isReadOnly place = false := by simp [isReadOnly_put]
    exact .inr ⟨hnone, hput, hwritable, q.components, hq, hfolders.resolve hplace⟩
  · exact .inl (sameAt_put _ hother)

theorem state_settle (file : String) (q : Path) (d : Directory) (flaw : PathFlaw) :
    (settle file q d flaw).state = d := by
  unfold settle
  split <;> rfl

/-- Making folders only widens a directory, by induction on the components from the last one. -/
theorem widened_makeFolders (file : String) {components : List String}
    (h : components.reverse <+: p.components) :
    Widened p d (makeFolders file d components).state := by
  induction components generalizing d with
  | nil => exact .refl p d
  | cons component before ih =>
    have hbefore : before.reverse <+: p.components := by
      rw [List.reverse_cons] at h
      exact (List.prefix_append _ _).trans h
    unfold makeFolders
    simp only
    split
    · exact widened_makeFolder h ‹_›
    · refine Progress.state_andThen (Q := Widened p d) (ih hbefore) fun d' hd' => ?_
      split
      · exact hd'.trans (widened_makeFolder h ‹_›)
      · rw [state_settle]
        exact hd'
    · rw [state_settle]
      exact .refl p d

/-! ### The place of the new file -/

theorem isPresent_eq_ok {b : Bool} (h : d.isPresent p = .ok b) : d.holds p = b := by
  unfold isPresent at h
  unfold holds
  split at h
  · rename_i found hfind
    cases h
    rw [hfind]
    rfl
  · cases h
  · rename_i hfind
    cases h
    rw [hfind]
    rfl

/-- Folders are made if the folder of a file is not there. -/
theorem state_ensureFolder (d : Directory) (file : String) :
    (d.ensureFolder file).state = d ∨
      (d.holds (Path.ofText file).parent = false ∧
        Widened (Path.ofText file).parent d (d.ensureFolder file).state) := by
  unfold ensureFolder
  extract_lets folder
  split
  · exact .inl rfl
  · exact .inl rfl
  · rename_i hparent
    refine .inr ⟨isPresent_eq_ok hparent, widened_makeFolders file ?_⟩
    rw [List.reverse_reverse]

theorem state_andThen_requireAccess (file : String) (made : Progress Directory) :
    (made.andThen (requireAccess file)).state = made.state :=
  Progress.state_andThen (Q := (· = made.state)) rfl fun d hd => by
    rw [state_requireAccess, hd]

/-- Before a workbook is created, folders are made if both its path and the folder of it lead
nowhere. -/
theorem state_prepare (d : Directory) (file : String) :
    (d.prepare file).state = d ∨
      (d.holds (Path.ofText file) = false ∧ d.holds (Path.ofText file).parent = false ∧
        Widened (Path.ofText file).parent d (d.prepare file).state) := by
  unfold prepare
  split
  · exact .inl rfl
  · exact .inl rfl
  · rename_i hfile
    rw [state_andThen_requireAccess]
    exact (state_ensureFolder d file).imp_right fun h => ⟨isPresent_eq_ok hfile, h⟩

theorem widened_prepare (d : Directory) (file : String) :
    Widened (Path.ofText file).parent d (d.prepare file).state := by
  rcases state_prepare d file with hsame | ⟨_, _, hwidened⟩
  · rw [hsame]
    exact .refl _ d
  · exact hwidened

theorem holds_of_isWritable (h : d.isWritable p = true) : d.holds p = true := by
  unfold isWritable at h
  split at h
  · exact holds_iff.mpr ⟨_, _, ‹_›⟩
  · cases h

theorem requireAccess_eq_done (h : requireAccess file d = .done d') :
    d' = d ∧ d.isWritable (Path.ofText file).parent = true := by
  unfold requireAccess at h
  split at h
  · cases h
    exact ⟨rfl, ‹_›⟩
  · cases h

/-- Then the path leads nowhere, and the folder of it is there and may be written to. -/
theorem isWritable_of_prepare (h : d.prepare file = .done d') :
    d.holds (Path.ofText file) = false ∧ d'.isWritable (Path.ofText file).parent = true := by
  unfold prepare at h
  split at h
  · cases h
  · cases h
  · rename_i hfile
    obtain ⟨d₁, _, h⟩ := Progress.andThen_eq_done.mp h
    obtain ⟨rfl, hwritable⟩ := requireAccess_eq_done h
    exact ⟨isPresent_eq_ok hfile, hwritable⟩

theorem node?_nil (d : Directory) : d.node? [] = some .folder := rfl

/-- The components of a path lead by way of folders to what the path leads to. -/
theorem node?_of_foldlM {folder : Place} (hl : p.components.foldlM d.enter [] = .ok folder)
    (h : d.resolve p = .ok place) : d.node? place = some .folder := by
  obtain ⟨_, ⟨_, rfl⟩ | ⟨before, last, here, hcomponents, hhere, hadvance⟩⟩ :=
    resolve_eq_ok_iff.mp h
  · exact node?_nil d
  · rw [hcomponents, List.foldlM_append, bind_eq_ok] at hl
    obtain ⟨here', hhere', hlast⟩ := hl
    cases hhere.symm.trans hhere'
    simp only [List.foldlM_cons, List.foldlM_nil, bind_pure] at hlast
    obtain ⟨hadvance', hfolder⟩ := enter_eq_ok_iff.mp hlast
    cases hadvance.symm.trans hadvance'
    exact hfolder

/-- Only what starts a path from the top is its own folder. -/
theorem parent_cases (p : Path) : p.parent = ⟨p.components.dropLast⟩ ∨
    ∃ c, Path.isRoot c = true ∧ p.components = [c] ∧ p.parent = p := by
  obtain ⟨components⟩ := p
  unfold Path.parent
  split
  · rename_i c hc
    cases hc
    split
    · exact .inr ⟨c, ‹_›, rfl, rfl⟩
    · exact .inl rfl
  · exact .inl rfl

/-- What holds something that is no folder is a folder. -/
theorem holdsFolder_parent (hp : d.resolve p = .ok place) (hplace : d.node? place ≠ some .folder)
    (h : d.holds p.parent = true) : d.holdsFolder p.parent = true := by
  obtain ⟨parent, node, hfind⟩ := holds_iff.mp h
  obtain ⟨hparent, hnode⟩ := find_eq_ok_iff.mp hfind
  obtain ⟨_, ⟨_, rfl⟩ | ⟨before, last, folder, hcomponents, hfolder, hadvance⟩⟩ :=
    resolve_eq_ok_iff.mp hp
  · exact absurd (node?_nil d) hplace
  rcases parent_cases p with hdrop | ⟨c, hroot, hc, _⟩
  · rw [hdrop, hcomponents, List.dropLast_concat] at hparent
    rw [node?_of_foldlM hfolder hparent] at hnode
    cases hnode
    exact holdsFolder_iff.mpr ⟨parent, hfind⟩
  · -- the top is a folder itself
    obtain ⟨_, rfl⟩ : before = [] ∧ last = c := by
      have heq := hcomponents.symm.trans hc
      simpa using List.append_singleton_inj.mp (heq.trans (List.nil_append [c]).symm)
    rw [advance, if_pos hroot] at hadvance
    cases hadvance
    refine absurd ?_ hplace
    rw [node?, isGiven, if_pos]
    simp [hroot]

theorem store_eq_done {named : String} {content : Content}
    (h : d.store file named content = .done d') : ∃ place,
      d.resolve (Path.ofText file) = .ok place ∧ d.node? place ≠ some .folder ∧
        d' = d.put place (.file content) := by
  unfold store at h
  split at h
  · cases h
    exact writeFile_eq_ok ‹_›
  · cases h

theorem state_store_of_fault {named : String} {content : Content} {f : Fault}
    (h : (d.store file named content).fault = some f) :
    (d.store file named content).state = d := by
  unfold store at h ⊢
  split at h
  · cases h
  · rfl

theorem create_eq_done {names : List String} (h : d.create file names = .done d') :
    ∃ d₁, d.prepare file = .done d₁ ∧
      d₁.store file (Path.ofText file).text (.fresh names) = .done d' := by
  obtain ⟨d₁, hprepare, h⟩ := Progress.andThen_eq_done.mp h
  split at h
  · cases h
  · exact ⟨d₁, hprepare, h⟩

/-- When a workbook is not created, no more is done than to make folders. -/
theorem state_create_of_fault {names : List String} {f : Fault}
    (h : (d.create file names).fault = some f) :
    (d.create file names).state = (d.prepare file).state := by
  unfold create at h ⊢
  rcases hprepare : d.prepare file with ⟨d₁, _ | g⟩
  · rw [hprepare] at h
    simp only [Progress.andThen] at h ⊢
    split at h
    · rfl
    · rename_i hnames
      exact state_store_of_fault h
  · rfl

/-! ### Files that stay -/

/-- The place that the components of a path spell, whatever is on the way. -/
def spelled (p : Path) : Except PathFlaw Place :=
  p.components.foldlM advance []

/-- A path that leads nowhere does not spell the place of a file either. -/
def Spares (d : Directory) (p : Path) : Prop :=
  d.holds p = false → ∀ place content, spelled p = .ok place →
    d.node? place ≠ some (.file content)

theorem foldlM_advance {l : List String} {here : Place} (h : l.foldlM d.enter here = .ok place) :
    l.foldlM advance here = .ok place := by
  induction l generalizing here with
  | nil => exact h
  | cons c l ih =>
    rw [List.foldlM_cons, bind_eq_ok] at h ⊢
    obtain ⟨next, hnext, h⟩ := h
    exact ⟨next, (enter_eq_ok_iff.mp hnext).1, ih h⟩

theorem spelled_of_resolve (h : d.resolve p = .ok place) : spelled p = .ok place := by
  obtain ⟨_, ⟨hnil, rfl⟩ | ⟨before, last, folder, hcomponents, hfolder, hadvance⟩⟩ :=
    resolve_eq_ok_iff.mp h
  · rw [spelled, hnil]
    rfl
  · rw [spelled, hcomponents, List.foldlM_append, bind_eq_ok]
    refine ⟨folder, foldlM_advance hfolder, ?_⟩
    rw [List.foldlM_cons, hadvance]
    rfl

/-- One component further on is a place on the way, a name in the folder, or the top. -/
theorem advance_cases {here : Place} {component : String}
    (h : advance here component = .ok place) :
    place <+: here ∨ place = here ++ [component] ∨
      (Path.isRoot component = true ∧ place = [component]) := by
  unfold advance at h
  split at h
  · cases h
    exact .inr (.inr ⟨‹_›, rfl⟩)
  split at h
  · rename_i hup
    split at h
    · rename_i hnone
      cases h
      rw [List.getLast?_eq_none_iff.mp hnone, hup]
      exact .inr (.inl rfl)
    split at h
    · cases h
      exact .inr (.inl (by rw [hup]))
    split at h
    · cases h
      exact .inl (List.prefix_refl _)
    · cases h
      exact .inl (List.dropLast_prefix _)
  · split at h
    · cases h
    · cases h
      exact .inr (.inl rfl)

/-- All on the way to a folder are folders. -/
theorem folders_of_foldlM {l : List String} {here : Place}
    (hhere : ∀ q, q <+: here → d.node? q = some .folder) (h : l.foldlM d.enter here = .ok place) :
    ∀ q, q <+: place → d.node? q = some .folder := by
  induction l generalizing here with
  | nil =>
    cases h
    exact hhere
  | cons c l ih =>
    rw [List.foldlM_cons, bind_eq_ok] at h
    obtain ⟨next, hnext, h⟩ := h
    obtain ⟨hadvance, hfolder⟩ := enter_eq_ok_iff.mp hnext
    refine ih (fun q hq => ?_) h
    rcases advance_cases hadvance with hback | rfl | ⟨_, rfl⟩
    · exact hhere q (hq.trans hback)
    · rcases List.prefix_concat_iff.mp hq with rfl | hq
      · exact hfolder
      · exact hhere q hq
    · rcases List.prefix_cons_iff.mp hq with rfl | ⟨t, rfl, ht⟩
      · exact node?_nil d
      · rwa [List.prefix_nil.mp ht]

/-- Where nothing is, a file is added to the folder that the parent of its path leads to. -/
theorem isReadOnly_dropLast (hp : d.resolve p = .ok place) (hplace : d.node? place = none)
    (h : d.isWritable p.parent = true) : d.isReadOnly place.dropLast = false := by
  have hgiven : isGiven place = false := by
    rw [← Bool.not_eq_true]
    exact not_isGiven_of_node? (by rw [hplace]; exact nofun)
  unfold isWritable at h
  split at h
  swap
  · cases h
  rename_i parent node hfind
  have hparent := spelled_of_resolve (find_eq_ok_iff.mp hfind).1
  obtain ⟨_, ⟨_, rfl⟩ | ⟨before, last, folder, hcomponents, hfolder, hadvance⟩⟩ :=
    resolve_eq_ok_iff.mp hp
  · cases (node?_nil d).symm.trans hplace
  have hfolders := folders_of_foldlM
    (fun q hq => List.prefix_nil.mp hq ▸ node?_nil d) hfolder
  rcases advance_cases hadvance with hback | rfl | ⟨hroot, rfl⟩
  · cases (hfolders place hback).symm.trans hplace
  · rcases parent_cases p with hdrop | ⟨c, hroot, hc, _⟩
    · rw [spelled, hdrop, hcomponents, List.dropLast_concat] at hparent
      cases (foldlM_advance hfolder).symm.trans hparent
      rw [List.dropLast_concat]
      simpa using h
    · -- the top is always there
      obtain ⟨rfl, rfl⟩ := List.append_singleton_inj.mp
        ((hcomponents.symm.trans hc).trans (List.nil_append [c]).symm)
      rw [advance, if_pos hroot] at hadvance
      rw [← Except.ok.inj hadvance] at hgiven
      simp [isGiven, hroot] at hgiven
  · simp [isGiven, hroot] at hgiven

/-- A workbook that is created is in a new file, in a folder; but for that file, which may be
written to, the directory is only widened. -/
structure Created (file : String) (names : List String) (d d' : Directory) (place : Place) :
    Prop where
  absent : d.holds (Path.ofText file) = false
  noFolder : d.node? place ≠ some .folder
  isNew : d'.find (Path.ofText file) = .ok (place, .file (.fresh names))
  writable : d'.isReadOnly place = false
  folder : d'.holdsFolder (Path.ofText file).parent = true
  others : ∀ other, other ≠ place → SameAt d d' other ∨
    AddedOn (Path.ofText file).parent d d' other

theorem created_of_create {names : List String} (h : d.create file names = .done d') :
    ∃ place, Created file names d d' place := by
  obtain ⟨d₁, hprepare, hstore⟩ := create_eq_done h
  have hwidened : Widened (Path.ofText file).parent d d₁ := by
    have := widened_prepare d file
    rwa [hprepare] at this
  obtain ⟨habsent, hparent⟩ := isWritable_of_prepare hprepare
  obtain ⟨place, hplace, hnode, rfl⟩ := store_eq_done hstore
  have hfolders : d₁.FoldersIn (d₁.put place (.file (.fresh names))) := by
    intro other hother
    rw [node?_put, if_neg]
    · exact hother
    · rintro ⟨rfl, _⟩
      exact hnode hother
  refine ⟨place, habsent, fun h => hnode ((hwidened.kept h).node.trans h), ?_, ?_, ?_,
    fun other hother => ?_⟩
  · refine find_eq_ok_iff.mpr ⟨hfolders.resolve hplace, ?_⟩
    rw [node?_put, if_pos ⟨rfl, not_isGiven_of_node? hnode⟩]
  · simp [isReadOnly_put]
  · obtain ⟨folder, hfind⟩ :=
      holdsFolder_iff.mp (holdsFolder_parent hplace hnode (holds_of_isWritable hparent))
    obtain ⟨hfolder, hat⟩ := find_eq_ok_iff.mp hfind
    exact holdsFolder_iff.mpr
      ⟨folder, find_eq_ok_iff.mpr ⟨hfolders.resolve hfolder, hfolders folder hat⟩⟩
  · have hput := sameAt_put (d := d₁) (.file (.fresh names)) hother
    rcases hwidened other with hsame | hadded
    · exact .inl (hsame.trans hput)
    · obtain ⟨before, hbefore, hway⟩ := hadded.onTheWay
      exact .inr ⟨hadded.missing, hput.node.trans hadded.folder,
        hput.isReadOnly.trans hadded.writable, before, hbefore, hfolders.resolve hway⟩

/-- The file can be saved to if its name is short enough. -/
theorem Created.canSave_iff {names : List String} (h : Created file names d d' place) :
    d'.CanSave file ↔ endFlaw? file = none := by
  refine ⟨CanSave.name, fun hname => ⟨hname, ?_⟩⟩
  rw [isWritable, h.isNew]
  simp [h.writable]

/-- Nothing was at the place of the file, unless the path spelled a file to which it did not lead.
-/
theorem Created.node?_eq_none_iff {names : List String} (h : Created file names d d' place) :
    d.node? place = none ↔ d.Spares (Path.ofText file) := by
  have hspelled := spelled_of_resolve (find_eq_ok_iff.mp h.isNew).1
  constructor
  · rintro hnone _ other content hother hfile
    cases hspelled.symm.trans hother
    cases hnone.symm.trans hfile
  · intro spares
    cases hnode : d.node? place with
    | none => rfl
    | some node =>
      cases node with
      | file content => exact absurd hnode (spares h.absent place content hspelled)
      | folder => exact absurd hnode h.noFolder

/-- All that was there stays, unless something was at the place of the file. -/
theorem Created.kept {names : List String} (h : Created file names d d' place)
    (hnone : d.node? place = none) {other : Place} {node : Node}
    (hnode : d.node? other = some node) : SameAt d d' other := by
  have hother : other ≠ place := by
    rintro rfl
    cases hnone.symm.trans hnode
  rcases h.others other hother with hsame | hadded
  · exact hsame
  · cases hadded.missing.symm.trans hnode

/-- The workbook of a new file has the given worksheets in order, and all of them are blank. -/
theorem readableWorkbook_fresh (names : List String) :
    ∃ w, readableWorkbook (.fresh names) = .ok w ∧ w.names = names ∧ ∀ e ∈ w.sheets, e.2 = ∅ := by
  refine ⟨.blank names, rfl, ?_, fun e he => ?_⟩
  · simp [Workbook.names, Workbook.blank, Function.comp_def]
  · obtain ⟨name, _, rfl⟩ := List.mem_map.mp he
    rfl

end Directory

namespace CreateRequest
open Directory

/-- What a run changes, by how far it comes: nothing, or folders only, or all of it. -/
inductive Ended (r : CreateRequest) (d : Directory) : Outcome × Directory → Prop where
  | stopped {f : Fault} : Ended r d (.ofFault "" f, d)
  | widened {file : String} {names : List String} {f : Fault} {d' : Directory} :
      r.names = .ok (file, names) → d.holds (Path.ofText file) = false →
      d.holds (Path.ofText file).parent = false → Widened (Path.ofText file).parent d d' →
      Ended r d (.ofFault "" f, d')
  | created {file : String} {names : List String} {d' : Directory} {place : Place} :
      r.names = .ok (file, names) → Created file names d d' place → Ended r d (outcome file, d')

theorem ended_run (r : CreateRequest) (d : Directory) : r.Ended d (r.run d) := by
  unfold run
  split
  · exact .stopped
  · rename_i file names hnames
    simp only
    split
    · rename_i f hfault
      rw [state_create_of_fault hfault]
      rcases state_prepare d file with hsame | ⟨habsent, hparent, hwidened⟩
      · rw [hsame]
        exact .stopped
      · exact .widened hnames habsent hparent hwidened
    · rename_i hdone
      have hcreate : d.create file names = .done (d.create file names).state := by
        rw [Progress.done, ← hdone]
      obtain ⟨place, hcreated⟩ := created_of_create hcreate
      exact .created hnames hcreated

/-- Where the path leads nowhere, and the folder of it is there but must not be written to, the
permission is denied and nothing changes. -/
theorem run_of_denied {r : CreateRequest} {d : Directory} {file : String} {names : List String}
    (hnames : r.names = .ok (file, names)) (hfile : d.isPresent (Path.ofText file) = .ok false)
    (hfolder : d.isPresent (Path.ofText file).parent = .ok true)
    (hdenied : d.isWritable (Path.ofText file).parent = false) :
    r.run d = (.ofFault "" (.refusal (.permissionDenied file "write")), d) := by
  have hensured : d.ensureFolder file = ⟨d, none⟩ := by
    unfold ensureFolder
    simp only [hfolder]
  have hprepare : d.prepare file = .stopped d (.refusal (.permissionDenied file "write")) := by
    unfold Directory.prepare
    simp only [hfile, hensured, Progress.andThen, requireAccess, hdenied, Bool.false_eq_true,
      if_false]
  simp only [run, hnames, create, hprepare, Progress.stopped, Progress.andThen]

/-- **Creating a workbook.** A run that fails changes nothing, or else there was nothing at the path
and no folder for it, and then no more has changed than that folders on the way were made. A run
that succeeds puts a file where its path did not lead to anything, whose workbook has the given
worksheets, all of them blank, and makes the folders that are missing on the way; nothing else
changes. Nothing was at the place of the file exactly if the path did not spell a file to which it
came to lead only once folders were made. In that case, and if the run fails, what was there stays.
-/
theorem run_creates (r : CreateRequest) (d : Directory) :
    ((r.run d).1.isSuccess = false → (r.run d).2 = d ∨
      ∃ file names, r.names = .ok (file, names) ∧ d.holds (Path.ofText file) = false ∧
        d.holds (Path.ofText file).parent = false ∧
        Widened (Path.ofText file).parent d (r.run d).2) ∧
      ((r.run d).1.isSuccess = true → ∃ file names place, r.names = .ok (file, names) ∧
        Created file names d (r.run d).2 place ∧
        (∃ w, readableWorkbook (.fresh names) = .ok w ∧ w.names = names ∧
          ∀ e ∈ w.sheets, e.2 = ∅) ∧
        (d.node? place = none ↔ d.Spares (Path.ofText file))) ∧
      ((∀ file names, r.names = .ok (file, names) → (r.run d).1.isSuccess = true →
          d.Spares (Path.ofText file)) →
        ∀ place node, d.node? place = some node → SameAt d (r.run d).2 place) := by
  have ended := ended_run r d
  generalize r.run d = result at ended ⊢
  cases ended with
  | stopped =>
    exact ⟨fun _ => .inl rfl, fun h => by simp [Outcome.isSuccess_ofFault] at h,
      fun _ _ _ _ => .refl⟩
  | widened hnames habsent hparent hwidened =>
    refine ⟨fun _ => .inr ⟨_, _, hnames, habsent, hparent, hwidened⟩, fun h => ?_, ?_⟩
    · simp [Outcome.isSuccess_ofFault] at h
    · exact fun _ place node hnode => hwidened.kept hnode
  | created hnames hcreated =>
    refine ⟨fun h => ?_, fun _ => ?_, fun spares place node hnode => ?_⟩
    · cases h
    · exact ⟨_, _, _, hnames, hcreated, readableWorkbook_fresh _, hcreated.node?_eq_none_iff⟩
    · exact hcreated.kept (hcreated.node?_eq_none_iff.mpr (spares _ _ hnames rfl)) hnode

/-- A new file in a folder that may have to be made. -/
def inFolder (sheetNames : String) : CreateRequest :=
  ⟨"new/b.xlsx", sheetNames, ","⟩

theorem names_inFolder : (inFolder "S,T").names = .ok ("new/b.xlsx", ["S", "T"]) :=
  toOption_eq_some.mp (by decide +kernel)

theorem spares_empty (p : Path) : (∅ : Directory).Spares p := by
  intro _ place content _ hnode
  unfold node? at hnode
  split at hnode <;> cases hnode

/-- In an empty directory the folder is made and the workbook is created in it. If the name of the
worksheet is refused, the folder is made all the same. -/
theorem run_creates_inFolder :
    ((inFolder "S,T").run ∅).1.isSuccess = true ∧
      Created "new/b.xlsx" ["S", "T"] ∅ ((inFolder "S,T").run ∅).2 ["new", "b.xlsx"] ∧
      (∃ w, readableWorkbook (.fresh ["S", "T"]) = .ok w ∧ w.names = ["S", "T"] ∧
        ∀ e ∈ w.sheets, e.2 = ∅) ∧
      (∅ : Directory).node? ["new", "b.xlsx"] = none ∧
      (∀ place node, (∅ : Directory).node? place = some node →
        SameAt ∅ ((inFolder "S,T").run ∅).2 place) ∧
      ((inFolder "'a").run ∅).1.isSuccess = false ∧
      ((inFolder "'a").run ∅).2.holdsFolder ⟨["new"]⟩ = true ∧
      Widened ⟨["new"]⟩ ∅ ((inFolder "'a").run ∅).2 := by
  have hsuccess : ((inFolder "S,T").run ∅).1.isSuccess = true := by decide +kernel
  have hfailure : ((inFolder "'a").run ∅).1.isSuccess = false := by decide +kernel
  have hmade : ((inFolder "'a").run ∅).2.holdsFolder ⟨["new"]⟩ = true := by decide +kernel
  obtain ⟨file, names, place, hnames, created, hblank, hplace⟩ := (run_creates _ _).2.1 hsuccess
  cases names_inFolder.symm.trans hnames
  have hspelled : spelled (Path.ofText "new/b.xlsx") = .ok ["new", "b.xlsx"] := by rfl
  cases hspelled.symm.trans (spelled_of_resolve (find_eq_ok_iff.mp created.isNew).1)
  refine ⟨hsuccess, created, hblank, hplace.mpr (spares_empty _),
    (run_creates _ _).2.2 fun _ _ _ _ => spares_empty _, hfailure, hmade, ?_⟩
  rcases (run_creates _ _).1 hfailure with hsame | ⟨file, names, hnames, _, _, hwidened⟩
  · rw [hsame] at hmade
    exact absurd hmade (by decide +kernel)
  · have hquoted : (inFolder "'a").names = .ok ("new/b.xlsx", ["'a"]) :=
      toOption_eq_some.mp (by decide +kernel)
    cases hquoted.symm.trans hnames
    exact hwidened

/-- A path that comes to lead to a file once a folder is made: it led to nothing, and the file is
replaced all the same. -/
theorem run_creates_throughFolder :
    let w : Workbook := ⟨[("S", (∅ : Sheet).put 0 0 (some (.text "a")))]⟩
    let d := Directory.ofFile "b.xlsx" w
    let r : CreateRequest := ⟨"new/../b.xlsx", "T", ","⟩
    (r.run d).1.isSuccess = true ∧ d.holds (Path.ofText r.file) = false ∧
      d.node? ["b.xlsx"] = some (.file (.workbook w)) ∧
      (r.run d).2.node? ["b.xlsx"] = some (.file (.fresh ["T"])) := by
  refine ⟨?_, ?_, ?_, ?_⟩
  · decide +kernel
  · decide +kernel
  · rfl
  · rfl

end CreateRequest

end SheetActions
