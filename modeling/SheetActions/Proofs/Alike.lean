import SheetActions.Proofs.Stages

/-! Sheets that a file cannot tell apart.

A file keeps a number as a text, so two sheets can differ and still be the same once they are
saved. They are `Alike` when a file can tell none of their cells apart, their heights are equal
and the columns of both have names, or those of neither. Whatever a request does to a sheet it
does to any other that is alike (`agree_changed`): both changes fail, or the changed sheets
are alike again (`Agree`). -/
namespace SheetActions

/-- What a file can tell of a value: what it keeps of it, and whether it takes it at all. -/
def Value.imprint (v : Value) : Option Value × Bool :=
  (v.stored, v.isStorable)

namespace Sheet
variable {s t u : Sheet}

/-- What a file can tell of a cell. -/
def imprint (s : Sheet) (r c : Nat) : Option (Option Value × Bool) :=
  (s.cell r c).map Value.imprint

theorem imprint_congr {r c i j : Nat} (h : s.cell r c = t.cell i j) :
    s.imprint r c = t.imprint i j :=
  congrArg (Option.map Value.imprint) h

theorem imprint_eq_none_iff {r c : Nat} : s.imprint r c = none ↔ s.cell r c = none :=
  Option.map_eq_none_iff

/-- A file cannot tell one sheet from the other. -/
structure Alike (s t : Sheet) : Prop where
  imprint : ∀ r c, s.imprint r c = t.imprint r c
  height : ∀ r, s.height r = t.height r
  named : s.extent.columns ≤ namedColumns ↔ t.extent.columns ≤ namedColumns

namespace Alike

theorem refl (s : Sheet) : Alike s s :=
  ⟨fun _ _ => rfl, fun _ => rfl, Iff.rfl⟩

theorem symm (h : Alike s t) : Alike t s :=
  ⟨fun r c => (h.imprint r c).symm, fun r => (h.height r).symm, h.named.symm⟩

theorem trans (h₁ : Alike s t) (h₂ : Alike t u) : Alike s u :=
  ⟨fun r c => (h₁.imprint r c).trans (h₂.imprint r c),
    fun r => (h₁.height r).trans (h₂.height r), h₁.named.trans h₂.named⟩

theorem cell_eq_none_iff (h : Alike s t) (r c : Nat) : s.cell r c = none ↔ t.cell r c = none := by
  rw [← imprint_eq_none_iff, h.imprint, imprint_eq_none_iff]

theorem usedRows (h : Alike s t) : s.usedRows = t.usedRows :=
  eq_of_forall_ge_iff fun n => by simp only [usedRows_le_iff, h.cell_eq_none_iff]

/-- What a file keeps of the cells is the same. -/
theorem cell_stored (h : Alike s t) (r c : Nat) : s.stored.cell r c = t.stored.cell r c := by
  have hkept : ∀ x : Sheet, x.stored.cell r c = (x.imprint r c).bind Prod.fst := by
    intro x
    rw [Sheet.cell_stored, Sheet.imprint]
    cases x.cell r c <;> rfl
  rw [hkept, hkept, h.imprint]

theorem savable (h : Alike s t) (hs : s.Savable) : t.Savable where
  columns := h.named.mp hs.columns
  storable := fun r c v hv => by
    have himprint := h.imprint r c
    simp only [Sheet.imprint, hv, Option.map_some, Option.map_eq_some_iff] at himprint
    obtain ⟨w, hw, hsame⟩ := himprint
    have hstorable : w.isStorable = v.isStorable := congrArg Prod.snd hsame
    rw [← hstorable]
    exact hs.storable r c w hw

theorem put (h : Alike s t) (r c : Nat) (v : Option Value) : Alike (s.put r c v) (t.put r c v) where
  imprint := fun i j => by
    have hsame := h.imprint i j
    simp only [Sheet.imprint, cell_put] at hsame ⊢
    split
    · rfl
    · exact hsame
  height := h.height
  named := by
    show max _ _ ≤ _ ↔ max _ _ ≤ _
    rw [Nat.max_le, Nat.max_le, h.named]

/-- Opening the same rows keeps sheets alike. -/
theorem of_opened {l : List Nat} {o q : Sheet} (h : Alike s t) (ascending : l.Pairwise (· < ·))
    (hs : Opened l s o) (ht : Opened l t q) : Alike o q where
  imprint := fun i c => by
    by_cases hi : i ∈ l
    · exact imprint_congr ((hs.blank i hi c).trans (ht.blank i hi c).symm)
    · obtain ⟨k, rfl⟩ := exists_skip_eq ascending hi
      rw [imprint_congr (hs.kept k c), imprint_congr (ht.kept k c), h.imprint]
  height := fun i => by
    rw [hs.height, ht.height, hs.usedRows, ht.usedRows, h.usedRows, h.height]
  named := by rw [hs.columns, ht.columns, h.named]

end Alike

/-! ### Work on sheets -/

/-- Two pieces of work both fail, or they lead to sheets that are alike. -/
def Agree (x y : Option Sheet) : Prop :=
  Option.Rel Alike x y

namespace Agree
variable {x y z : Option Sheet}

theorem refl (x : Option Sheet) : Agree x x := by
  cases x with
  | none => exact .none
  | some s => exact .some (.refl s)

theorem symm (h : Agree x y) : Agree y x := by
  cases h with
  | none => exact .none
  | some hst => exact .some hst.symm

theorem trans (h₁ : Agree x y) (h₂ : Agree y z) : Agree x z := by
  cases h₁ with
  | none => exact h₂
  | some hst =>
    cases h₂ with
    | some htu => exact .some (hst.trans htu)

theorem bind {f g : Sheet → Option Sheet} (h : Agree x y)
    (hfg : ∀ s t, Alike s t → Agree (f s) (g t)) : Agree (x.bind f) (y.bind g) := by
  cases h with
  | none => exact .none
  | some hst => exact hfg _ _ hst

theorem bind_left {f g : Sheet → Option Sheet} (x : Option Sheet) (hfg : ∀ s, Agree (f s) (g s)) :
    Agree (x.bind f) (x.bind g) := by
  cases x with
  | none => exact .none
  | some s => exact hfg s

/-- Work that leads to a sheet can be replaced by work that agrees with it. -/
theorem of_eq_some (h : Agree x y) (hs : x = some s) : ∃ t, y = some t ∧ Alike s t := by
  subst hs
  cases h with
  | some hst => exact ⟨_, rfl, hst⟩

end Agree

instance : Trans Agree Agree Agree := ⟨Agree.trans⟩

theorem agree_of_eq {x y : Option Sheet} (h : x = y) : Agree x y :=
  h ▸ Agree.refl x

/-! ### Opening rows -/

/-- Work that fails for two sheets or for none agrees if it leads to sheets that are alike. -/
theorem agree_of_fault_iff {p q : Progress Sheet} {f : Sheet → Sheet}
    (hiff : p.fault = none ↔ q.fault = none)
    (alike : p.fault = none → q.fault = none → p.state.Alike (f q.state)) :
    Agree p.end? (q.end?.map f) := by
  obtain ⟨o, _ | fault⟩ := p <;> obtain ⟨o', _ | fault'⟩ := q
  · exact .some (alike rfl rfl)
  · cases hiff.mp rfl
  · cases hiff.mpr rfl
  · exact .none

/-- Runs of the same rows are opened alike on sheets that are alike. -/
theorem agree_openRuns {rs rs' : List Run} (h : s.Alike t)
    (same : rs.flatMap Run.toList = rs'.flatMap Run.toList)
    (ascending : (rs.flatMap Run.toList).Pairwise (· < ·)) :
    Agree (s.openRuns rs).end? (t.openRuns rs').end? := by
  rw [← Option.map_id_apply (x := (t.openRuns rs').end?)]
  refine agree_of_fault_iff ?_ fun hs ht => ?_
  · rw [openRuns_fault_iff, openRuns_fault_iff, same, h.usedRows, h.named]
  · have hopened := opened_of_openRuns (same ▸ ascending) ht
    rw [← same] at hopened
    exact h.of_opened ascending (opened_of_openRuns ascending hs) hopened

theorem agree_openRows (h : s.Alike t) (rows : IndexSet) :
    Agree (s.openRows rows).end? (t.openRows rows).end? := by
  rw [openRows_eq_openRuns, openRows_eq_openRuns]
  exact agree_openRuns h rfl (by rw [IndexSet.flatMap_runs]; exact rows.ascending)

/-- Rows can be opened in two goes, those in front first. -/
theorem openRows_append {rows first second : IndexSet}
    (h : rows.toList = first.toList ++ second.toList) :
    Agree (s.openRows rows).end?
      ((s.openRows first).end?.bind fun o => (o.openRows second).end?) := by
  have hruns : (s.openRuns (first.runs ++ second.runs)).end? =
      (s.openRuns first.runs).end?.bind fun o => (o.openRuns second.runs).end? := by
    rw [openRuns, Progress.run_append, Progress.end?_andThen]
    rfl
  have hsame : rows.runs.flatMap Run.toList = (first.runs ++ second.runs).flatMap Run.toList := by
    rw [List.flatMap_append, IndexSet.flatMap_runs, IndexSet.flatMap_runs, IndexSet.flatMap_runs, h]
  simp only [openRows_eq_openRuns]
  rw [← hruns]
  exact agree_openRuns (.refl s) hsame (by rw [IndexSet.flatMap_runs]; exact rows.ascending)

/-! ### Writing -/

theorem agree_writeToken (h : s.Alike t) (overwrite : Bool) (a : Target) :
    Agree (writeToken overwrite s a).end? (writeToken overwrite t a).end? := by
  simp only [end?_writeToken, ne_eq, h.cell_eq_none_iff]
  split
  · exact .none
  · cases contentOf? a.token with
    | none => exact .none
    | some kept => exact .some (h.put a.row a.column kept)

theorem agree_run (h : s.Alike t) (overwrite : Bool) (l : List Target) :
    Agree (Progress.run (writeToken overwrite) s l).end?
      (Progress.run (writeToken overwrite) t l).end? := by
  induction l generalizing s t with
  | nil => exact .some h
  | cons a l ih =>
    rw [Progress.run_cons, Progress.run_cons, Progress.end?_andThen, Progress.end?_andThen]
    exact (agree_writeToken h overwrite a).bind fun _ _ => ih

theorem agree_writeRows (h : s.Alike t) (data : Payload) (rows columns : IndexSet)
    (overwrite : Bool) :
    Agree (s.writeRows data rows columns overwrite).end?
      (t.writeRows data rows columns overwrite).end? := by
  unfold writeRows
  split
  · exact .none
  · exact agree_run h overwrite _

end Sheet

/-! ### Requests -/

namespace AddRequest
variable {r : AddRequest} {s t : Sheet} {p : Plan}

/-- The sheet that a request makes of a sheet. -/
def changed (r : AddRequest) (s : Sheet) : Option Sheet :=
  (r.change s).toOption.map Prod.snd

/-- The tokens of the data and then those of the header, as far as they can be written. -/
theorem toOption_write : (r.write p s).toOption =
    (s.writeRows p.data p.rows p.columns r.overwrite).end?.bind fun m =>
      r.headerTokens.toOption.bind fun header => (m.writeHeader header).end? := by
  simp only [write, toOption_bind]
  rfl

theorem changed_eq : r.changed s =
    (r.plan s).toOption.bind fun p =>
      (r.openTargets p s).end?.bind fun o => (r.write p o).toOption := by
  simp only [changed, change, edit, toOption_bind, toOption_mapError]
  cases (r.plan s).toOption with
  | none => rfl
  | some p =>
    simp only [Option.bind_some]
    show (((r.openTargets p s).end?.bind fun o => (r.write p o).toOption).bind _).map _ =
      (r.openTargets p s).end?.bind fun o => (r.write p o).toOption
    cases (r.openTargets p s).end?.bind fun o => (r.write p o).toOption <;> rfl

theorem changed_eq_some {e : Sheet} : r.changed s = some e ↔
    ∃ p, r.plan s = .ok p ∧ r.edit p s = .ok e := by
  simp only [changed, Option.map_eq_some_iff, toOption_eq_some, Prod.exists, change, bind_eq_ok,
    mapError_eq_ok]
  constructor
  · rintro ⟨_, _, ⟨p, hp, _, he, hpair⟩, rfl⟩
    cases hpair
    exact ⟨_, hp, he⟩
  · rintro ⟨p, hp, he⟩
    exact ⟨p, e, ⟨p, hp, e, he, rfl⟩, rfl⟩

/-- Where data goes depends on the used rows only. -/
theorem plan_congr (h : s.usedRows = t.usedRows) : r.plan s = r.plan t := by
  simp only [plan, reservesHeader, h]

/-- Sheets that are alike are changed alike. -/
theorem agree_changed (h : s.Alike t) : Sheet.Agree (r.changed s) (r.changed t) := by
  rw [changed_eq, changed_eq, plan_congr h.usedRows]
  cases (r.plan t).toOption with
  | none => exact .none
  | some p =>
    have hopen : Sheet.Agree (r.openTargets p s).end? (r.openTargets p t).end? := by
      unfold openTargets
      split
      · exact .some h
      · exact Sheet.agree_openRows h p.rows
    refine hopen.bind fun o q hoq => ?_
    rw [toOption_write, toOption_write]
    refine (Sheet.agree_writeRows hoq ..).bind fun m n hmn => ?_
    cases r.headerTokens.toOption with
    | none => exact .none
    | some header => exact Sheet.agree_run hmn true _

end AddRequest

end SheetActions
