import SheetActions.Proofs.Alike
import SheetActions.Proofs.Columns

/-! Inserting in parts.

A request that inserts opens its rows and fills them (`fill`). Filling a row has no part in
opening the rows behind it, so the two can change places (`fill_comm`): rows can be opened and
filled in two goes, those in front first, and the sheet comes out the same (`fill_append`). A
request does what two requests do one after the other if its plan joins their plans
(`agree_changed_of_joins`). -/
namespace SheetActions

namespace Sheet
variable {s t o e : Sheet} {rows first second : IndexSet} {l m : List Target}

/-! ### Writing in front of rows that are opened -/

theorem openRows_fault_iff : (s.openRows rows).fault = none ↔
    (∀ i ∈ rows, s.usedRows ≤ i) ∨
      (grown rows.toList s.usedRows ≤ maxRowIndex + 1 ∧ s.extent.columns ≤ namedColumns) := by
  rw [openRows_eq_openRuns, openRuns_fault_iff, IndexSet.flatMap_runs]
  rfl

/-- A blank cell that is given a content can only make more rows used. -/
theorem usedRows_put {r c : Nat} {v : Option Value} (blank : s.cell r c = none) :
    (s.put r c v).usedRows = s.usedRows ∨
      s.usedRows ≤ r + 1 ∧ (s.put r c v).usedRows ≤ r + 1 := by
  have hother : ∀ i j, i ≠ r → (s.put r c v).cell i j = s.cell i j := fun i j hi => by
    rw [cell_put, if_neg fun h => hi h.1]
  by_cases hused : r < s.usedRows
  · refine .inl (Nat.le_antisymm (usedRows_le_iff.mpr fun i j hi => ?_)
      (usedRows_le_iff.mpr fun i j hi => ?_))
    · rw [hother i j (by omega)]
      exact cell_of_usedRows_le hi j
    · have hnone := cell_of_usedRows_le hi j
      rw [cell_put] at hnone
      split at hnone
      · rename_i hat
        rw [hat.1, hat.2]
        exact blank
      · exact hnone
  · refine .inr ⟨by omega, usedRows_le_iff.mpr fun i j hi => ?_⟩
    rw [hother i j (by omega)]
    exact cell_of_usedRows_le (by omega) j

section PutOpenRows
variable {r c : Nat} {v : Option Value} (blank : s.cell r c = none) (below : ∀ i ∈ rows, r < i)

include blank below in
/-- Rows behind a cell that is given a content are behind the used ones either way, or the used
ones are as many. -/
theorem usedRows_put_of_below : (s.put r c v).usedRows = s.usedRows ∨
    (∀ i ∈ rows, s.usedRows ≤ i) ∧ ∀ i ∈ rows, (s.put r c v).usedRows ≤ i :=
  (usedRows_put blank).imp_right fun h =>
    ⟨fun i hi => Nat.le_trans h.1 (below i hi), fun i hi => Nat.le_trans h.2 (below i hi)⟩

theorem columns_put_le_iff (hc : c < namedColumns) :
    (s.put r c v).extent.columns ≤ namedColumns ↔ s.extent.columns ≤ namedColumns := by
  show max _ (c + 1) ≤ _ ↔ _
  rw [Nat.max_le]
  exact and_iff_left hc

include blank below in
theorem openRows_put_fault_iff (hc : c < namedColumns) :
    ((s.put r c v).openRows rows).fault = none ↔ (s.openRows rows).fault = none := by
  rw [openRows_fault_iff, openRows_fault_iff, columns_put_le_iff hc]
  rcases usedRows_put_of_below (v := v) blank below with hsame | ⟨hs, hp⟩
  · rw [hsame]
  · exact iff_of_true (.inl hp) (.inl hs)

include below in
theorem cell_opened_put {q : Sheet} (before : Opened rows.toList s o)
    (after : Opened rows.toList (s.put r c v) q) (i j : Nat) :
    q.cell i j = (o.put r c v).cell i j := by
  have hfix : skip rows.toList r = r := skip_of_lt below
  by_cases hi : i ∈ rows.toList
  · have hne : ¬(i = r ∧ j = c) := fun hat => Nat.lt_irrefl r (hat.1 ▸ below i hi)
    rw [after.blank i hi, cell_put, if_neg hne, before.blank i hi]
  · obtain ⟨k, rfl⟩ := exists_skip_eq rows.ascending hi
    have hat : skip rows.toList k = r ↔ k = r :=
      ⟨fun h => (skip_strictMono rows.toList).injective (h.trans hfix.symm), fun h => h ▸ hfix⟩
    simp only [after.kept, cell_put, before.kept, hat]

include blank below in
theorem height_opened_put {q : Sheet} (before : Opened rows.toList s o)
    (after : Opened rows.toList (s.put r c v) q) (i : Nat) : q.height i = o.height i := by
  have hiff : i ∈ rows.toList ∧ i < q.usedRows ↔ i ∈ rows.toList ∧ i < o.usedRows := by
    refine and_congr_right fun hi => ?_
    rw [after.usedRows, before.usedRows]
    rcases usedRows_put_of_below (v := v) blank below with hsame | ⟨hs, hp⟩
    · rw [hsame]
    · rw [grown_of_le hs, grown_of_le hp]
      have := hs i hi
      have := hp i hi
      omega
  rw [after.height, before.height]
  simp only [hiff]
  rfl

/-- A blank cell can be given its content before or after rows are opened that lie behind it. -/
theorem put_openRows (v : Option Value) (blank : s.cell r c = none)
    (below : ∀ i ∈ rows, r < i) (hc : c < namedColumns) :
    Agree ((s.put r c v).openRows rows).end? ((s.openRows rows).end?.map (·.put r c v)) := by
  refine agree_of_fault_iff (openRows_put_fault_iff blank below hc) fun hp hs => ?_
  have after := opened_of_openRows hp
  have before := opened_of_openRows hs
  generalize ((s.put r c v).openRows rows).state = q at after
  generalize (s.openRows rows).state = o at before
  have hheight : ∀ i, q.height i = o.height i := height_opened_put blank below before after
  refine ⟨fun i j => imprint_congr (cell_opened_put below before after i j), hheight, ?_⟩
  rw [after.columns, columns_put_le_iff hc, columns_put_le_iff hc, before.columns]

end PutOpenRows

/-! ### Filling rows -/

/-- Opens rows and writes tokens to blank cells. -/
def fill (rows : IndexSet) (l : List Target) (s : Sheet) : Option Sheet :=
  (s.openRows rows).end?.bind fun o => (Progress.run (writeToken false) o l).end?

/-- A token can be written before or after rows are opened that lie behind it. -/
theorem writeToken_openRows {a : Target} (below : ∀ i ∈ rows, a.row < i)
    (hc : a.column < namedColumns) :
    Agree ((writeToken false s a).end?.bind fun t => (t.openRows rows).end?)
      ((s.openRows rows).end?.bind fun o => (writeToken false o a).end?) := by
  have hsame : ((s.openRows rows).end?.bind fun o => (writeToken false o a).end?) =
      if s.cell a.row a.column ≠ none ∨ maxRowIndex < a.row then none
      else (contentOf? a.token).bind fun kept =>
        (s.openRows rows).end?.map (·.put a.row a.column kept) := by
    cases ho : (s.openRows rows).end? with
    | none => cases contentOf? a.token <;> simp
    | some o =>
      have hkept := (opened_of_done (Progress.end?_eq_some.mp ho)).kept a.row a.column
      rw [skip_of_lt below] at hkept
      simp only [Option.bind_some, end?_writeToken, hkept, true_and]
      cases contentOf? a.token <;> rfl
  rw [hsame, end?_writeToken]
  simp only [true_and]
  by_cases hcell : s.cell a.row a.column ≠ none ∨ maxRowIndex < a.row
  · rw [if_pos hcell, if_pos hcell]
    exact .none
  · rw [if_neg hcell, if_neg hcell]
    cases contentOf? a.token with
    | none => exact .none
    | some kept => exact put_openRows kept (by simpa using (not_or.mp hcell).1) below hc

/-- Tokens can be written before or after rows are opened that lie behind all of them. -/
theorem fill_comm (below : ∀ a ∈ l, ∀ i ∈ rows, a.row < i)
    (named : ∀ a ∈ l, a.column < namedColumns) :
    Agree ((Progress.run (writeToken false) s l).end?.bind fun t => (t.openRows rows).end?)
      ((s.openRows rows).end?.bind fun o => (Progress.run (writeToken false) o l).end?) := by
  induction l generalizing s with
  | nil =>
    refine agree_of_eq ?_
    show (s.openRows rows).end? = (s.openRows rows).end?.bind some
    rw [Option.bind_fun_some]
  | cons a l ih =>
    obtain ⟨ha, hl⟩ := List.forall_mem_cons.mp below
    obtain ⟨hc, hnamed⟩ := List.forall_mem_cons.mp named
    simp only [Progress.run_cons, Progress.end?_andThen, Option.bind_assoc]
    calc
      Agree _ ((writeToken false s a).end?.bind fun t => (t.openRows rows).end?.bind fun o =>
          (Progress.run (writeToken false) o l).end?) := Agree.bind_left _ fun t => ih hl hnamed
      Agree _ ((s.openRows rows).end?.bind fun o => (writeToken false o a).end?.bind fun o =>
          (Progress.run (writeToken false) o l).end?) := by
        rw [← Option.bind_assoc, ← Option.bind_assoc]
        exact (writeToken_openRows ha hc).bind fun _ _ h => agree_run h false l

/-- Rows can be opened and filled in two goes, those in front first. -/
theorem fill_append (split : rows.toList = first.toList ++ second.toList)
    (inside : ∀ a ∈ l, a.row ∈ first) (named : ∀ a ∈ l, a.column < namedColumns) :
    Agree (s.fill rows (l ++ m)) ((s.fill first l).bind (·.fill second m)) := by
  have hbelow : ∀ a ∈ l, ∀ i ∈ second, a.row < i := by
    have hsorted := rows.ascending
    rw [split, List.pairwise_append] at hsorted
    exact fun a ha i hi => hsorted.2.2 a.row (inside a ha) i hi
  let write (l : List Target) (o : Sheet) := (Progress.run (writeToken false) o l).end?
  calc
    Agree (s.fill rows (l ++ m))
        (((s.openRows first).end?.bind fun o => (o.openRows second).end?).bind (write (l ++ m))) :=
        (openRows_append split).bind fun _ _ h => agree_run h false (l ++ m)
    Agree _ ((s.openRows first).end?.bind fun o =>
        ((o.openRows second).end?.bind (write l)).bind (write m)) := by
      refine agree_of_eq ?_
      have hrun : ∀ o, write (l ++ m) o = (write l o).bind (write m) := fun o => by
        simp only [write, Progress.run_append, Progress.end?_andThen]
      simp only [Option.bind_assoc, hrun]
    Agree _ ((s.openRows first).end?.bind fun o =>
        ((write l o).bind fun t => (t.openRows second).end?).bind (write m)) :=
      Agree.bind_left _ fun o =>
        (fill_comm hbelow named).symm.bind fun _ _ h => agree_run h false m
    Agree _ ((s.fill first l).bind (·.fill second m)) := by
      refine agree_of_eq ?_
      simp only [fill, write, Option.bind_assoc]

/-! ### What can be saved -/

theorem Savable.of_put {r c : Nat} {v : Option Value} (blank : s.cell r c = none)
    (h : (s.put r c v).Savable) : s.Savable where
  columns := Nat.le_trans (Nat.le_max_left _ _) h.columns
  storable := fun i j w hw => by
    refine h.storable i j w ?_
    rw [cell_put, if_neg]
    · exact hw
    · rintro ⟨rfl, rfl⟩
      rw [blank] at hw
      cases hw

theorem Savable.of_opened {rows : List Nat} (opened : Opened rows s o) (h : o.Savable) :
    s.Savable where
  columns := opened.columns ▸ h.columns
  storable := fun i j w hw => h.storable (skip rows i) j w ((opened.kept i j).trans hw)

/-- Nothing is lost in a sheet that is filled, so what cannot be saved still cannot. -/
theorem savable_of_fill (h : s.fill rows l = some e) (he : e.Savable) : s.Savable := by
  obtain ⟨o, ho, hrun⟩ := Option.bind_eq_some_iff.mp h
  refine .of_opened (opened_of_done (Progress.end?_eq_some.mp ho)) ?_
  have hwritten := Progress.end?_eq_some.mp hrun
  clear h ho hrun
  induction l generalizing o with
  | nil =>
    cases hwritten
    exact he
  | cons a l ih =>
    obtain ⟨t, ha, hl⟩ := Progress.run_cons_eq_done.mp hwritten
    obtain ⟨hblank, _, _, _, _, _, rfl⟩ := writeToken_eq_done ha
    exact (ih _ hl).of_put (hblank rfl)

end Sheet

/-! ### Requests -/

/-- There are rows for so many rows of data when nothing is kept free for a header. -/
structure Placement.Places (spec : String) (used count : Nat) (rows : IndexSet) : Prop where
  resolved : resolveRows spec used count false false = .ok rows
  fits : count ≤ rows.size

namespace AddRequest
variable {r whole front back : AddRequest} {s e : Sheet} {p : Plan}

/-- The tokens of the data with their cells. -/
def Plan.targets (p : Plan) : List Sheet.Target :=
  Sheet.targets p.data p.rows p.columns

/-- A request that inserts data and has no header. -/
structure Plain (r : AddRequest) : Prop where
  inserting : r.overwrite = false
  noHeader : Text.isBlankText r.header = true

theorem Plain.hasHeader (plain : r.Plain) : r.hasHeader = false := by
  rw [AddRequest.hasHeader, plain.noHeader]
  rfl

/-- Where the data of such a request goes. -/
theorem plan_iff_of_plain (plain : r.Plain) : r.plan s = .ok p ↔
    Payload.parse r.rowDelimiter r.columnDelimiter r.data = .ok p.data ∧
      Placement.Places r.rows s.usedRows p.data.rowCount p.rows ∧
        Placement.Serves r.columns p.data p.columns := by
  have hreserves : r.reservesHeader s = false := by
    rw [reservesHeader, plain.hasHeader]
    rfl
  rw [plan_eq_ok_iff, Placement.checkFits_eq_ok_iff, plain.hasHeader, hreserves]
  constructor
  · rintro ⟨hdata, hrows, _, hcolumns, hcount, hfits⟩
    exact ⟨hdata, ⟨hrows, hcount⟩, hcolumns, hfits⟩
  · rintro ⟨hdata, places, hserves⟩
    exact ⟨hdata, places.resolved, fun h => Bool.false_ne_true h.1, hserves.resolved,
      places.fits, hserves.fits⟩

/-- All that such a request does to a sheet is to fill its rows. -/
theorem changed_of_plan (plain : r.Plain) (h : r.plan s = .ok p) :
    r.changed s = s.fill p.rows p.targets := by
  obtain ⟨_, _, _, _, hfits⟩ := plan_eq_ok_iff.mp h
  have hheader : r.headerTokens = .ok [] := by
    rw [headerTokens, plain.hasHeader]
    rfl
  have hrows : ∀ o, (r.write p o).toOption =
      (Progress.run (Sheet.writeToken false) o p.targets).end? := by
    intro o
    simp only [toOption_write, hheader, plain.inserting, Sheet.writeRows, hfits]
    exact Option.bind_fun_some _
  rw [changed_eq, h]
  show ((r.openTargets p s).end?.bind fun o => (r.write p o).toOption) = _
  simp only [openTargets, plain.inserting, hrows]
  rfl

theorem savable_of_changed (plain : r.Plain) (h : r.changed s = some e) (he : e.Savable) :
    s.Savable := by
  obtain ⟨p, hp, _⟩ := changed_eq_some.mp h
  rw [changed_of_plan plain hp] at h
  exact Sheet.savable_of_fill h he

/-- A plan for the rows of two plans, those of the first in front, and for the tokens of both. -/
structure Plan.Joins (p front back : Plan) : Prop where
  rows : p.rows.toList = front.rows.toList ++ back.rows.toList
  targets : p.targets = front.targets ++ back.targets

theorem Plan.joins_of_serves {spec : String} {p₁ p₂ : Plan}
    (hdata : p.data.rows = p₁.data.rows ++ p₂.data.rows)
    (hrows : p.rows.toList = p₁.rows.toList ++ p₂.rows.toList)
    (hcount : p₁.data.rowCount = p₁.rows.size) (hp : Placement.Serves spec p.data p.columns)
    (hp₁ : Placement.Serves spec p₁.data p₁.columns)
    (hp₂ : Placement.Serves spec p₂.data p₂.columns) : p.Joins p₁ p₂ where
  rows := hrows
  targets := by
    have h₁ : p₁.data.rows ⊆ p.data.rows := hdata ▸ List.subset_append_left ..
    have h₂ : p₂.data.rows ⊆ p.data.rows := hdata ▸ List.subset_append_right ..
    simp only [Plan.targets, Sheet.targets_of_serves hp hp₁ h₁, Sheet.targets_of_serves hp hp₂ h₂]
    exact Sheet.targets_append hdata hrows hcount

/-- A request does what two others do one after the other, if it has a plan whenever they have,
and its plan joins theirs. -/
theorem agree_changed_of_joins (plain : whole.Plain) (plainFront : front.Plain)
    (plainBack : back.Plain)
    (joins : ∀ p, whole.plan s = .ok p → ∃ p₁ p₂, front.plan s = .ok p₁ ∧ p.Joins p₁ p₂ ∧
      ∀ e, front.changed s = some e → back.plan e = .ok p₂)
    (planned : ∀ p₁ e p₂, front.plan s = .ok p₁ → front.changed s = some e →
      back.plan e = .ok p₂ → ∃ p, whole.plan s = .ok p) :
    Sheet.Agree (whole.changed s) ((front.changed s).bind back.changed) := by
  cases hp : whole.plan s with
  | error f =>
    have hwhole : whole.changed s = none := by rw [changed_eq, hp]; rfl
    have hparts : (front.changed s).bind back.changed = none := by
      by_contra hsome
      obtain ⟨e', he'⟩ := Option.ne_none_iff_exists'.mp hsome
      obtain ⟨e, he, hback⟩ := Option.bind_eq_some_iff.mp he'
      obtain ⟨p₁, hp₁, _⟩ := changed_eq_some.mp he
      obtain ⟨p₂, hp₂, _⟩ := changed_eq_some.mp hback
      obtain ⟨p, hp'⟩ := planned p₁ e p₂ hp₁ he hp₂
      cases hp.symm.trans hp'
    rw [hwhole, hparts]
    exact .none
  | ok p =>
    obtain ⟨p₁, p₂, hp₁, hjoins, hback⟩ := joins p hp
    have hfront := changed_of_plan plainFront hp₁
    have hsame : (front.changed s).bind back.changed =
        (s.fill p₁.rows p₁.targets).bind (·.fill p₂.rows p₂.targets) := by
      rw [← hfront]
      cases he : front.changed s with
      | none => rfl
      | some e => exact changed_of_plan plainBack (hback e he)
    rw [changed_of_plan plain hp, hjoins.targets, hsame]
    refine Sheet.fill_append hjoins.rows (fun a ha => ?_) (fun a ha => ?_)
    · obtain ⟨i, _, _, _, _, hi, _⟩ := Sheet.mem_targets.mp ha
      exact List.mem_of_getElem? hi
    · obtain ⟨_, j, _, _, _, _, hj⟩ := Sheet.mem_targets.mp ha
      have hle := Placement.le_of_resolveColumns (placed_of_plan hp₁).columns a.column
        (List.mem_of_getElem? hj)
      exact Nat.lt_of_le_of_lt hle (by decide)

/-- The data of a request is that of two others, and it is for the same columns. -/
structure Parts (whole front back : AddRequest) : Prop where
  plain : whole.Plain
  plainFront : front.Plain
  plainBack : back.Plain
  data : ∀ {data}, Payload.parse whole.rowDelimiter whole.columnDelimiter whole.data = .ok data ↔
    ∃ a b, Payload.parse front.rowDelimiter front.columnDelimiter front.data = .ok a ∧
      Payload.parse back.rowDelimiter back.columnDelimiter back.data = .ok b ∧
      data.rows = a.rows ++ b.rows
  columnsFront : front.columns = whole.columns
  columnsBack : back.columns = whole.columns

/-- A request whose data comes in parts does what the requests for the parts do, if its rows are
theirs. -/
theorem Parts.agree_changed (parts : Parts whole front back)
    (split : ∀ a b rows,
      Payload.parse front.rowDelimiter front.columnDelimiter front.data = .ok a →
      Payload.parse back.rowDelimiter back.columnDelimiter back.data = .ok b →
      Placement.Places whole.rows s.usedRows (a.rowCount + b.rowCount) rows →
      ∃ rows₁ rows₂, rows.toList = rows₁.toList ++ rows₂.toList ∧ a.rowCount = rows₁.size ∧
        Placement.Places front.rows s.usedRows a.rowCount rows₁ ∧
        ∀ e, front.changed s = some e → Placement.Places back.rows e.usedRows b.rowCount rows₂)
    (joined : ∀ a b rows₁ rows₂ e,
      Payload.parse front.rowDelimiter front.columnDelimiter front.data = .ok a →
      Payload.parse back.rowDelimiter back.columnDelimiter back.data = .ok b →
      Placement.Places front.rows s.usedRows a.rowCount rows₁ → front.changed s = some e →
      Placement.Places back.rows e.usedRows b.rowCount rows₂ →
        ∃ rows, Placement.Places whole.rows s.usedRows (a.rowCount + b.rowCount) rows) :
    Sheet.Agree (whole.changed s) ((front.changed s).bind back.changed) := by
  refine agree_changed_of_joins parts.plain parts.plainFront parts.plainBack ?_ ?_
  · intro p hp
    obtain ⟨hdata, places, hserves⟩ := (plan_iff_of_plain parts.plain).mp hp
    obtain ⟨a, b, ha, hb, hab⟩ := parts.data.mp hdata
    have hcount : p.data.rowCount = a.rowCount + b.rowCount := by
      simp only [Payload.rowCount, hab, List.length_append]
    rw [hcount] at places
    obtain ⟨rows₁, rows₂, hrows, hsize, hfront, hback⟩ := split a b p.rows ha hb places
    obtain ⟨⟨c₁, hc₁⟩, c₂, hc₂⟩ := (Placement.exists_serves_append_iff hab).mp ⟨_, hserves⟩
    refine ⟨⟨a, rows₁, c₁⟩, ⟨b, rows₂, c₂⟩, ?_, ?_, fun e he => ?_⟩
    · exact (plan_iff_of_plain parts.plainFront).mpr ⟨ha, hfront, parts.columnsFront ▸ hc₁⟩
    · exact Plan.joins_of_serves hab hrows hsize hserves hc₁ hc₂
    · exact (plan_iff_of_plain parts.plainBack).mpr ⟨hb, hback e he, parts.columnsBack ▸ hc₂⟩
  · intro p₁ e p₂ hp₁ he hp₂
    obtain ⟨ha, hfront, hc₁⟩ := (plan_iff_of_plain parts.plainFront).mp hp₁
    obtain ⟨hb, hback, hc₂⟩ := (plan_iff_of_plain parts.plainBack).mp hp₂
    rw [parts.columnsFront] at hc₁
    rw [parts.columnsBack] at hc₂
    let data : Payload := ⟨p₁.data.rows ++ p₂.data.rows⟩
    have hab : data.rows = p₁.data.rows ++ p₂.data.rows := rfl
    have hcount : data.rowCount = p₁.data.rowCount + p₂.data.rowCount := List.length_append
    obtain ⟨rows, places⟩ := joined _ _ _ _ e ha hb hfront he hback
    obtain ⟨c, hc⟩ := (Placement.exists_serves_append_iff hab).mpr ⟨⟨_, hc₁⟩, _, hc₂⟩
    exact ⟨⟨data, rows, c⟩, (plan_iff_of_plain parts.plain).mpr
      ⟨parts.data.mpr ⟨_, _, ha, hb, hab⟩, hcount ▸ places, hc⟩⟩

end AddRequest

end SheetActions
