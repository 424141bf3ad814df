import SheetActions.Ascending

/-! Sparse tables over the naturals.

A table gives some naturals a value: it is a list of entries from the greatest key
down, so that a great key is found and set near the front, and `get?` is how it is
seen. Two tables that look the same are equal (`ext_get?`). Beside single entries,
whole blocks of keys are changed at once: `clear` drops a block and `copyDown` repeats
a block further down, in place of what is there. Each operation has one lemma that
says what `get?` sees afterwards. -/
namespace SheetActions

structure Table (α : Type) where
  entries : List (Nat × α)
  descending : entries.Pairwise fun a b => b.1 < a.1
deriving DecidableEq

namespace Table

variable {α β : Type}

def empty : Table α := ⟨[], .nil⟩

instance : EmptyCollection (Table α) := ⟨empty⟩

instance : Inhabited (Table α) := ⟨empty⟩

/-- The value at a key: that of the first entry whose key is not greater, if it has the
key. -/
def get? (t : Table α) (k : Nat) : Option α :=
  (t.entries.dropWhile (k < ·.1)).head?.bind fun e => if e.1 = k then some e.2 else none

/-- The greatest key with a value. -/
def lastKey? (t : Table α) : Option Nat :=
  t.entries.head?.map (·.1)

/-- The entries in the order of their keys. -/
def toList (t : Table α) : List (Nat × α) :=
  t.entries.reverse

@[simp] theorem get?_empty (k : Nat) : (empty : Table α).get? k = none := rfl

/-! ### Parts of a list of entries -/

/-- What a list of entries holds at a key. -/
def find (l : List (Nat × α)) (k : Nat) : Option α :=
  (l.find? (·.1 = k)).map (·.2)

theorem find_nil (k : Nat) : find ([] : List (Nat × α)) k = none := rfl

theorem find_cons (e : Nat × α) (l : List (Nat × α)) (k : Nat) :
    find (e :: l) k = if e.1 = k then some e.2 else find l k := by
  by_cases h : e.1 = k <;> simp [find, h]

theorem find_append (l m : List (Nat × α)) (k : Nat) :
    find (l ++ m) k = (find l k).or (find m k) := by
  simp only [find, List.find?_append]
  cases l.find? (·.1 = k) <;> rfl

theorem find_filter (l : List (Nat × α)) (p : Nat → Bool) (k : Nat) :
    find (l.filter fun e => p e.1) k = if p k then find l k else none := by
  induction l with
  | nil => simp [find_nil]
  | cons e l ih =>
    rw [List.filter_cons, find_cons]
    by_cases he : e.1 = k
    · subst he
      cases hp : p e.1
      · rw [if_neg (by simp), ih, hp, if_neg (by simp), if_neg (by simp)]
      · rw [if_pos rfl, find_cons, if_pos rfl, if_pos rfl, if_pos rfl]
    · rw [if_neg he]
      split
      · rw [find_cons, if_neg he, ih]
      · exact ih

theorem find_map_add (l : List (Nat × α)) (n k : Nat) :
    find (l.map fun e => (e.1 + n, e.2)) k = if n ≤ k then find l (k - n) else none := by
  induction l with
  | nil => simp [find_nil]
  | cons e l ih =>
    rw [List.map_cons, find_cons, find_cons, ih]
    by_cases he : e.1 + n = k
    · rw [if_pos he, if_pos (by omega), if_pos (by omega)]
    · rw [if_neg he]
      split
      · rw [if_neg (by omega)]
      · rfl

/-! ### Entries -/

/-- The entries with greater keys come first. -/
theorem takeWhile_greater {l : List (Nat × α)} (h : l.Pairwise fun a b => b.1 < a.1) (k : Nat) :
    l.takeWhile (k < ·.1) = l.filter (k < ·.1) := by
  induction l with
  | nil => rfl
  | cons e l ih =>
    have hl := List.pairwise_cons.mp h
    by_cases he : k < e.1
    · simp [he, ih hl.2]
    · have hnone : l.filter (k < ·.1) = [] := List.filter_eq_nil_iff.mpr fun e' he' => by
        have := hl.1 e' he'
        simp only [decide_eq_true_eq]
        omega
      simp [he, hnone]

/-- Behind the entries whose keys are not smaller are those with smaller keys. -/
theorem dropWhile_notSmaller {l : List (Nat × α)} (h : l.Pairwise fun a b => b.1 < a.1)
    (k : Nat) : l.dropWhile (k ≤ ·.1) = l.filter (·.1 < k) := by
  induction l with
  | nil => rfl
  | cons e l ih =>
    have hl := List.pairwise_cons.mp h
    by_cases he : k ≤ e.1
    · simp [he, Nat.not_lt.mpr he, ih hl.2]
    · have hall : l.filter (·.1 < k) = l := List.filter_eq_self.mpr fun e' he' => by
        have := hl.1 e' he'
        simp only [decide_eq_true_eq]
        omega
      simp [he, Nat.lt_of_not_le he, hall]

theorem find_eq_none {l : List (Nat × α)} {k : Nat} (h : ∀ e ∈ l, e.1 ≠ k) : find l k = none := by
  simpa [find] using fun a b hab => h (a, b) hab

theorem get?_eq_find (t : Table α) (k : Nat) : t.get? k = find t.entries k := by
  obtain ⟨l, hl⟩ := t
  simp only [get?]
  induction l with
  | nil => rfl
  | cons e l ih =>
    have hl' := List.pairwise_cons.mp hl
    rw [find_cons]
    by_cases hlt : k < e.1
    · rw [List.dropWhile_cons_of_pos (by simpa using hlt), if_neg (by omega)]
      exact ih hl'.2
    · rw [List.dropWhile_cons_of_neg (by simpa using hlt)]
      by_cases he : e.1 = k
      · simp [he]
      · have hnone : find l k = none := find_eq_none fun e' he' => by
          have := hl'.1 e' he'
          omega
        simp [he, hnone]

theorem mem_entries_iff {t : Table α} {k : Nat} {v : α} :
    (k, v) ∈ t.entries ↔ t.get? k = some v := by
  rw [get?_eq_find]
  obtain ⟨l, hl⟩ := t
  simp only [find, Option.map_eq_some_iff]
  induction l with
  | nil => simp
  | cons e l ih =>
    have hl' := List.pairwise_cons.mp hl
    by_cases he : e.1 = k
    · subst he
      simp only [List.mem_cons, List.find?_cons, decide_true]
      constructor
      · rintro (h | h)
        · exact ⟨e, rfl, by rw [← h]⟩
        · exact absurd (hl'.1 _ h) (Nat.lt_irrefl _)
      · rintro ⟨_, h, rfl⟩
        cases h
        exact Or.inl rfl
    · simp only [List.mem_cons, List.find?_cons, he, decide_false]
      rw [← ih hl'.2]
      constructor
      · rintro (h | h)
        · exact absurd (congrArg Prod.fst h).symm he
        · exact h
      · exact Or.inr

/-- A table is determined by what `get?` sees. -/
theorem ext_get? {s t : Table α} (h : ∀ k, s.get? k = t.get? k) : s = t := by
  have hm : ∀ e, e ∈ s.entries ↔ e ∈ t.entries := fun e => by
    rw [mem_entries_iff (t := s) (k := e.1) (v := e.2), mem_entries_iff, h]
  obtain ⟨l, hl⟩ := s
  obtain ⟨m, hm'⟩ := t
  congr 1
  exact Ascending.eq_of_mem_iff (fun _ _ => Nat.lt_asymm) hl hm' hm

/-! ### Operations -/

/-- The entries whose keys satisfy a condition. -/
def keep (t : Table α) (p : Nat → Bool) : Table α :=
  ⟨t.entries.filter fun e => p e.1, t.descending.filter _⟩

@[simp] theorem get?_keep (t : Table α) (p : Nat → Bool) (k : Nat) :
    (t.keep p).get? k = if p k then t.get? k else none := by
  rw [get?_eq_find, get?_eq_find]
  exact find_filter t.entries p k

/-- The table without the keys from `first` up to, but not including, `stop`. -/
def clear (t : Table α) (first stop : Nat) : Table α :=
  t.keep fun k => decide (k < first ∨ stop ≤ k)

theorem get?_clear (t : Table α) (first stop k : Nat) :
    (t.clear first stop).get? k = if first ≤ k ∧ k < stop then none else t.get? k := by
  simp only [clear, get?_keep, decide_eq_true_eq]
  split <;> split <;> first | rfl | omega

/-- The entries with a key's value set or taken away. -/
def setEntries (t : Table α) (k : Nat) (v : Option α) : List (Nat × α) :=
  t.entries.takeWhile (k < ·.1) ++ (v.toList.map (k, ·) ++ t.entries.dropWhile (k ≤ ·.1))

theorem setEntries_eq (t : Table α) (k : Nat) (v : Option α) :
    t.setEntries k v =
      t.entries.filter (k < ·.1) ++ (v.toList.map (k, ·) ++ t.entries.filter (·.1 < k)) := by
  rw [setEntries, takeWhile_greater t.descending, dropWhile_notSmaller t.descending]

/-- Gives a key a value, or takes its value away. -/
def set (t : Table α) (k : Nat) (v : Option α) : Table α where
  entries := t.setEntries k v
  descending := by
    rw [setEntries_eq]
    have hv : ∀ e ∈ v.toList.map (k, ·), e.1 = k := by cases v <;> simp
    refine List.pairwise_append.mpr ⟨t.descending.filter _, List.pairwise_append.mpr
      ⟨by cases v <;> simp, t.descending.filter _, fun a ha b hb => ?_⟩, fun a ha b hb => ?_⟩
    · have h := of_decide_eq_true (List.mem_filter.mp hb).2
      rw [hv a ha]
      exact h
    · have h := of_decide_eq_true (List.mem_filter.mp ha).2
      rcases List.mem_append.mp hb with hb | hb
      · rw [hv b hb]
        exact h
      · exact Nat.lt_trans (of_decide_eq_true (List.mem_filter.mp hb).2) h

theorem get?_set (t : Table α) (k : Nat) (v : Option α) (i : Nat) :
    (t.set k v).get? i = if i = k then v else t.get? i := by
  rw [get?_eq_find, get?_eq_find]
  show find (t.setEntries k v) i = _
  rw [setEntries_eq, find_append, find_append, find_filter t.entries (fun j => decide (k < j)),
    find_filter t.entries (fun j => decide (j < k))]
  have hv : find (v.toList.map (k, ·)) i = if i = k then v else none := by
    cases v <;> simp [find, eq_comm]
  rw [hv]
  rcases Nat.lt_trichotomy i k with h | h | h
  · simp [h, Nat.ne_of_lt h, Nat.lt_asymm h]
  · simp [h]
  · simp [h, Nat.ne_of_gt h, Nat.lt_asymm h]

theorem find_filterMapKey (l : List (Nat × α)) (f : Nat → α → Option β) (k : Nat)
    (h : l.Pairwise fun a b => b.1 < a.1) :
    find (l.filterMap fun e => (f e.1 e.2).map (e.1, ·)) k = (find l k).bind (f k) := by
  induction l with
  | nil => rfl
  | cons e l ih =>
    have hl := List.pairwise_cons.mp h
    rw [List.filterMap_cons, find_cons]
    by_cases he : e.1 = k
    · subst he
      rw [if_pos rfl]
      cases hf : f e.1 e.2 with
      | some v => simp [find_cons, hf]
      | none =>
        have hrest : find l e.1 = none := by
          simp only [find, Option.map_eq_none_iff, List.find?_eq_none, decide_eq_true_eq]
          intro e' he' hk
          have := hl.1 e' he'
          omega
        simp [ih hl.2, hrest, hf]
    · rw [if_neg he]
      cases hf : f e.1 e.2 with
      | some v => simp [find_cons, he, ih hl.2]
      | none => simp [ih hl.2]

/-- The values that a function of key and value keeps, changed by it. -/
def filterMapKey (t : Table α) (f : Nat → α → Option β) : Table β where
  entries := t.entries.filterMap fun e => (f e.1 e.2).map (e.1, ·)
  descending := by
    refine t.descending.filterMap _ fun a b hab a' ha b' hb => ?_
    obtain ⟨_, _, rfl⟩ := Option.map_eq_some_iff.mp ha
    obtain ⟨_, _, rfl⟩ := Option.map_eq_some_iff.mp hb
    exact hab

theorem get?_filterMapKey (t : Table α) (f : Nat → α → Option β) (k : Nat) :
    (t.filterMapKey f).get? k = (t.get? k).bind (f k) := by
  rw [get?_eq_find, get?_eq_find]
  exact find_filterMapKey t.entries f k t.descending

/-- Repeats what is at the keys from `first` to `last` at the keys `count` further on,
instead of what is there. -/
def copyDown (t : Table α) (first last count : Nat) : Table α where
  entries :=
    (t.entries.filter fun e => first + count ≤ e.1 ∧ last + count < e.1) ++
      ((t.entries.filter fun e => first ≤ e.1 ∧ e.1 ≤ last).map (fun e => (e.1 + count, e.2)) ++
        t.entries.filter (·.1 < first + count))
  descending := by
    have hb : ∀ e ∈ (t.entries.filter fun e => first ≤ e.1 ∧ e.1 ≤ last).map
        (fun e => (e.1 + count, e.2)), first + count ≤ e.1 ∧ e.1 ≤ last + count := by
      intro e he
      obtain ⟨e', he', rfl⟩ := List.mem_map.mp he
      have := of_decide_eq_true (List.mem_filter.mp he').2
      simp only
      omega
    refine List.pairwise_append.mpr ⟨t.descending.filter _, List.pairwise_append.mpr
      ⟨List.pairwise_map.mpr ((t.descending.filter _).imp fun h => Nat.add_lt_add_right h count),
        t.descending.filter _, fun a ha b hb' => ?_⟩, fun a ha b hb' => ?_⟩
    · have h₁ := hb a ha
      have h₂ := of_decide_eq_true (List.mem_filter.mp hb').2
      omega
    · have h₁ := of_decide_eq_true (List.mem_filter.mp ha).2
      rcases List.mem_append.mp hb' with hb' | hb'
      · have h₂ := hb b hb'
        omega
      · have h₂ := of_decide_eq_true (List.mem_filter.mp hb').2
        omega

theorem get?_copyDown (t : Table α) (first last count k : Nat) :
    (t.copyDown first last count).get? k =
      if first + count ≤ k ∧ k ≤ last + count then t.get? (k - count) else t.get? k := by
  simp only [get?_eq_find]
  rw [copyDown, find_append, find_append, find_map_add,
    find_filter t.entries (fun j => decide (j < first + count)),
    find_filter t.entries (fun j => decide (first ≤ j ∧ j ≤ last)),
    find_filter t.entries (fun j => decide (first + count ≤ j ∧ last + count < j))]
  simp only [decide_eq_true_eq]
  by_cases hk : first + count ≤ k ∧ k ≤ last + count
  · rw [if_neg (by omega), if_pos (by omega), if_pos (by omega), if_neg (by omega), if_pos hk]
    simp [find]
  · rw [if_neg hk]
    by_cases hlow : k < first + count
    · rw [if_pos hlow, if_neg (c := first + count ≤ k ∧ _) (by omega)]
      by_cases hc : count ≤ k
      · rw [if_pos hc, if_neg (by omega)]
        simp [find]
      · rw [if_neg hc]
        simp [find]
    · rw [if_neg hlow, if_pos (by omega), if_pos (by omega), if_neg (by omega)]
      simp [find]

/-! ### The greatest key -/

/-- A key behind the greatest one has no value. -/
theorem get?_of_lastKey?_lt {t : Table α} {last k : Nat} (h : t.lastKey? = some last)
    (hk : last < k) : t.get? k = none := by
  rw [get?_eq_find]
  obtain ⟨l, hl⟩ := t
  cases l with
  | nil => rfl
  | cons first l =>
    obtain rfl : first.1 = last := by simpa [lastKey?] using h
    refine find_eq_none fun e he => ?_
    rcases List.mem_cons.mp he with rfl | he
    · omega
    · have := (List.pairwise_cons.mp hl).1 e he
      omega

theorem get?_of_lastKey?_eq_none {t : Table α} (h : t.lastKey? = none) (k : Nat) :
    t.get? k = none := by
  obtain ⟨l, hl⟩ := t
  obtain rfl : l = [] := by simpa [lastKey?] using h
  rfl

/-- The greatest key has a value. -/
theorem exists_get?_lastKey? {t : Table α} {last : Nat} (h : t.lastKey? = some last) :
    ∃ v, t.get? last = some v := by
  obtain ⟨e, he, rfl⟩ := Option.map_eq_some_iff.mp h
  exact ⟨e.2, mem_entries_iff.mp (List.mem_of_head? he)⟩

/-- A table without a greatest key is empty. -/
theorem eq_empty_iff_lastKey? {t : Table α} : t = ∅ ↔ t.lastKey? = none := by
  constructor
  · rintro rfl
    rfl
  · intro h
    exact ext_get? fun k => get?_of_lastKey?_eq_none h k

end Table

end SheetActions
