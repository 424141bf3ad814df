/-! Lists in strictly ascending order.

An ascending list is determined by its members (`eq_of_mem_iff`). This is what
makes index sets and tables equal as soon as they look equal. A list of naturals
ascends when each is smaller than the next one (`ascends_iff`), which one pass over
the list decides. -/
namespace SheetActions.Ascending

variable {α : Type} {r : α → α → Prop}

/-- Two lists that ascend by an asymmetric relation and have the same members are equal. -/
theorem eq_of_mem_iff (asymm : ∀ a b, r a b → ¬ r b a) {l m : List α} (hl : l.Pairwise r)
    (hm : m.Pairwise r) (h : ∀ a, a ∈ l ↔ a ∈ m) : l = m := by
  induction l generalizing m with
  | nil =>
    cases m with
    | nil => rfl
    | cons b m => exact absurd ((h b).mpr (List.mem_cons_self ..)) List.not_mem_nil
  | cons a l ih =>
    cases m with
    | nil => exact absurd ((h a).mp (List.mem_cons_self ..)) List.not_mem_nil
    | cons b m =>
      have hl' := List.pairwise_cons.mp hl
      have hm' := List.pairwise_cons.mp hm
      have hab : a = b := by
        rcases List.mem_cons.mp ((h a).mp (List.mem_cons_self ..)) with hab | hab
        · exact hab
        · rcases List.mem_cons.mp ((h b).mpr (List.mem_cons_self ..)) with hba | hba
          · exact hba.symm
          · exact absurd (hm'.1 a hab) (asymm a b (hl'.1 b hba))
      subst hab
      rw [ih hl'.2 hm'.2 fun c => ?_]
      constructor
      · intro hc
        rcases List.mem_cons.mp ((h c).mp (List.mem_cons_of_mem _ hc)) with rfl | hc'
        · exact absurd (hl'.1 c hc) fun hcc => asymm c c hcc hcc
        · exact hc'
      · intro hc
        rcases List.mem_cons.mp ((h c).mpr (List.mem_cons_of_mem _ hc)) with rfl | hc'
        · exact absurd (hm'.1 c hc) fun hcc => asymm c c hcc hcc
        · exact hc'

/-- Whether each number is smaller than the next one. -/
def ascends : List Nat → Bool
  | a :: b :: l => decide (a < b) && ascends (b :: l)
  | _ => true

theorem ascends_iff {l : List Nat} : ascends l = true ↔ l.Pairwise (· < ·) := by
  induction l with
  | nil => simp [ascends]
  | cons a l ih =>
    cases l with
    | nil => simp [ascends]
    | cons b l =>
      rw [ascends, Bool.and_eq_true, decide_eq_true_eq, ih, List.pairwise_cons (a := a)]
      refine ⟨fun ⟨hab, hl⟩ => ⟨fun c hc => ?_, hl⟩,
        fun ⟨ha, hl⟩ => ⟨ha b (List.mem_cons_self ..), hl⟩⟩
      rcases List.mem_cons.mp hc with rfl | hc
      · exact hab
      · exact Nat.lt_trans hab ((List.pairwise_cons.mp hl).1 c hc)

end SheetActions.Ascending
