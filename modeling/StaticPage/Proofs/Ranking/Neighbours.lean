import StaticPage.Proofs.Ranking.Stability

/-!
# Neighbours in a sorted list

A merge only ever compares the two heads, and what it puts behind a member is either the next one of the
same list or the head of the other list, which has lost against that member. So each member is not greater
than the next one, whatever the comparison does with members further apart: transitivity is not used
anywhere here, and without it nothing more can be said.
-/

namespace StaticPage.Ranking

open Json (Value)

section

variable {α : Type} {compare : α → α → Ordering} {items l r : List α} {a b : α}

/-- A list in which no member is greater than the next one. -/
def Stepwise (compare : α → α → Ordering) (items : List α) : Prop :=
  items.IsChain fun a b => (compare a b).isLE

variable [Std.OrientedCmp compare]

theorem isLE_of_not_isLE (h : ¬ (compare a b).isLE) : (compare b a).isLE := by
  have htotal := isLE_total compare a b
  simp only [Bool.or_eq_true] at htotal
  exact htotal.resolve_left h

/-- If a member may stand before each of two lists, it may stand before what they are merged to. -/
theorem stepwise_cons_merge (hl : Stepwise compare (a :: l)) (hr : Stepwise compare (a :: r)) :
    Stepwise compare (a :: l.merge r fun a b => (compare a b).isLE) := by
  induction l generalizing a r with
  | nil =>
      rw [List.nil_merge]
      exact hr
  | cons b l ihl =>
      induction r generalizing a with
      | nil =>
          rw [List.merge_right]
          exact hl
      | cons c r ihr =>
          obtain ⟨hab, hl⟩ := List.isChain_cons_cons.1 hl
          obtain ⟨hac, hr⟩ := List.isChain_cons_cons.1 hr
          rw [List.cons_merge_cons]
          split
          · rename_i hbc
            exact (ihl hl (hr.cons_cons hbc)).cons_cons hab
          · -- the right head goes first because it is less than the left one
            rename_i hbc
            exact (ihr (hl.cons_cons (isLE_of_not_isLE hbc)) hr).cons_cons hac

theorem stepwise_merge (hl : Stepwise compare l) (hr : Stepwise compare r) :
    Stepwise compare (l.merge r fun a b => (compare a b).isLE) := by
  cases l with
  | nil =>
      rw [List.nil_merge]
      exact hr
  | cons b l =>
      cases r with
      | nil =>
          rw [List.merge_right]
          exact hl
      | cons c r =>
          rw [List.cons_merge_cons]
          split
          · rename_i hbc
            exact stepwise_cons_merge hl (hr.cons_cons hbc)
          · rename_i hbc
            exact stepwise_cons_merge (hl.cons_cons (isLE_of_not_isLE hbc)) hr

theorem stepwise_mergeSort (items : List α) : Stepwise compare (mergeSort compare items) :=
  mergeSort_merges _ (P := fun _ l' => Stepwise compare l') .nil (fun a => .singleton a) stepwise_merge items

end

theorem sortItems_perm (keys : List SortKey) (items : List Value) :
    (sortItems keys items).Perm items := by
  rw [sortItems_eq_mergeSort]
  exact mergeSort_perm items

/-- Sorting rearranges the items so that none is greater than the next one. -/
theorem sortItems_leaves_no_inversion (keys : List SortKey) (items : List Value) :
    (sortItems keys items).Perm items ∧
      (sortItems keys items).IsChain fun a b => compareItems keys a b ≠ .gt := by
  refine ⟨sortItems_perm keys items, ?_⟩
  have hstepwise : Stepwise (compareItems keys) (mergeSort (compareItems keys) items) :=
    stepwise_mergeSort items
  rw [← sortItems_eq_mergeSort] at hstepwise
  exact hstepwise.imp fun a b hab => Ordering.isLE_iff_ne_gt.1 hab

end StaticPage.Ranking
