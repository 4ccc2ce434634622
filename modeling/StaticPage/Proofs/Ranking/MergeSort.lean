import Mathlib.Order.Compare
import Mathlib.Data.List.Basic
import StaticPage.Ranking.Sort

/-!
# Sorting by merging

What a sort by merging does follows from what one merge does. `mergeSort_merges` is the induction over
the halves: a relation between lists and results that holds of short lists, and that a merge carries from
two parts to the whole, holds of every list and what it is sorted to.

With a transitive comparison the result is sorted, sorting it again changes nothing, and equal items
keep their order. Without one, three items are enough for a list that changes each time it is sorted.
-/

namespace StaticPage.Ranking

variable {α β : Type} {compare : α → α → Ordering} {items group l r : List α} {a b c : α}

/-- A list in which no item is greater than a later one. -/
def Ascending (compare : α → α → Ordering) (items : List α) : Prop :=
  items.Pairwise fun a b => (compare a b).isLE

/-! ### The sort and its merges -/

@[simp] theorem mergeSort_nil : mergeSort compare [] = [] := by
  rw [mergeSort]

@[simp] theorem mergeSort_singleton (a : α) : mergeSort compare [a] = [a] := by
  rw [mergeSort]

section Oriented

variable [Std.OrientedCmp compare]

theorem isLE_self (a : α) : (compare a a).isLE := by
  rw [@Std.ReflCmp.compare_self _ compare]
  rfl

variable (compare) in
theorem isLE_total (a b : α) : (compare a b).isLE || (compare b a).isLE := by
  rw [@Std.OrientedCmp.eq_swap _ compare _ b]
  cases compare a b <;> rfl

theorem not_lt_eq_isLE (a b : α) : (compare b a != .lt) = (compare a b).isLE := by
  rw [@Std.OrientedCmp.eq_swap _ compare _ b]
  cases compare a b <;> rfl

theorem mergeSort_halves (a b : α) (rest : List α) :
    mergeSort compare (a :: b :: rest)
      = (mergeSort compare ((a :: b :: rest).take ((a :: b :: rest).length / 2))).merge
          (mergeSort compare ((a :: b :: rest).drop ((a :: b :: rest).length / 2)))
          fun a b => (compare a b).isLE := by
  rw [mergeSort]
  simp only [not_lt_eq_isLE]

variable (compare) in
/-- What merging carries from two parts to the whole holds of every list and what it is sorted to. -/
theorem mergeSort_merges {P : List α → List α → Prop} (nil : P [] []) (singleton : ∀ a, P [a] [a])
    (merge : ∀ {l l' r r'}, P l l' → P r r' → P (l ++ r) (l'.merge r' fun a b => (compare a b).isLE))
    (items : List α) : P items (mergeSort compare items) := by
  induction items using mergeSort.induct with
  | case1 => exact mergeSort_nil.symm ▸ nil
  | case2 a => exact (mergeSort_singleton a).symm ▸ singleton a
  | case3 a b rest all half ihl ihr =>
      rw [mergeSort_halves]
      simpa only [List.take_append_drop] using merge ihl ihr

theorem mergeSort_perm (items : List α) : (mergeSort compare items).Perm items := by
  refine mergeSort_merges _ (P := fun l l' => l'.Perm l) (.refl []) (fun a => .refl [a]) ?_ items
  intro l l' r r' hl hr
  exact (List.merge_perm_append _).trans (hl.append hr)

theorem mergeSort_of_ascending (h : Ascending compare items) : mergeSort compare items = items := by
  refine mergeSort_merges compare (P := fun l l' => Ascending compare l → l' = l)
    (fun _ => rfl) (fun _ _ => rfl) ?_ items h
  intro l l' r r' hl hr h
  obtain ⟨hpl, hpr, hacross⟩ := List.pairwise_append.1 h
  rw [hl hpl, hr hpr]
  exact List.merge_of_le fun a b ha hb => hacross a ha b hb

variable (compare) in
theorem mergeSort_map {f : α → β} {compare' : β → β → Ordering} [Std.OrientedCmp compare']
    (hf : ∀ a b, compare' (f a) (f b) = compare a b) (items : List α) :
    mergeSort compare' (items.map f) = (mergeSort compare items).map f := by
  induction items using mergeSort.induct with
  | case1 => rw [List.map_nil, mergeSort_nil, mergeSort_nil, List.map_nil]
  | case2 a => rw [List.map_singleton, mergeSort_singleton, mergeSort_singleton, List.map_singleton]
  | case3 a b rest all half ihl ihr =>
      rw [mergeSort_halves,
        List.map_merge (s := fun x y => (compare' x y).isLE) fun a _ b _ => by rw [hf], ← ihl, ← ihr,
        List.map_take, List.map_drop]
      simp only [all, half, List.map_cons, List.length_cons, List.length_map, mergeSort_halves]

end Oriented

/-! ### Transitive comparisons -/

section Transitive

variable [Std.TransCmp compare]

theorem ascending_merge (hl : Ascending compare l) (hr : Ascending compare r) :
    Ascending compare (l.merge r fun a b => (compare a b).isLE) :=
  List.pairwise_merge (fun _ _ _ => Std.TransCmp.isLE_trans) (isLE_total _) l r hl hr

theorem ascending_mergeSort (items : List α) : Ascending compare (mergeSort compare items) :=
  mergeSort_merges _ (P := fun _ l' => Ascending compare l') .nil (fun a => List.pairwise_singleton _ a)
    ascending_merge items

/-- A merge keeps the order of members of which none on the right is less than one on the left. -/
theorem sublist_merge {g h : List α} (hl : Ascending compare l) (hg : g.Sublist l) (hh : h.Sublist r)
    (hacross : ∀ a ∈ g, ∀ b ∈ h, (compare a b).isLE) :
    (g ++ h).Sublist (l.merge r fun a b => (compare a b).isLE) := by
  induction l generalizing g r h with
  | nil =>
      rw [List.sublist_nil.1 hg, List.nil_append, List.nil_merge]
      exact hh
  | cons a l ihl =>
      induction r generalizing g h with
      | nil =>
          rw [List.sublist_nil.1 hh, List.append_nil, List.merge_right]
          exact hg
      | cons b r ihr =>
          obtain ⟨ha, hl'⟩ := List.pairwise_cons.1 hl
          rw [List.cons_merge_cons]
          split
          · -- the left head goes first
            rcases List.sublist_cons_iff.1 hg with hg' | ⟨g, rfl, hg'⟩
            · exact (ihl hl' hg' hh hacross).cons a
            · exact (ihl hl' hg' hh fun x hx => hacross x (List.mem_cons_of_mem a hx)).cons_cons a
          · rename_i hgreater
            rcases List.sublist_cons_iff.1 hh with hh' | ⟨h, rfl, hh'⟩
            · exact (ihr hg hh' hacross).cons b
            · -- the right head goes first, and no member of the left list may stand before it
              have hg : g = [] := by
                cases g with
                | nil => rfl
                | cons x g =>
                    have hxb := hacross x List.mem_cons_self b List.mem_cons_self
                    have hax : (compare a x).isLE := by
                      rcases List.mem_cons.1 (hg.subset List.mem_cons_self) with rfl | hx
                      · exact isLE_self _
                      · exact ha x hx
                    exact absurd (Std.TransCmp.isLE_trans hax hxb) hgreater
              subst hg
              exact (ihr (List.nil_sublist _) hh' fun x hx => absurd hx List.not_mem_nil).cons_cons b

/-- Members that are in order before the sort keep the order they have. -/
theorem sublist_mergeSort (hsub : group.Sublist items) (hgroup : Ascending compare group) :
    group.Sublist (mergeSort compare items) := by
  suffices h : Ascending compare (mergeSort compare items) ∧
      ∀ g : List α, g.Sublist items → Ascending compare g → g.Sublist (mergeSort compare items) from
    h.2 group hsub hgroup
  refine mergeSort_merges compare
    (P := fun l l' => Ascending compare l' ∧ ∀ g : List α, g.Sublist l → Ascending compare g → g.Sublist l')
    ⟨.nil, fun _ hg _ => hg⟩ (fun a => ⟨List.pairwise_singleton _ a, fun _ hg _ => hg⟩) ?_ items
  rintro l l' r r' ⟨hl', hl⟩ ⟨hr', hr⟩
  refine ⟨ascending_merge hl' hr', fun g hg hasc => ?_⟩
  obtain ⟨gl, gr, rfl, hgl, hgr⟩ := List.sublist_append_iff.1 hg
  obtain ⟨hascl, hascr, hacross⟩ := List.pairwise_append.1 hasc
  exact sublist_merge hl' (hl gl hgl hascl) (hr gr hgr hascr) hacross

end Transitive

/-! ### Comparisons that are not transitive -/

section Oriented

variable [Std.OrientedCmp compare]

/-- Three members in a circle, each of which may stand before the next one, make a list that no sort
settles. -/
theorem mergeSort_circle (hab : (compare a b).isLE) (hbc : (compare b c).isLE)
    (hac : (compare a c).isLE = false) :
    mergeSort compare (mergeSort compare [a, b, c, c, b, c]) ≠ mergeSort compare [a, b, c, c, b, c] := by
  have hca : (compare c a).isLE := by simpa [hac] using isLE_total compare a c
  have hne : c ≠ a := by
    rintro rfl
    exact absurd (isLE_self c) (by rw [hac]; exact Bool.false_ne_true)
  cases hcb : (compare c b).isLE with
  | true =>
    have honce : mergeSort compare [a, b, c, c, b, c] = [c, a, b, c, b, c] := by
      simp [mergeSort_halves, isLE_self, hab, hbc, hac, hcb]
    have htwice : mergeSort compare [c, a, b, c, b, c] = [c, c, a, b, b, c] := by
      simp [mergeSort_halves, isLE_self, hab, hbc, hca, hac, hcb]
    rw [honce, htwice]
    simp [hne]
  | false =>
    have honce : mergeSort compare [a, b, c, c, b, c] = [a, b, b, c, c, c] := by
      simp [mergeSort_halves, isLE_self, hab, hbc, hcb]
    have htwice : mergeSort compare [a, b, b, c, c, c] = [c, c, c, a, b, b] := by
      simp [mergeSort_halves, isLE_self, hab, hac]
    rw [honce, htwice]
    simp [hne]

end Oriented

end StaticPage.Ranking
