import StaticPage.Proofs.Ranking.MergeSort
import StaticPage.Proofs.Ranking.Orderings

/-!
# Where sorting is steady

Sorting items keeps the order of those that tie under every key, and sorting twice is sorting once, as far
as the comparison is transitive and no further. On mixed columns it is not: the number 10 is less than the
text `10a`, that text is less than the number 9, which is compared with it as a text, and 9 is less than
10. There, the merges of two sorts differ, and an item can overtake its equals.
-/

namespace StaticPage.Ranking

open Json (Value)

variable {keys : List SortKey} {a b : Value} {items : List Value}

/-- Two items that have equal values, or none, under every key. -/
def Tied (keys : List SortKey) (a b : Value) : Prop :=
  ∀ key ∈ keys, a.get? key.path = b.get? key.path

theorem compareItems_of_tied (h : Tied keys a b) : compareItems keys a b = .eq := by
  induction keys with
  | nil => rfl
  | cons key rest ih =>
      have hkey : compareByKey key a b = .eq := by
        rw [compareByKey, h key List.mem_cons_self,
          @Std.ReflCmp.compare_self _ compareValues]
        split <;> rfl
      rw [compareItems, hkey, Ordering.eq_then]
      exact ih fun k hk => h k (List.mem_cons_of_mem key hk)

/-- Without keys all items are equal, so that the list is left as it is. -/
theorem sortItems_eq_mergeSort (keys : List SortKey) (items : List Value) :
    sortItems keys items = mergeSort (compareItems keys) items := by
  cases keys with
  | nil =>
      have hascending : Ascending (compareItems []) items := List.pairwise_of_forall fun _ _ => rfl
      rw [mergeSort_of_ascending hascending]
      rfl
  | cons key rest => rfl

/-- Sorting a list keeps the order of members that tie, and sorting the result changes nothing. -/
structure Steady (keys : List SortKey) (items : List Value) : Prop where
  stable : ∀ group : List Value, group.Sublist items → group.Pairwise (Tied keys) →
    group.Sublist (sortItems keys items)
  idempotent : sortItems keys (sortItems keys items) = sortItems keys items

def compareSubtype (keys : List SortKey) (S : Value → Prop) (a b : Subtype S) : Ordering :=
  compareItems keys a.1 b.1

section Transitive

variable {S : Value → Prop} {group : List Value}
  (htrans : ∀ a b c, S a → S b → S c → (compareItems keys a b).isLE → (compareItems keys b c).isLE →
    (compareItems keys a c).isLE)
  (hitems : ∀ v ∈ items, S v)

include htrans

theorem transCmp_compareSubtype : Std.TransCmp (compareSubtype keys S) where
  eq_swap {a b} := @Std.OrientedCmp.eq_swap _ (compareItems keys) _ a.1 b.1
  isLE_trans {a b c} := htrans a b c a.2 b.2 c.2

include hitems

/-- A list of items that have the property is sorted as one of a type on which the comparison is
transitive. -/
theorem exists_sortItems : ∃ l : List (Subtype S), l.map Subtype.val = items ∧
    sortItems keys items = (mergeSort (compareSubtype keys S) l).map Subtype.val := by
  have := transCmp_compareSubtype htrans
  refine ⟨items.attachWith S hitems, List.attachWith_map_subtype_val hitems, ?_⟩
  rw [sortItems_eq_mergeSort, ← mergeSort_map (compareSubtype keys S) (f := Subtype.val) fun _ _ => rfl,
    List.attachWith_map_subtype_val hitems]

theorem ascending_sortItems : Ascending (compareItems keys) (sortItems keys items) := by
  have := transCmp_compareSubtype htrans
  obtain ⟨l, -, hsort⟩ := exists_sortItems htrans hitems
  rw [hsort]
  have hsorted : Ascending (compareSubtype keys S) (mergeSort (compareSubtype keys S) l) :=
    ascending_mergeSort l
  exact List.pairwise_map.2 hsorted

theorem sublist_sortItems (hsub : group.Sublist items) (hgroup : Ascending (compareItems keys) group) :
    group.Sublist (sortItems keys items) := by
  have := transCmp_compareSubtype htrans
  obtain ⟨l, rfl, hsort⟩ := exists_sortItems htrans hitems
  obtain ⟨g, hg, rfl⟩ := List.sublist_map_iff.1 hsub
  rw [hsort]
  have hgroups : Ascending (compareSubtype keys S) g := List.pairwise_map.1 hgroup
  exact (sublist_mergeSort hg hgroups).map Subtype.val

theorem steady_of_transitive : Steady keys items := by
  refine ⟨fun group hsub htied => sublist_sortItems htrans hitems hsub (htied.imp fun h => ?_), ?_⟩
  · rw [compareItems_of_tied h]
    rfl
  · rw [sortItems_eq_mergeSort keys (sortItems keys items)]
    exact mergeSort_of_ascending (ascending_sortItems htrans hitems)

end Transitive

/-- Sorting is steady on the lists of items that have a property exactly if the comparison is transitive
on these items. -/
theorem steady_iff_transitive (keys : List SortKey) (S : Value → Prop) :
    (∀ items : List Value, (∀ v ∈ items, S v) → Steady keys items) ↔
      ∀ a b c, S a → S b → S c → (compareItems keys a b).isLE → (compareItems keys b c).isLE →
        (compareItems keys a c).isLE := by
  refine ⟨fun hsteady a b c ha hb hc hab hbc => ?_, fun htrans items => steady_of_transitive htrans⟩
  by_contra hac
  have hidempotent := (hsteady [a, b, c, c, b, c] (by simp [ha, hb, hc])).idempotent
  rw [sortItems_eq_mergeSort, sortItems_eq_mergeSort] at hidempotent
  exact mergeSort_circle hab hbc (by simpa using hac) hidempotent

/-! ### A mixed column -/

def row (v : Value) (name : String) : Value :=
  .object [("v", v), ("name", .string name)]

def byValue : List SortKey := [⟨"v", true⟩]

theorem get?_row (v : Value) (name : String) : (row v name).get? "v" = v.present? := by
  with_unfolding_all rfl

theorem compareItems_row (v w : Value) (m n : String) :
    compareItems byValue (row v m) (row w n) = compareValues v.present? w.present? := by
  rw [byValue, compareItems, compareItems, Ordering.then_eq, compareByKey, get?_row, get?_row]
  rfl

/-- A column of numbers and texts is sorted neither stably nor once and for all: of four nines the first
ends up behind the other three, and a second sort moves the nine to the front. -/
theorem sortItems_mixed_column :
    let ten := Value.number (.int 10)
    let nine := Value.number (.int 9)
    let text := Value.string "10a"
    let last := Value.string "zzz"
    let nines := [row nine "a", row nine "b", row nine "c", row nine "d"]
    let column := row ten "e" :: row text "f" :: nines
    let items := [row ten "e", row last "g", row text "f", row nine "a"]
    (nines.Sublist column ∧ nines.Pairwise (Tied byValue) ∧ ¬ nines.Sublist (sortItems byValue column)) ∧
      sortItems byValue (sortItems byValue items) ≠ sortItems byValue items := by
  intro ten nine text last nines column items
  -- as texts, 10 < 10a < 9 < zzz, and as numbers, 9 < 10
  have hten_text : compareValues ten.present? text.present? = .lt := by with_unfolding_all decide
  have htext_nine : compareValues text.present? nine.present? = .lt := by with_unfolding_all decide
  have hnine_ten : compareValues nine.present? ten.present? = .lt := by with_unfolding_all decide
  have hten_last : compareValues ten.present? last.present? = .lt := by with_unfolding_all decide
  have htext_last : compareValues text.present? last.present? = .lt := by with_unfolding_all decide
  have hnine_last : compareValues nine.present? last.present? = .lt := by with_unfolding_all decide
  have hten_nine := Std.OrientedCmp.gt_of_lt hnine_ten
  have hlast_text := Std.OrientedCmp.gt_of_lt htext_last
  have hlast_nine := Std.OrientedCmp.gt_of_lt hnine_last
  have hnine := @Std.ReflCmp.compare_self _ compareValues _ nine.present?
  refine ⟨⟨?_, ?_, ?_⟩, ?_⟩
  · exact (List.sublist_cons_self _ _).trans (List.sublist_cons_self _ _)
  · simp [nines, Tied, byValue, get?_row]
  · have hsort : sortItems byValue column
        = [row nine "b", row nine "c", row nine "d", row ten "e", row text "f", row nine "a"] := by
      rw [sortItems_eq_mergeSort]
      simp [column, nines, mergeSort_halves, compareItems_row, *]
    rw [hsort]
    simp [nines, List.sublist_cons_iff, row]
  · have honce : sortItems byValue items
        = [row ten "e", row text "f", row nine "a", row last "g"] := by
      rw [sortItems_eq_mergeSort]
      simp [items, mergeSort_halves, compareItems_row, *]
    have htwice : sortItems byValue [row ten "e", row text "f", row nine "a", row last "g"]
        = [row nine "a", row ten "e", row text "f", row last "g"] := by
      rw [sortItems_eq_mergeSort]
      simp [mergeSort_halves, compareItems_row, *]
    rw [honce, htwice]
    simp [row, ten, nine]

end StaticPage.Ranking
