import StaticPage.Proofs.Ranking.Integers
import StaticPage.Proofs.Ranking.Neighbours

/-!
# Columns of one kind

Where a key leads to values of one kind only, the comparison of values is one order, and absent values go
behind all others. The keys are then transitive one by one, hence together, and the result of sorting is
determined: it is the one rearrangement of the items that is in order and leaves equal items as they stood.
-/

namespace StaticPage

instance Instant.transCmp : Std.TransCmp Instant.compare where
  isLE_trans {a b c} hab hbc := by
    have hseconds : Std.TransCmp fun a b : Instant => Ord.compare a.seconds b.seconds :=
      { eq_swap := Std.OrientedCmp.eq_swap, isLE_trans := Std.TransCmp.isLE_trans }
    have hnanos : Std.TransCmp fun a b : Instant => Ord.compare a.nanos b.nanos :=
      { eq_swap := Std.OrientedCmp.eq_swap, isLE_trans := Std.TransCmp.isLE_trans }
    have hboth : Std.TransCmp (compareLex (fun a b : Instant => Ord.compare a.seconds b.seconds)
        fun a b => Ord.compare a.nanos b.nanos) := inferInstance
    exact hboth.isLE_trans hab hbc

namespace Ranking

open Json (Value)

instance transCmp_texts : Std.TransCmp compareTexts where
  isLE_trans hab hbc := @Std.TransCmp.isLE_trans _ Ord.compare _ _ _ _ hab hbc

/-! ### Lists in order -/

section

variable {α : Type} {compare : α → α → Ordering} {S : α → Prop} {items l l' : List α} {a b x : α}

/-- A comparison is transitive on those that have a property. -/
def TransitiveOn (S : α → Prop) (compare : α → α → Ordering) : Prop :=
  ∀ a b c, S a → S b → S c → (compare a b).isLE → (compare b c).isLE → (compare a c).isLE

/-- A comparison is a total preorder on the members of a list. -/
structure TotalPreorder (compare : α → α → Ordering) (items : List α) : Prop where
  refl : ∀ a ∈ items, compare a a = .eq
  swap : ∀ a ∈ items, ∀ b ∈ items, compare b a = (compare a b).swap
  total : ∀ a ∈ items, ∀ b ∈ items, compare a b ≠ .gt ∨ compare b a ≠ .gt
  trans : ∀ a ∈ items, ∀ b ∈ items, ∀ c ∈ items,
    compare a b ≠ .gt → compare b c ≠ .gt → compare a c ≠ .gt

/-- A list is another one put in order: it has the same members, none of them is greater than a later one,
and members that are equal stand in it as they stood. -/
structure InOrder (compare : α → α → Ordering) (items l : List α) : Prop where
  perm : l.Perm items
  ascending : l.Pairwise fun a b => compare a b ≠ .gt
  stable : ∀ group : List α, group.Sublist items → (group.Pairwise fun a b => compare a b = .eq) →
    group.Sublist l

def ties (compare : α → α → Ordering) (x : α) (l : List α) : List α :=
  l.filter fun a => compare x a == .eq

variable [Std.OrientedCmp compare]

theorem eq_iff_isLE_and_isLE : compare a b = .eq ↔ (compare a b).isLE ∧ (compare b a).isLE := by
  rw [@Std.OrientedCmp.eq_swap _ compare _ b a]
  cases compare a b <;> decide

theorem TransitiveOn.totalPreorder (h : TransitiveOn (· ∈ items) compare) : TotalPreorder compare items where
  refl a _ := Std.ReflCmp.compare_self
  swap a _ b _ := Std.OrientedCmp.eq_swap
  total a _ b _ := by
    rw [Ne, Ne, ← Ordering.isLE_iff_ne_gt, ← Ordering.isLE_iff_ne_gt, ← Bool.or_eq_true]
    exact isLE_total compare a b
  trans a ha b hb c hc hab hbc :=
    Ordering.isLE_iff_ne_gt.1 (h a b c ha hb hc (Ordering.isLE_iff_ne_gt.2 hab) (Ordering.isLE_iff_ne_gt.2 hbc))

theorem transCmp_of_transitiveOn (h : TransitiveOn S compare) :
    Std.TransCmp fun a b : Subtype S => compare a.1 b.1 where
  eq_swap := Std.OrientedCmp.eq_swap
  isLE_trans {a b c} := h a.1 b.1 c.1 a.2 b.2 c.2

theorem TransitiveOn.then {compare' : α → α → Ordering} [Std.OrientedCmp compare']
    (h : TransitiveOn S compare) (h' : TransitiveOn S compare') :
    TransitiveOn S fun a b => (compare a b).then (compare' a b) := by
  intro a b c ha hb hc
  have := transCmp_of_transitiveOn h
  have := transCmp_of_transitiveOn h'
  have hboth : Std.TransCmp (compareLex (fun a b : Subtype S => compare a.1 b.1)
      fun a b => compare' a.1 b.1) := inferInstance
  exact hboth.isLE_trans (a := ⟨a, ha⟩) (b := ⟨b, hb⟩) (c := ⟨c, hc⟩)

/-- In a list in order, the members that are equal to one of them stand as they stood. -/
theorem InOrder.ties_eq (h : InOrder compare items l) (htrans : TransitiveOn (· ∈ items) compare)
    (hx : x ∈ items) : ties compare x l = ties compare x items := by
  have hgroup : (ties compare x items).Pairwise fun a b => compare a b = .eq := by
    apply List.pairwise_of_forall_mem_list
    intro a ha b hb
    obtain ⟨ha, hxa⟩ := List.mem_filter.1 ha
    obtain ⟨hb, hxb⟩ := List.mem_filter.1 hb
    rw [beq_iff_eq, eq_iff_isLE_and_isLE] at hxa hxb
    exact eq_iff_isLE_and_isLE.2 ⟨htrans a x b ha hx hb hxa.2 hxb.1, htrans b x a hb hx ha hxb.2 hxa.1⟩
  have hsub : (ties compare x items).Sublist (ties compare x l) := by
    have hfilter := (h.stable _ List.filter_sublist hgroup).filter fun a => compare x a == .eq
    simpa only [ties, List.filter_filter, Bool.and_self] using hfilter
  exact (hsub.eq_of_length (h.perm.filter _).length_eq.symm).symm

theorem isLE_of_mem (hasc : (a :: l).Pairwise fun a b => compare a b ≠ .gt) (hb : b ∈ a :: l) :
    (compare a b).isLE := by
  rcases List.mem_cons.1 hb with rfl | hb
  · exact isLE_self b
  · exact Ordering.isLE_iff_ne_gt.2 (List.rel_of_pairwise_cons hasc hb)

/-- Two lists in order that have the same members are one list, if equal members stand in them alike. -/
theorem eq_of_ties_eq (hperm : l.Perm l') (hasc : l.Pairwise fun a b => compare a b ≠ .gt)
    (hasc' : l'.Pairwise fun a b => compare a b ≠ .gt)
    (hties : ∀ x ∈ l, ties compare x l = ties compare x l') : l = l' := by
  induction l generalizing l' with
  | nil => exact hperm.nil_eq
  | cons a l ih =>
      cases l' with
      | nil => exact hperm.eq_nil
      | cons b l' =>
          have htie : compare a b = .eq := eq_iff_isLE_and_isLE.2
            ⟨isLE_of_mem hasc (hperm.symm.subset List.mem_cons_self),
              isLE_of_mem hasc' (hperm.subset List.mem_cons_self)⟩
          have hhead : a = b := by
            have hfirst := hties a List.mem_cons_self
            rw [ties, ties, List.filter_cons_of_pos (by simp [@Std.ReflCmp.compare_self _ compare]),
              List.filter_cons_of_pos (by simp [htie])] at hfirst
            exact (List.cons.inj hfirst).1
          subst hhead
          rw [ih hperm.cons_inv hasc.tail hasc'.tail fun x hx => ?_]
          have hrest := hties x (List.mem_cons_of_mem a hx)
          rw [ties, ties, List.filter_cons, List.filter_cons] at hrest
          split at hrest
          · exact (List.cons.inj hrest).2
          · exact hrest

/-- A list can be put in order in one way only. -/
theorem InOrder.unique (h : InOrder compare items l) (h' : InOrder compare items l')
    (htrans : TransitiveOn (· ∈ items) compare) : l = l' := by
  apply eq_of_ties_eq (h.perm.trans h'.perm.symm) h.ascending h'.ascending
  intro x hx
  have hx : x ∈ items := h.perm.subset hx
  rw [h.ties_eq htrans hx, h'.ties_eq htrans hx]

end

/-! ### Values of one kind -/

/-- The kinds of values that a column may consist of: signed 64-bit integers, timestamps, texts that are no
timestamps, and values that are neither texts nor numbers. -/
inductive Kind where
  | integer
  | timestamp
  | text
  | other
  deriving DecidableEq, Repr

def Kind.holds : Kind → Value → Bool
  | integer, .number (.int i) => decide (-0x8000000000000000 ≤ i ∧ i < 0x8000000000000000)
  | timestamp, .string s => (Instant.parse? s.toList).isSome
  | text, .string s => (Instant.parse? s.toList).isNone
  | other, .null | other, .bool _ | other, .array _ | other, .object _ => true
  | _, _ => false

variable {keys : List SortKey} {key : SortKey} {items : List Value} {kind : Kind} {S : Value → Prop}

theorem comparePresent_timestamps {s t : String} {x y : Instant} (hs : Instant.parse? s.toList = some x)
    (ht : Instant.parse? t.toList = some y) : comparePresent (.string s) (.string t) = x.compare y := by
  rw [comparePresent, compareStrings, hs, ht]

theorem comparePresent_texts {s : String} (hs : Instant.parse? s.toList = none) (t : String) :
    comparePresent (.string s) (.string t) = compareTexts s t := by
  rw [comparePresent, compareStrings, hs]

theorem comparePresent_others {v : Value} (hv : Kind.other.holds v = true) (w : Value) :
    comparePresent v w = compareTexts v.display w.display := by
  cases v
  case string => cases hv
  case number => cases hv
  all_goals rfl

namespace Kind

variable {v : Value}

theorem exists_integer (h : integer.holds v = true) :
    ∃ i : Int, v = .number (.int i) ∧ i < 0x8000000000000000 := by
  unfold holds at h
  split at h
  case h_1 i _ => exact ⟨i, rfl, (of_decide_eq_true h).2⟩
  all_goals simp_all

theorem exists_timestamp (h : timestamp.holds v = true) :
    ∃ s x, v = .string s ∧ Instant.parse? s.toList = some x := by
  unfold holds at h
  split at h
  case h_2 s _ =>
    obtain ⟨x, hx⟩ := Option.isSome_iff_exists.1 h
    exact ⟨s, x, rfl, hx⟩
  all_goals simp_all

theorem exists_text (h : text.holds v = true) : ∃ s, v = .string s ∧ Instant.parse? s.toList = none := by
  unfold holds at h
  split at h
  case h_3 s _ => exact ⟨s, rfl, Option.isNone_iff_eq_none.1 h⟩
  all_goals simp_all

/-- On values of one kind the comparison is transitive. -/
theorem transitiveOn (kind : Kind) : TransitiveOn (kind.holds · = true) comparePresent := by
  intro a b c ha hb hc hab hbc
  cases kind with
  | integer =>
      obtain ⟨i, rfl, hi⟩ := exists_integer ha
      obtain ⟨j, rfl, hj⟩ := exists_integer hb
      obtain ⟨k, rfl, hk⟩ := exists_integer hc
      rw [comparePresent_integers hi hj] at hab
      rw [comparePresent_integers hj hk] at hbc
      rw [comparePresent_integers hi hk]
      exact Std.TransCmp.isLE_trans hab hbc
  | timestamp =>
      obtain ⟨s, x, rfl, hx⟩ := exists_timestamp ha
      obtain ⟨t, y, rfl, hy⟩ := exists_timestamp hb
      obtain ⟨u, z, rfl, hz⟩ := exists_timestamp hc
      rw [comparePresent_timestamps hx hy] at hab
      rw [comparePresent_timestamps hy hz] at hbc
      rw [comparePresent_timestamps hx hz]
      exact Std.TransCmp.isLE_trans hab hbc
  | text =>
      obtain ⟨s, rfl, hs⟩ := exists_text ha
      obtain ⟨t, rfl, ht⟩ := exists_text hb
      obtain ⟨u, rfl, -⟩ := exists_text hc
      rw [comparePresent_texts hs] at hab ⊢
      rw [comparePresent_texts ht] at hbc
      exact Std.TransCmp.isLE_trans hab hbc
  | other =>
      rw [comparePresent_others ha] at hab ⊢
      rw [comparePresent_others hb] at hbc
      exact Std.TransCmp.isLE_trans hab hbc

end Kind

/-! ### Items -/

variable {keys : List SortKey} {key : SortKey} {items : List Value} {S : Value → Prop}

/-- An absent value is behind all others, so that it does not disturb an order of values. -/
theorem transitiveOn_values (h : TransitiveOn S comparePresent) :
    TransitiveOn (fun v => ∀ w ∈ v, S w) compareValues := by
  intro a b c ha hb hc hab hbc
  cases a <;> cases b <;> cases c
  case some.some.some a b c => exact h a b c (ha a rfl) (hb b rfl) (hc c rfl) hab hbc
  all_goals first | rfl | contradiction

/-- A descending key turns the order of values around, which stays transitive. -/
theorem transitiveOn_byKey (h : TransitiveOn S comparePresent) :
    TransitiveOn (fun item => ∀ w ∈ item.get? key.path, S w) (compareByKey key) := by
  intro a b c ha hb hc hab hbc
  have hvalues := transitiveOn_values h
  rw [compareByKey] at hab hbc ⊢
  cases hdirection : key.ascending with
  | true =>
      rw [hdirection, if_pos rfl] at hab hbc
      exact hvalues _ _ _ ha hb hc hab hbc
  | false =>
      have hswap (v w : Option Value) : (compareValues v w).swap = compareValues w v :=
        Std.OrientedCmp.eq_swap.symm
      rw [hdirection, if_neg Bool.false_ne_true, hswap] at hab hbc
      rw [if_neg Bool.false_ne_true, hswap]
      exact hvalues _ _ _ hc hb ha hbc hab

/-- Under each key the values of some items are of one kind, as far as they are present. -/
def Homogeneous (keys : List SortKey) (items : List Value) : Prop :=
  ∀ key ∈ keys, ∃ kind : Kind, ∀ item ∈ items, ∀ v ∈ item.get? key.path, kind.holds v = true

theorem Homogeneous.transitiveOn (h : Homogeneous keys items) :
    TransitiveOn (· ∈ items) (compareItems keys) := by
  induction keys with
  | nil => exact fun a b c _ _ _ _ _ => rfl
  | cons key rest ih =>
      obtain ⟨kind, hkind⟩ := h key List.mem_cons_self
      have hrest := ih fun k hk => h k (List.mem_cons_of_mem key hk)
      have hkey : TransitiveOn (· ∈ items) (compareByKey key) := fun a b c ha hb hc =>
        transitiveOn_byKey kind.transitiveOn a b c (hkind a ha) (hkind b hb) (hkind c hc)
      exact hkey.then hrest

/-- Columns of one kind each are sorted in the one way that there is. -/
theorem sortItems_of_homogeneous (h : Homogeneous keys items) :
    TotalPreorder (compareItems keys) items ∧
      ∀ l, InOrder (compareItems keys) items l ↔ l = sortItems keys items := by
  have htrans := h.transitiveOn
  have hsorted : InOrder (compareItems keys) items (sortItems keys items) := by
    refine ⟨sortItems_perm keys items, ?_, fun group hsub hties => ?_⟩
    · refine (ascending_sortItems htrans fun _ hv => hv).imp fun hab => ?_
      exact Ordering.isLE_iff_ne_gt.1 hab
    · refine sublist_sortItems htrans (fun _ hv => hv) hsub (hties.imp fun hab => ?_)
      rw [hab]
      rfl
  refine ⟨htrans.totalPreorder, fun l => ⟨fun hl => hl.unique hsorted htrans, ?_⟩⟩
  rintro rfl
  exact hsorted

/-! ### Repositories by day and stars -/

/-- A repository, with the day of its last change and the number of its stars as far as they are known. -/
def repo (name : String) (known : List (String × Value)) : Value :=
  .object (("name", .string name) :: known)

def byDayAndStars : List SortKey := [⟨"day", true⟩, ⟨"stars", false⟩]

/-- Two timestamps of one instant tie, an absent day is last, and a null does not count as a value. -/
theorem sortItems_of_homogeneous_repos :
    let a := repo "a" [("day", .string "2024-05-01T10:00:00+02:00"), ("stars", .number (.int 5))]
    let b := repo "b" [("day", .string "2024-05-01T08:00:00Z"), ("stars", .number (.int 7))]
    let c := repo "c" [("stars", .number (.int 1))]
    let d := repo "d" [("day", .string "2024-05-01T07:30:00Z"), ("stars", .null)]
    Homogeneous byDayAndStars [a, b, c, d] ∧ TotalPreorder (compareItems byDayAndStars) [a, b, c, d] ∧
      ∀ l, InOrder (compareItems byDayAndStars) [a, b, c, d] l ↔ l = [d, b, a, c] := by
  intro a b c d
  have hcolumns : Homogeneous byDayAndStars [a, b, c, d] := by
    intro key hkey
    rcases List.mem_cons.1 hkey with rfl | hkey
    · exact ⟨.timestamp, by with_unfolding_all decide⟩
    · rcases List.mem_singleton.1 hkey with rfl
      exact ⟨.integer, by with_unfolding_all decide⟩
  have hab : compareItems byDayAndStars a b = .gt := by with_unfolding_all decide
  have hac : compareItems byDayAndStars a c = .lt := by with_unfolding_all decide
  have hbc : compareItems byDayAndStars b c = .lt := by with_unfolding_all decide
  have hdb : compareItems byDayAndStars d b = .lt := by with_unfolding_all decide
  have hdc : compareItems byDayAndStars d c = .lt := by with_unfolding_all decide
  have hbd := Std.OrientedCmp.gt_of_lt hdb
  have hcd := Std.OrientedCmp.gt_of_lt hdc
  have hsort : sortItems byDayAndStars [a, b, c, d] = [d, b, a, c] := by
    rw [sortItems_eq_mergeSort]
    simp [mergeSort_halves, *]
  obtain ⟨hpreorder, hunique⟩ := sortItems_of_homogeneous hcolumns
  rw [hsort] at hunique
  exact ⟨hcolumns, hpreorder, hunique⟩

end Ranking

end StaticPage
