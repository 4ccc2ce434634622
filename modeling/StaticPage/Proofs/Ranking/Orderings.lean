import Mathlib.Order.Compare
import StaticPage.Ranking.Sort

/-!
# Comparisons are oriented

Turning two operands around turns the result of every comparison around, down to the comparison of items
under a list of keys: of two items exactly one is less, or neither. No such thing holds of transitivity.
Values are compared by instants, by texts or by numbers, pair by pair, and a number that is less than
another as a number may be greater than it by way of a text between the two.
-/

namespace StaticPage

instance Instant.orientedCmp : Std.OrientedCmp Instant.compare where
  eq_swap {a b} := by
    rw [Instant.compare, Instant.compare, Ordering.swap_then,
      @Std.OrientedCmp.eq_swap _ Ord.compare _ a.seconds,
      @Std.OrientedCmp.eq_swap _ Ord.compare _ a.nanos]

instance Binary64.orientedCmp : Std.OrientedCmp Binary64.compare where
  eq_swap {a b} := @Std.OrientedCmp.eq_swap _ Ord.compare _ a.toScaledInt b.toScaledInt

namespace Ranking

open Json (Value)

instance orientedCmp_texts : Std.OrientedCmp compareTexts where
  eq_swap := @Std.OrientedCmp.eq_swap _ Ord.compare _

instance orientedCmp_numbers : Std.OrientedCmp compareNumbers where
  eq_swap {a b} := by
    rw [compareNumbers, compareNumbers]
    cases a.signed? <;> cases b.signed?
    case some.some => exact @Std.OrientedCmp.eq_swap _ Ord.compare _ _ _
    all_goals exact @Std.OrientedCmp.eq_swap _ Binary64.compare _ _ _

instance orientedCmp_strings : Std.OrientedCmp compareStrings where
  eq_swap {a b} := by
    rw [compareStrings, compareStrings]
    cases Instant.parse? a.toList <;> cases Instant.parse? b.toList
    case some.some => exact @Std.OrientedCmp.eq_swap _ Instant.compare _ _ _
    all_goals exact @Std.OrientedCmp.eq_swap _ compareTexts _ _ _

instance orientedCmp_present : Std.OrientedCmp comparePresent where
  eq_swap {a b} := by
    cases a <;> cases b
    case string.string => exact @Std.OrientedCmp.eq_swap _ compareStrings _ _ _
    case number.number => exact @Std.OrientedCmp.eq_swap _ compareNumbers _ _ _
    all_goals exact @Std.OrientedCmp.eq_swap _ compareTexts _ _ _

instance orientedCmp_values : Std.OrientedCmp compareValues where
  eq_swap {a b} := by
    cases a <;> cases b
    case some.some => exact @Std.OrientedCmp.eq_swap _ comparePresent _ _ _
    all_goals rfl

instance orientedCmp_byKey (key : SortKey) : Std.OrientedCmp (compareByKey key) where
  eq_swap {a b} := by
    rw [compareByKey, compareByKey, @Std.OrientedCmp.eq_swap _ compareValues]
    split <;> rfl

instance orientedCmp_items (keys : List SortKey) : Std.OrientedCmp (compareItems keys) where
  eq_swap {a b} := by
    induction keys with
    | nil => rfl
    | cons key rest ih =>
        rw [compareItems, compareItems, Ordering.swap_then, ← ih,
          @Std.OrientedCmp.eq_swap _ (compareByKey key)]

end Ranking

end StaticPage
