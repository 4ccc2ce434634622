import StaticPage.Calendar.Instant
import StaticPage.Json.Printer
import StaticPage.Json.Value
import StaticPage.Ranking.Key

/-!
# Comparing and sorting items

Two values compare as instants if both are timestamps, as texts if both are strings, as numbers if
both are numbers, and by the texts they show on a page otherwise. A value that is absent is greater
than any other. Items compare by the first key whose values differ, and a descending key turns the
order around, so that items without the key come first.

Items are sorted by merging: a list is cut in the middle, its halves are sorted, and the results are
merged so that an item of the right half goes first only if it is strictly less. The order of items
need not be transitive, so the way of merging is part of the result: equal items keep their order
whatever the comparison.
-/

namespace StaticPage.Ranking

open Json (Value Number)

def compareTexts (a b : String) : Ordering :=
  Ord.compare a b

/-- The order of numbers: exact for two signed 64-bit integers, and that of the nearest doubles
otherwise. -/
def compareNumbers (a b : Number) : Ordering :=
  match a.signed?, b.signed? with
  | some i, some j => Ord.compare i j
  | _, _ => a.toBinary64.compare b.toBinary64

/-- The order of strings: by instants if both are timestamps, and as texts otherwise. -/
def compareStrings (a b : String) : Ordering :=
  match Instant.parse? a.toList, Instant.parse? b.toList with
  | some s, some t => s.compare t
  | _, _ => compareTexts a b

def comparePresent (a b : Value) : Ordering :=
  match a, b with
  | .string s, .string t => compareStrings s t
  | .number m, .number n => compareNumbers m n
  | a, b => compareTexts a.display b.display

/-- The order of two values, of which an absent one is the greater. -/
def compareValues (a b : Option Value) : Ordering :=
  match a, b with
  | none, none => .eq
  | none, some _ => .gt
  | some _, none => .lt
  | some a, some b => comparePresent a b

def compareByKey (key : SortKey) (a b : Value) : Ordering :=
  let o := compareValues (a.get? key.path) (b.get? key.path)
  if key.ascending then o else o.swap

/-- The order of two items: the first key that tells them apart decides. -/
def compareItems (keys : List SortKey) (a b : Value) : Ordering :=
  match keys with
  | [] => .eq
  | key :: rest => (compareByKey key a b).then (compareItems rest a b)

/-! ### Sorting -/

/-- A list sorted by a comparison: the first half is the shorter one. -/
def mergeSort {α : Type} (compare : α → α → Ordering) : List α → List α
  | [] => []
  | [a] => [a]
  | a :: b :: rest =>
    let all := a :: b :: rest
    let half := all.length / 2
    (mergeSort compare (all.take half)).merge (mergeSort compare (all.drop half))
      fun l r => compare r l != .lt
termination_by items => items.length
decreasing_by
  all_goals
    simp only [List.length_take, List.length_drop, List.length_cons]
    omega

/-- A list in the order of some keys, which lead into the item that stands for each member. Without
keys the list keeps its order. -/
def sortBy {α : Type} (item : α → Json.Value) (keys : List SortKey) (members : List α) : List α :=
  if keys.isEmpty then members
  else mergeSort (fun a b => compareItems keys (item a) (item b)) members

def sortItems (keys : List SortKey) (items : List Json.Value) : List Json.Value :=
  sortBy id keys items

end StaticPage.Ranking
