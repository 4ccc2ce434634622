import StaticPage.Proofs.Binary64.Rounding
import StaticPage.Proofs.Ranking.Orderings

/-!
# The order of integers

Signed 64-bit integers are compared as they are. If one of two integers needs the unsigned range, both are
compared as doubles, and from `2 ^ 63 - 512` on neighbouring integers have one nearest double. So the order
of integers is never turned around, but integers at and above the boundary are merged, and the merging is not
transitive: below the boundary, the integers that tie with one above it are told apart.
-/

namespace StaticPage

namespace Binary64

variable {i : Int}

theorem nearest_error (i : Int) : 2 * i ≤ 2 * nearest i + spacing i.natAbs ∧
    2 * nearest i ≤ 2 * i + spacing i.natAbs := by
  obtain ⟨hlow, hhigh⟩ := nearestNat_error i.natAbs
  rcases Int.le_total 0 i with hi | hi
  · rw [nearest_of_nonneg hi]
    omega
  · rw [nearest_of_nonpos hi]
    omega

theorem spacing_le {n k : Nat} (h : n < 2 ^ (k + 53)) : spacing n ≤ 2 ^ k := by
  apply Nat.pow_le_pow_right (by decide)
  by_cases hn : n = 0
  · subst hn
    exact Nat.zero_le k
  · have hlog := (Nat.log2_lt hn).2 h
    omega

end Binary64

namespace Ranking

open Json (Value)

variable {m n : Int}

/-- An integer of 64 bits, with a sign or without. -/
def IsWord (i : Int) : Prop :=
  -0x8000000000000000 ≤ i ∧ i < 0x10000000000000000

/-- Two integers of which one is above the signed range and which have one nearest double. -/
def Merged (m n : Int) : Prop :=
  m ≠ n ∧ (0x8000000000000000 ≤ m ∨ 0x8000000000000000 ≤ n) ∧ Binary64.nearest m = Binary64.nearest n

instance (i : Int) : Decidable (IsWord i) :=
  inferInstanceAs (Decidable (_ ∧ _))

instance (m n : Int) : Decidable (Merged m n) :=
  inferInstanceAs (Decidable (_ ∧ _ ∧ _))

def compareInts (m n : Int) : Ordering :=
  compareValues (some (.number (.int m))) (some (.number (.int n)))

theorem IsWord.natAbs_lt (h : IsWord m) : m.natAbs < 2 ^ 64 := by
  obtain ⟨hlow, hhigh⟩ := h
  omega

theorem comparePresent_integers (hm : m < 0x8000000000000000) (hn : n < 0x8000000000000000) :
    comparePresent (.number (.int m)) (.number (.int n)) = Ord.compare m n := by
  have hsigned {i : Int} (hi : i < 0x8000000000000000) : (Json.Number.int i).signed? = some i := if_pos hi
  rw [comparePresent, compareNumbers, hsigned hm, hsigned hn]

theorem compareInts_of_unsigned (hm : IsWord m) (hn : IsWord n)
    (h : 0x8000000000000000 ≤ m ∨ 0x8000000000000000 ≤ n) :
    compareInts m n = Ord.compare (Binary64.nearest m) (Binary64.nearest n) := by
  have hunsigned {i : Int} (hi : 0x8000000000000000 ≤ i) : (Json.Number.int i).signed? = none :=
    if_neg (Int.not_lt.2 hi)
  rw [← Binary64.compare_ofInt hm.natAbs_lt hn.natAbs_lt, compareInts, compareValues, comparePresent,
    compareNumbers]
  split
  · rename_i hsigned hsigned'
    rcases h with h | h
    · rw [hunsigned h] at hsigned
      cases hsigned
    · rw [hunsigned h] at hsigned'
      cases hsigned'
  · rfl

/-- Merged integers are close to each other, and close to the signed range's end or above it. -/
theorem Merged.near (h : Merged m n) (hm : IsWord m) (hn : IsWord n) :
    0x7ffffffffffffe00 ≤ m ∧ 0x7ffffffffffffe00 ≤ n ∧ (m - n).natAbs ≤ 2048 := by
  obtain ⟨-, hunsigned, hnearest⟩ := h
  have hboundary : Binary64.nearest 0x8000000000000000 = 0x8000000000000000 := by decide +kernel
  have hhigh : 0x8000000000000000 ≤ Binary64.nearest n := by
    rw [← hboundary]
    rcases hunsigned with hm | hn
    · exact hnearest ▸ Binary64.nearest_mono hm
    · exact Binary64.nearest_mono hn
  have hlow {i : Int} (hi : 0x8000000000000000 ≤ Binary64.nearest i) : 0x7ffffffffffffe00 ≤ i := by
    by_contra hbelow
    have hpos : 0 ≤ i := by
      by_contra hneg
      rw [Binary64.nearest_of_nonpos (by omega)] at hi
      omega
    have hspacing : Binary64.spacing i.natAbs ≤ 2 ^ 10 := Binary64.spacing_le (by omega)
    have herror := (Binary64.nearest_error i).2
    omega
  have hspacing {i : Int} (hi : IsWord i) : Binary64.spacing i.natAbs ≤ 2 ^ 11 :=
    Binary64.spacing_le hi.natAbs_lt
  refine ⟨hlow (hnearest ▸ hhigh), hlow hhigh, ?_⟩
  have herrorm := Binary64.nearest_error m
  have herrorn := Binary64.nearest_error n
  have hspacingm := hspacing hm
  have hspacingn := hspacing hn
  omega

theorem compareInts_of_not_merged (hm : IsWord m) (hn : IsWord n) (h : ¬ Merged m n) :
    compareInts m n = Ord.compare m n := by
  by_cases hunsigned : 0x8000000000000000 ≤ m ∨ 0x8000000000000000 ≤ n
  · have hdiffer (hne : m ≠ n) : Binary64.nearest m ≠ Binary64.nearest n :=
      fun hnearest => h ⟨hne, hunsigned, hnearest⟩
    rw [compareInts_of_unsigned hm hn hunsigned]
    rcases lt_trichotomy m n with hlt | rfl | hgt
    · have hle := Binary64.nearest_mono hlt.le
      rw [compare_lt_iff_lt.2 hlt, compare_lt_iff_lt.2 (lt_of_le_of_ne hle (hdiffer hlt.ne))]
    · rw [compare_eq_iff_eq.2 rfl, compare_eq_iff_eq.2 rfl]
    · have hle := Binary64.nearest_mono hgt.le
      rw [compare_gt_iff_gt.2 hgt, compare_gt_iff_gt.2 (lt_of_le_of_ne hle (hdiffer hgt.ne').symm)]
  · rw [not_or, Int.not_le, Int.not_le] at hunsigned
    exact comparePresent_integers hunsigned.1 hunsigned.2

theorem Merged.compareInts_eq (h : Merged m n) (hm : IsWord m) (hn : IsWord n) : compareInts m n = .eq := by
  obtain ⟨-, hunsigned, hnearest⟩ := h
  rw [compareInts_of_unsigned hm hn hunsigned, hnearest]
  exact compare_eq_iff_eq.2 rfl

/-- Integers compare as numbers exactly if they are not merged. Merged integers count as equal, and lie close
together at the end of the signed range or above it. -/
theorem compareInts_eq_compare_iff (hm : IsWord m) (hn : IsWord n) :
    (compareInts m n = Ord.compare m n ↔ ¬ Merged m n) ∧
      (Merged m n → compareInts m n = .eq ∧
        0x7ffffffffffffe00 ≤ m ∧ 0x7ffffffffffffe00 ≤ n ∧ (m - n).natAbs ≤ 2048) := by
  refine ⟨⟨fun heq hmerged => hmerged.1 ?_, compareInts_of_not_merged hm hn⟩,
    fun hmerged => ⟨hmerged.compareInts_eq hm hn, hmerged.near hm hn⟩⟩
  rw [hmerged.compareInts_eq hm hn] at heq
  exact compare_eq_iff_eq.1 heq.symm

/-- Of the integers around the end of the signed range some are told apart and some are not. -/
theorem compareInts_eq_compare_iff_boundary :
    IsWord 0x7fffffffffffffff ∧ IsWord 0x8000000000000401 ∧
      compareInts 0x7fffffffffffffff 0x8000000000000401 = .lt ∧
      IsWord 0x8000000000000400 ∧ compareInts 0x7fffffffffffffff 0x8000000000000400 = .eq := by
  have hlow : IsWord 0x7fffffffffffffff := by decide
  have happart : IsWord 0x8000000000000401 := by decide
  have hmerged : IsWord 0x8000000000000400 := by decide
  refine ⟨hlow, happart, ?_, hmerged, ?_⟩
  · rw [(compareInts_eq_compare_iff hlow happart).1.2 (by decide +kernel)]
    rfl
  · exact ((compareInts_eq_compare_iff hlow hmerged).2 (by decide +kernel)).1

/-- At the end of the signed range the order of integers is not that of numbers, and no order at all: two
integers that are told apart are both equal to the one behind them. -/
theorem compareInts_ne_compare :
    (¬ ∀ m n : Int, IsWord m → IsWord n → compareInts m n = Ord.compare m n) ∧
      compareInts 0x7ffffffffffffffe 0x7fffffffffffffff = .lt ∧
      compareInts 0x7fffffffffffffff 0x8000000000000000 = .eq ∧
      compareInts 0x7ffffffffffffffe 0x8000000000000000 = .eq := by
  have hlast : compareInts 0x7fffffffffffffff 0x8000000000000000 = .eq := by decide +kernel
  refine ⟨fun h => ?_, by decide +kernel, hlast, by decide +kernel⟩
  have heq := h 0x7fffffffffffffff 0x8000000000000000 (by decide) (by decide)
  rw [hlast] at heq
  revert heq
  decide

end Ranking

end StaticPage
