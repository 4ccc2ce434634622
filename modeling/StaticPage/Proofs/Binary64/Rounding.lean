import Mathlib.Algebra.Order.Ring.Nat
import Mathlib.Tactic.NormNum
import Mathlib.Tactic.SplitIfs
import StaticPage.Binary64.Basic

/-!
# Integers among the doubles

The double nearest to an integer stands for `nearest`: the multiple of a spacing, a power of two that grows
with the integer, that lies next to it. The conversion goes by way of a quotient over `2 ^ -1074` and of a
word of exponent and fraction bits; `compare_ofInt` says that for comparisons this is all it comes to.
Rounding is monotone, and it moves an integer by at most half of its spacing.
-/

namespace StaticPage.Binary64

variable {a b d k m n q cut : Nat}

/-! ### Rounded quotients -/

theorem roundQuotient_mul (q : Nat) (hd : 0 < d) : roundQuotient (q * d) d = q := by
  simp [roundQuotient, Nat.mul_div_cancel _ hd, hd]

theorem roundQuotient_mul_mul (a d : Nat) (hk : 0 < k) :
    roundQuotient (a * k) (d * k) = roundQuotient a d := by
  have hhalf : 2 * (a % d * k) < d * k ↔ 2 * (a % d) < d := by
    rw [← Nat.mul_assoc]
    exact Nat.mul_lt_mul_right hk
  have hmore : d * k < 2 * (a % d * k) ↔ d < 2 * (a % d) := by
    rw [← Nat.mul_assoc]
    exact Nat.mul_lt_mul_right hk
  simp only [roundQuotient, Nat.mul_div_mul_right a d hk, Nat.mul_mod_mul_right, hhalf, hmore]

theorem roundQuotient_cases (a d : Nat) : roundQuotient a d = a / d ∧ 2 * (a % d) ≤ d ∨
    roundQuotient a d = a / d + 1 ∧ d ≤ 2 * (a % d) := by
  simp only [roundQuotient]
  split
  · omega
  · split
    · omega
    · rcases Nat.mod_two_eq_zero_or_one (a / d) with h | h <;> rw [h] <;> omega

theorem roundQuotient_mono (h : a ≤ b) : roundQuotient a d ≤ roundQuotient b d := by
  rcases Nat.lt_or_eq_of_le (Nat.div_le_div_right (c := d) h) with hlt | heq
  · rcases roundQuotient_cases a d with ⟨ha, -⟩ | ⟨ha, -⟩ <;>
      rcases roundQuotient_cases b d with ⟨hb, -⟩ | ⟨hb, -⟩ <;> omega
  · have hmod : a % d ≤ b % d := by
      have hsplit := Nat.div_add_mod a d
      have hsplit' := Nat.div_add_mod b d
      rw [← heq] at hsplit'
      omega
    simp only [roundQuotient, heq]
    split_ifs <;> omega

/-- A quotient is rounded by at most a half. -/
theorem roundQuotient_error (a : Nat) (hd : 0 < d) : 2 * a ≤ 2 * (roundQuotient a d * d) + d ∧
    2 * (roundQuotient a d * d) ≤ 2 * a + d := by
  have hsplit := Nat.div_add_mod a d
  rw [Nat.mul_comm] at hsplit
  have hrest := Nat.mod_lt a hd
  rcases roundQuotient_cases a d with ⟨h, hr⟩ | ⟨h, hr⟩
  · rw [h]
    omega
  · rw [h, Nat.add_mul, Nat.one_mul]
    omega

/-! ### The spacing of doubles -/

/-- The distance from an integer with no more bits to the next one that is a double. -/
def spacing (n : Nat) : Nat := 2 ^ (n.log2 - 52)

/-- The integer that the double nearest to a natural number stands for. -/
def nearestNat (n : Nat) : Nat := roundQuotient n (spacing n) * spacing n

theorem spacing_pos (n : Nat) : 0 < spacing n :=
  Nat.two_pow_pos _

theorem nearestNat_bounds (hn : n ≠ 0) : 2 ^ n.log2 ≤ nearestNat n ∧ nearestNat n ≤ 2 ^ (n.log2 + 1) := by
  have hlow := Nat.log2_self_le hn
  have hhigh : n < 2 ^ (n.log2 + 1) := Nat.lt_log2_self
  have hround (k : Nat) (hk : n.log2 - 52 ≤ k) : roundQuotient (2 ^ k) (spacing n) * spacing n = 2 ^ k := by
    have hpow : 2 ^ k = 2 ^ (k - (n.log2 - 52)) * spacing n := by
      rw [spacing, ← Nat.pow_add, Nat.sub_add_cancel hk]
    rw [hpow, roundQuotient_mul _ (spacing_pos n)]
  constructor
  · rw [← hround n.log2 (by omega)]
    exact Nat.mul_le_mul_right _ (roundQuotient_mono hlow)
  · rw [← hround (n.log2 + 1) (by omega)]
    exact Nat.mul_le_mul_right _ (roundQuotient_mono hhigh.le)

theorem nearestNat_zero : nearestNat 0 = 0 := by decide

theorem nearestNat_mono (h : m ≤ n) : nearestNat m ≤ nearestNat n := by
  by_cases hm : m = 0
  · subst hm
    rw [nearestNat_zero]
    exact Nat.zero_le _
  · have hn : n ≠ 0 := by omega
    have hlog : m.log2 ≤ n.log2 := (Nat.le_log2 hn).2 ((Nat.log2_self_le hm).trans h)
    rcases Nat.lt_or_eq_of_le hlog with hlt | heq
    · calc nearestNat m ≤ 2 ^ (m.log2 + 1) := (nearestNat_bounds hm).2
        _ ≤ 2 ^ n.log2 := Nat.pow_le_pow_right (by decide) hlt
        _ ≤ nearestNat n := (nearestNat_bounds hn).1
    · have hspacing : spacing m = spacing n := by rw [spacing, spacing, heq]
      rw [nearestNat, nearestNat, hspacing]
      exact Nat.mul_le_mul_right _ (roundQuotient_mono h)

/-! ### The word of a double -/

/-- A magnitude that is composed of an exponent and a significand stands for their product, also where the
significand has been rounded up to the next power of two. -/
theorem scaled_compose (hlow : 2 ^ 52 ≤ q) (hhigh : q ≤ 2 ^ 53) :
    scaled (cut * Nat.pow 2 52 + q) = q * 2 ^ cut := by
  have hpow : Nat.pow 2 52 = 4503599627370496 := rfl
  simp only [scaled, significand, exponent, hpow]
  norm_num at hlow hhigh
  rw [if_neg (by omega)]
  rcases Nat.lt_or_eq_of_le hhigh with hlt | rfl
  · have hexp : (cut * 4503599627370496 + q) / 4503599627370496 - 1 = cut := by omega
    have hmod : 4503599627370496 + (cut * 4503599627370496 + q) % 4503599627370496 = q := by omega
    rw [hexp, hmod]
    rfl
  · have hexp : (cut * 4503599627370496 + 9007199254740992) / 4503599627370496 - 1 = cut + 1 := by omega
    have hmod : (cut * 4503599627370496 + 9007199254740992) % 4503599627370496 = 0 := by omega
    rw [hexp, hmod]
    change 4503599627370496 * 2 ^ (cut + 1) = _
    rw [Nat.pow_succ]
    omega

theorem log2_mul_two_pow (hn : n ≠ 0) (k : Nat) : (n * 2 ^ k).log2 = n.log2 + k := by
  rw [Nat.log2_eq_iff (Nat.mul_ne_zero hn (Nat.two_pow_pos k).ne')]
  constructor
  · rw [Nat.pow_add]
    exact Nat.mul_le_mul_right _ (Nat.log2_self_le hn)
  · rw [Nat.add_right_comm, Nat.pow_add]
    exact Nat.mul_lt_mul_of_pos_right Nat.lt_log2_self (Nat.two_pow_pos k)

/-- Over a denominator of `e + 52` bits, all but 53 bits of a number are cut off. -/
theorem roundQuotient_scaled (n e : Nat) :
    roundQuotient (n * 2 ^ (e + 52)) (2 ^ (n.log2 + e)) * 2 ^ (n.log2 + e)
      = nearestNat n * 2 ^ (e + 52) := by
  by_cases hlog : 52 ≤ n.log2
  · have hden : 2 ^ (n.log2 + e) = spacing n * 2 ^ (e + 52) := by
      rw [spacing, ← Nat.pow_add]
      congr 1
      omega
    rw [hden, roundQuotient_mul_mul _ _ (Nat.two_pow_pos _), nearestNat, Nat.mul_assoc]
  · have hnum : n * 2 ^ (e + 52) = n * 2 ^ (52 - n.log2) * 2 ^ (n.log2 + e) := by
      rw [Nat.mul_assoc, ← Nat.pow_add]
      congr 2
      omega
    have hspacing : spacing n = 1 := by
      rw [spacing, Nat.sub_eq_zero_of_le (by omega)]
      rfl
    have hexact := roundQuotient_mul n Nat.one_pos
    rw [Nat.mul_one] at hexact
    rw [nearestNat, hspacing, hexact, Nat.mul_one, hnum, roundQuotient_mul _ (Nat.two_pow_pos _)]

theorem roundQuotient_bounds (hn : n ≠ 0) (e : Nat) :
    2 ^ 52 ≤ roundQuotient (n * 2 ^ (e + 52)) (2 ^ (n.log2 + e)) ∧
      roundQuotient (n * 2 ^ (e + 52)) (2 ^ (n.log2 + e)) ≤ 2 ^ 53 := by
  have hscaled := roundQuotient_scaled n e
  obtain ⟨hlow, hhigh⟩ := nearestNat_bounds hn
  have hpow (k : Nat) : 2 ^ (n.log2 + k) * 2 ^ (e + 52) = 2 ^ (52 + k) * 2 ^ (n.log2 + e) := by
    rw [← Nat.pow_add, ← Nat.pow_add]
    congr 1
    omega
  constructor
  · refine Nat.le_of_mul_le_mul_right ?_ (Nat.two_pow_pos (n.log2 + e))
    rw [hscaled, ← hpow 0]
    exact Nat.mul_le_mul_right _ hlow
  · refine Nat.le_of_mul_le_mul_right ?_ (Nat.two_pow_pos (n.log2 + e))
    rw [hscaled, ← hpow 1]
    exact Nat.mul_le_mul_right _ hhigh

/-- Over the denominator of all doubles, the double nearest to a number stands for the nearest integer. -/
theorem exists_denominator : ∃ denominator, 0 < denominator ∧
    ∀ n < 2 ^ 64, scaled ((round? n 1).getD 0) = nearestNat n * denominator := by
  -- the exponents stay letters, so that no power is computed
  obtain ⟨e, he⟩ : ∃ e, 1074 = e + 52 := ⟨1022, rfl⟩
  refine ⟨2 ^ (e + 52), Nat.two_pow_pos _, fun n hlt => ?_⟩
  by_cases hn : n = 0
  · subst hn
    rw [nearestNat_zero, Nat.zero_mul, round?, if_pos rfl]
    rfl
  · have hlog : n.log2 < 64 := (Nat.log2_lt hn).2 hlt
    have hcut : (n * 2 ^ (e + 52) / 1).log2 - 52 = n.log2 + e := by
      rw [Nat.div_one, log2_mul_two_pow hn]
      omega
    obtain ⟨hlow, hhigh⟩ := roundQuotient_bounds hn e
    have hwords : (n.log2 + e) * Nat.pow 2 52 ≤ 1085 * Nat.pow 2 52 :=
      Nat.mul_le_mul_right _ (by omega)
    have hfinite : (n.log2 + e) * Nat.pow 2 52
        + roundQuotient (n * 2 ^ (e + 52)) (2 ^ (n.log2 + e)) < limit :=
      Nat.lt_of_le_of_lt (Nat.add_le_add hwords hhigh) (by decide)
    rw [round?, if_neg hn]
    simp only [he, Nat.pow_eq, hcut, Nat.one_mul]
    rw [← Nat.pow_eq (m := 2) (n := 52), if_pos hfinite, Option.getD_some, scaled_compose hlow hhigh,
      roundQuotient_scaled]

/-! ### Integers of either sign -/

def nearest (i : Int) : Int := i.sign * nearestNat i.natAbs

theorem nearest_of_nonneg {i : Int} (h : 0 ≤ i) : nearest i = nearestNat i.natAbs := by
  rcases Int.lt_or_eq_of_le h with hpos | rfl
  · rw [nearest, Int.sign_eq_one_of_pos hpos, Int.one_mul]
  · rfl

theorem nearest_of_nonpos {i : Int} (h : i ≤ 0) : nearest i = -nearestNat i.natAbs := by
  rcases Int.lt_or_eq_of_le h with hneg | rfl
  · rw [nearest, Int.sign_eq_neg_one_of_neg hneg, Int.neg_mul, Int.one_mul]
  · rfl

theorem compare_ofInt {i j : Int} (hi : i.natAbs < 2 ^ 64) (hj : j.natAbs < 2 ^ 64) :
    (ofInt i).compare (ofInt j) = Ord.compare (nearest i) (nearest j) := by
  obtain ⟨denominator, hpos, hscaled⟩ := exists_denominator
  have hint {i : Int} (hi : i.natAbs < 2 ^ 64) : (ofInt i).toScaledInt = nearest i * denominator := by
    rw [toScaledInt, ofInt, hscaled _ hi]
    by_cases hneg : i < 0
    · rw [decide_eq_true hneg, if_pos rfl, nearest_of_nonpos hneg.le, Int.natCast_mul, Int.neg_mul]
    · rw [decide_eq_false hneg, if_neg Bool.false_ne_true, nearest_of_nonneg (Int.not_lt.1 hneg),
        Int.natCast_mul]
  have hpos : (0 : Int) < denominator := Int.natCast_pos.2 hpos
  rw [compare, hint hi, hint hj]
  rcases lt_trichotomy (nearest i) (nearest j) with hlt | heq | hgt
  · rw [compare_lt_iff_lt.2 hlt, compare_lt_iff_lt.2 (Int.mul_lt_mul_of_pos_right hlt hpos)]
  · rw [heq, compare_eq_iff_eq.2 rfl, compare_eq_iff_eq.2 rfl]
  · rw [compare_gt_iff_gt.2 hgt, compare_gt_iff_gt.2 (Int.mul_lt_mul_of_pos_right hgt hpos)]

theorem nearest_mono {i j : Int} (h : i ≤ j) : nearest i ≤ nearest j := by
  rcases Int.le_total 0 i with hi | hi
  · rw [nearest_of_nonneg hi, nearest_of_nonneg (hi.trans h)]
    exact Int.ofNat_le.2 (nearestNat_mono (by omega))
  · rw [nearest_of_nonpos hi]
    rcases Int.le_total 0 j with hj | hj
    · rw [nearest_of_nonneg hj]
      omega
    · rw [nearest_of_nonpos hj]
      exact Int.neg_le_neg (Int.ofNat_le.2 (nearestNat_mono (by omega)))

theorem nearestNat_error (n : Nat) : 2 * n ≤ 2 * nearestNat n + spacing n ∧
    2 * nearestNat n ≤ 2 * n + spacing n :=
  roundQuotient_error n (spacing_pos n)

end StaticPage.Binary64
