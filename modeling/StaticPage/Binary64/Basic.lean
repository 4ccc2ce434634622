/-!
# Finite binary64 numbers

A finite double is a sign and a magnitude. The magnitude is the number's 63 low bits read as a
natural number, so that the order of magnitudes is the order of the numbers they stand for. No
machine arithmetic is involved: rounding, product, quotient and comparison are computed on exact
ratios of natural numbers.
-/

namespace StaticPage

/-- A finite double: its sign, and its exponent and fraction bits as one number. -/
structure Binary64 where
  negative : Bool
  magnitude : Nat
  deriving DecidableEq, Repr, Inhabited

namespace Binary64

/-- The least magnitude that is not finite. -/
def limit : Nat := 2047 * Nat.pow 2 52

/-- The significand `m` of a magnitude, whose value is `m * 2 ^ (e - 1074)`. -/
def significand (magnitude : Nat) : Nat :=
  if magnitude < Nat.pow 2 52 then magnitude else Nat.pow 2 52 + magnitude % Nat.pow 2 52

/-- The exponent `e` of a magnitude, whose value is `m * 2 ^ (e - 1074)`. -/
def exponent (magnitude : Nat) : Nat :=
  magnitude / Nat.pow 2 52 - 1

/-- The numerator of the value of a magnitude over the denominator `2 ^ 1074`. -/
def scaled (magnitude : Nat) : Nat :=
  significand magnitude * Nat.pow 2 (exponent magnitude)

/-- The quotient of two natural numbers rounded to the nearest integer, a tie to the even one. -/
def roundQuotient (num den : Nat) : Nat :=
  let q := num / den
  let r := num % den
  if 2 * r < den then q else if den < 2 * r then q + 1 else q + q % 2

/-- The magnitude nearest to `num / den`, a tie to the even one; `none` if it is not finite. -/
def round? (num den : Nat) : Option Nat :=
  if num = 0 then some 0
  else
    -- the value over 2 ^ -1074, whose bit length decides how many bits are cut off
    let num' := num * Nat.pow 2 1074
    let bits := (num' / den).log2
    let cut := bits - 52
    let magnitude := cut * Nat.pow 2 52 + roundQuotient num' (den * Nat.pow 2 cut)
    if magnitude < limit then some magnitude else none

def zero (negative : Bool) : Binary64 := ⟨negative, 0⟩

/-- The double nearest to a natural number below `2 ^ 64`. -/
def ofNat (n : Nat) : Binary64 :=
  ⟨false, (round? n 1).getD 0⟩

/-- The double nearest to an integer between `-2 ^ 64` and `2 ^ 64`. -/
def ofInt (i : Int) : Binary64 :=
  ⟨i < 0, (round? i.natAbs 1).getD 0⟩

/-- The rounded product of two magnitudes; `none` if it is not finite. -/
def mul? (x y : Nat) : Option Nat :=
  round? (scaled x * scaled y) (Nat.pow 2 2148)

/-- The rounded quotient of two magnitudes. The second is not zero. -/
def div? (x y : Nat) : Option Nat :=
  round? (scaled x) (scaled y)

/-- The magnitude nearest to `10 ^ k`, for `k` up to 308. -/
def powerOfTen (k : Nat) : Nat :=
  (round? (Nat.pow 10 k) 1).getD 0

/-- The number as an integer multiple of `2 ^ -1074`. -/
def toScaledInt (x : Binary64) : Int :=
  if x.negative then -(scaled x.magnitude : Int) else scaled x.magnitude

/-- The order of the values; the two zeros are equal. -/
def compare (x y : Binary64) : Ordering :=
  Ord.compare x.toScaledInt y.toScaledInt

end Binary64

end StaticPage
