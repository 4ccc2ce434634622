import StaticPage.Binary64.Basic

/-!
# Shortest decimal digits

The shortest decimal of a positive double is the one with the fewest digits among those that lie in
the interval of reals rounding to it, and among these the nearest. For each number of digits only
the two neighbours of the value on that decimal grid need to be tried: if any point of the grid
lies in the interval, so does one of them.
-/

namespace StaticPage

namespace Binary64

/-- A decimal `digits * 10 ^ exponent`. -/
structure Decimal where
  digits : Nat
  exponent : Int
  deriving DecidableEq, Repr, Inhabited

/-- The reals that round to a magnitude, over the denominator `2 ^ 1075`: the lower end, the value,
the upper end, and whether the ends belong to it. -/
structure Interval where
  low : Nat
  value : Nat
  high : Nat
  closed : Bool

/-- The interval of a positive magnitude. Below a power of two the gap is half as wide, and the ends
belong to it exactly when the significand is even. -/
def interval (magnitude : Nat) : Interval :=
  let m := significand magnitude
  let half := Nat.pow 2 (exponent magnitude)
  let value := 2 * m * half
  let below := if m = Nat.pow 2 52 ∧ 0 < exponent magnitude then half / 2 else half
  { low := value - below, value, high := value + half, closed := m % 2 = 0 }

/-- Whether `point / scale` lies in an interval. -/
def Interval.contains (i : Interval) (point scale : Nat) : Bool :=
  if i.closed then i.low * scale ≤ point && point ≤ i.high * scale
  else i.low * scale < point && point < i.high * scale

/-- The nearest of the two neighbours of the value on the grid of step `10 ^ e` that lies in the
interval, a tie to the even digits. -/
def onGrid? (i : Interval) (e : Int) : Option Nat :=
  let unit := Nat.pow 2 1075 * Nat.pow 10 e.toNat
  let scale := Nat.pow 10 (-e).toNat
  let v := i.value * scale
  let d := v / unit
  let r := v % unit
  let lower := 0 < d && i.contains (d * unit) scale
  let upper := i.contains ((d + 1) * unit) scale
  if lower && upper then
    some (if 2 * r < unit then d else if unit < 2 * r then d + 1 else d + d % 2)
  else if lower then some d
  else if upper then some (d + 1)
  else none

/-- The first grid that has a point in the interval, from the step `10 ^ e` on to finer ones. -/
def firstGrid (i : Interval) : (fuel : Nat) → (e : Int) → Decimal
  | 0, e => ⟨0, e⟩
  | fuel + 1, e =>
    match onGrid? i e with
    | some d => ⟨d, e⟩
    | none => firstGrid i fuel (e - 1)

/-- An exponent `e` such that the value lies below `10 ^ e`, and at most two above the least one. -/
def decimalBound (i : Interval) : Int :=
  ((i.value.log2 : Int) - 1074) * 30103 / 100000 + 2

/-- The shortest decimal that reads back as a positive magnitude, the nearest one of them. Seventeen
digits always suffice, so at most twenty grids are tried. -/
def shortest (magnitude : Nat) : Decimal :=
  let i := interval magnitude
  firstGrid i 21 (decimalBound i)

end Binary64

end StaticPage
