/-!
# Punycode

A label with characters beyond ASCII is written in ASCII: first its ASCII characters, then for each of
the others, in the order of their numbers, how far it is from the one before, counting every place
where it could have stood. The distances are numbers of varying length in base 36 whose digits have
thresholds that adapt to what was written before.
-/

namespace StaticPage.Url.Punycode

def digit (n : Nat) : Char :=
  if n < 26 then Char.ofNat (97 + n) else Char.ofNat (22 + n)

def threshold (place bias : Nat) : Nat :=
  min 26 (max 1 (place - bias))

/-- Divides a distance until it is small, counting places. -/
def shrink (delta place : Nat) : Nat × Nat :=
  if 455 < delta then shrink (delta / 35) (place + 36) else (delta, place)
termination_by delta

/-- The bias after a distance has been written for the character that makes `count`. -/
def adapt (delta count : Nat) (first : Bool) : Nat :=
  let d := if first then delta / 700 else delta / 2
  let (d, place) := shrink (d + d / count) 0
  place + 36 * d / (d + 38)

/-- The digits of a distance. -/
def distance (bias place delta : Nat) : List Char :=
  let t := threshold place bias
  if delta < t then [digit delta]
  else digit (t + (delta - t) % (36 - t)) :: distance bias (place + 36) ((delta - t) / (36 - t))
termination_by delta
decreasing_by
  have ht : 1 ≤ threshold place bias := by simp only [threshold]; omega
  exact Nat.lt_of_le_of_lt (Nat.div_le_self _ _) (by omega)

/-- What has been written of a label: the digits, the distance that has been counted, the bias, and
how many characters are written. -/
structure Writing where
  text : List Char
  delta : Nat
  bias : Nat
  count : Nat

/-- Counts or writes a character of the label when the characters of a number are due. -/
def visit (basic due : Nat) (w : Writing) (c : Char) : Writing :=
  if c.toNat < due then { w with delta := w.delta + 1 }
  else if c.toNat = due then
    { text := w.text ++ distance w.bias 36 w.delta
      delta := 0
      bias := adapt w.delta (w.count + 1) (w.count == basic)
      count := w.count + 1 }
  else w

/-- Writes the characters of numbers, which come in order; those below `next` are done. -/
def writeAll (label : List Char) (basic : Nat) : (numbers : List Nat) → (next : Nat) → Writing →
    Writing
  | [], _, w => w
  | due :: numbers, next, w =>
    let w := { w with delta := w.delta + (due - next) * (w.count + 1) }
    let w := label.foldl (visit basic due) w
    writeAll label basic numbers (due + 1) { w with delta := w.delta + 1 }

/-- A label in ASCII, without the mark that tells it is one. -/
def encode (label : List Char) : List Char :=
  let basic := label.filter (·.toNat < 128)
  let numbers := ((label.map Char.toNat).filter (128 ≤ ·)).eraseDups.mergeSort (· ≤ ·)
  let text := if basic.isEmpty then [] else basic ++ ['-']
  (writeAll label basic.length numbers 128 ⟨text, 0, 72, basic.length⟩).text

/-- The value of a digit of base 36, of either case. -/
def digitValue? (c : Char) : Option Nat :=
  if c.isLower then some (c.toNat - 97)
  else if c.isUpper then some (c.toNat - 65)
  else if c.isDigit then some (c.toNat - 22)
  else none

/-- Reads a distance: the digits up to the first one below its threshold, each with the weight that
the thresholds before it give. -/
def readDistance? (bias : Nat) : (place weight sum : Nat) → List Char → Option (Nat × List Char)
  | _, _, _, [] => none
  | place, weight, sum, c :: s =>
    match digitValue? c with
    | none => none
    | some d =>
      let sum := sum + d * weight
      let t := threshold place bias
      if d < t then some (sum, s) else readDistance? bias (place + 36) (weight * (36 - t)) sum s

/-- Reads distances and puts the characters they lead to in their places; `index` is where the last
one was put, and `number` what it was. -/
def readAll? : (fuel : Nat) → (label : List Char) → (number index bias : Nat) → (first : Bool) →
    List Char → Option (List Char)
  | _, label, _, _, _, _, [] => some label
  | 0, _, _, _, _, _, _ => none
  | fuel + 1, label, number, index, bias, first, s => do
    let (delta, s) ← readDistance? bias 36 1 0 s
    let count := label.length + 1
    let number := number + (index + delta) / count
    let index := (index + delta) % count
    if h : number.isValidChar then
      readAll? fuel (label.take index ++ Char.ofNatAux number h :: label.drop index) number
        (index + 1) (adapt delta count first) false s
    else none

/-- The label that a text in ASCII stands for. -/
def decode? (s : List Char) : Option (List Char) :=
  let tail := (s.reverse.takeWhile (· != '-')).reverse
  let basic := (s.take (s.length - tail.length)).dropLast
  if basic.all (·.toNat < 128) then readAll? s.length basic 128 0 72 true tail else none

end StaticPage.Url.Punycode
