import StaticPage.Calendar.Date

/-!
# Instants

A timestamp names an instant: a date, a time of day and an offset from universal time. Two timestamps
are compared by their instants, so that `10:00+02:00` is earlier than `09:30Z`.
-/

namespace StaticPage

/-- An instant: whole seconds since the first day of the year 1, and nanoseconds. In a leap second
the nanoseconds go on past a thousand million. -/
structure Instant where
  seconds : Int
  nanos : Nat
  deriving DecidableEq, Repr, Inhabited

namespace Instant

def compare (a b : Instant) : Ordering :=
  (Ord.compare a.seconds b.seconds).then (Ord.compare a.nanos b.nanos)

/-- A number of exactly `count` digits at the front of a text. -/
def exactly? (count : Nat) (s : List Char) : Option (Nat × List Char) :=
  let ds := s.take count
  if ds.length = count ∧ ds.all Char.isDigit then
    some (ds.foldl (fun n c => n * 10 + (c.toNat - 48)) 0, s.drop count)
  else none

def oneOf? (cs : List Char) : List Char → Option (List Char)
  | c :: s => if cs.contains c then some s else none
  | [] => none

/-- Nanoseconds after a point: the first nine digits count, and all are taken. -/
def fraction? (s : List Char) : Option (Nat × List Char) :=
  let ds := s.takeWhile Char.isDigit
  if ds.isEmpty then none
  else
    let nine := ds.take 9
    some (nine.foldl (fun n c => n * 10 + (c.toNat - 48)) 0 * Nat.pow 10 (9 - nine.length),
      s.dropWhile Char.isDigit)

/-- The offset from universal time in seconds: `Z`, or a sign, hours and minutes. -/
def offset? (s : List Char) : Option (Int × List Char) :=
  match oneOf? ['Z', 'z'] s with
  | some rest => some (0, rest)
  | none => do
    let negative ← match s with
      | '+' :: _ => some false
      | '-' :: _ => some true
      | '−' :: _ => some true
      | _ => none
    let (hours, s) ← exactly? 2 s.tail
    let s ← oneOf? [':'] s
    let (minutes, s) ← exactly? 2 s
    if minutes < 60 ∧ hours < 24 then
      let total : Int := hours * 3600 + minutes * 60
      some (if negative then -total else total, s)
    else none

/-- The instant that a timestamp names: `YYYY-MM-DDThh:mm:ss`, a fraction of a second or none, and an
offset. A space may stand for the `T`, and the second may be 60. -/
def parse? (s : List Char) : Option Instant := do
  let (year, s) ← exactly? 4 s
  let s ← oneOf? ['-'] s
  let (month, s) ← exactly? 2 s
  let s ← oneOf? ['-'] s
  let (day, s) ← exactly? 2 s
  let s ← oneOf? ['T', 't', ' '] s
  let (hour, s) ← exactly? 2 s
  let s ← oneOf? [':'] s
  let (minute, s) ← exactly? 2 s
  let s ← oneOf? [':'] s
  let (second, s) ← exactly? 2 s
  let (nanos, s) ← match s with
    | '.' :: s => fraction? s
    | s => some (0, s)
  let (offset, s) ← offset? s
  let date ← Date.ofParts? year month day
  if s.isEmpty ∧ hour < 24 ∧ minute < 60 ∧ second ≤ 60 then
    let whole := if second = 60 then 59 else second
    let leap := if second = 60 then 1000000000 else 0
    some ⟨date.dayNumber * 86400 + hour * 3600 + minute * 60 + whole - offset, nanos + leap⟩
  else none

end Instant

end StaticPage
