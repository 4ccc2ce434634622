import StaticPage.Text.Characters

/-!
# Dates

Dates of the proleptic Gregorian calendar, and how they are read from the front of a file name.
-/

namespace StaticPage

/-- A day of the proleptic Gregorian calendar. -/
structure Date where
  year : Int
  month : Nat
  day : Nat
  deriving DecidableEq, Repr, Inhabited

namespace Date

def isLeap (year : Int) : Bool :=
  year % 4 = 0 && (year % 100 ≠ 0 || year % 400 = 0)

def daysInMonth (year : Int) (month : Nat) : Nat :=
  match month with
  | 1 | 3 | 5 | 7 | 8 | 10 | 12 => 31
  | 4 | 6 | 9 | 11 => 30
  | 2 => if isLeap year then 29 else 28
  | _ => 0

def inRange (year : Int) : Bool :=
  -262143 ≤ year && year ≤ 262142

/-- The date of a year, a month and a day, if there is one. -/
def ofParts? (year : Int) (month day : Nat) : Option Date :=
  if inRange year && 1 ≤ day && day ≤ daysInMonth year month then some ⟨year, month, day⟩ else none

def daysBeforeMonth (year : Int) (month : Nat) : Nat :=
  (List.range (month - 1)).foldl (fun n i => n + daysInMonth year (i + 1)) 0

/-- The days from the first day of the year 1 to a date. -/
def dayNumber (d : Date) : Int :=
  let y := d.year - 1
  365 * y + y / 4 - y / 100 + y / 400 + daysBeforeMonth d.year d.month + (d.day - 1 : Nat)

/-- A natural number of at least one and at most `most` digits at the front of a text. -/
def number? (most : Nat) (s : List Char) : Option (Nat × List Char) :=
  let ds := (s.take most).takeWhile Char.isDigit
  if ds.isEmpty then none
  else some (ds.foldl (fun n c => n * 10 + (c.toNat - 48)) 0, s.drop ds.length)

/-- A year at the front of a text: up to four digits, or a sign and any number of them. Blanks may
stand before it. -/
def yearField? (s : List Char) : Option (Int × List Char) :=
  match Text.trimStart s with
  | '-' :: s => (number? s.length s).map fun (n, rest) => (-(n : Int), rest)
  | '+' :: s => (number? s.length s).map fun (n, rest) => ((n : Int), rest)
  | s => (number? 4 s).map fun (n, rest) => ((n : Int), rest)

/-- A month or a day at the front of a text: one or two digits. Blanks may stand before it. -/
def smallField? (s : List Char) : Option (Nat × List Char) :=
  number? 2 (Text.trimStart s)

def hyphen? : List Char → Option (List Char)
  | '-' :: s => some s
  | _ => none

/-- The date that a text spells: year, month and day, with a hyphen right after the first two. -/
def parse? (s : List Char) : Option Date := do
  let (year, s) ← yearField? s
  let s ← hyphen? s
  let (month, s) ← smallField? s
  let s ← hyphen? s
  let (day, s) ← smallField? s
  if s.isEmpty then ofParts? year month day else none

end Date

end StaticPage
