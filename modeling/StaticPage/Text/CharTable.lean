import StaticPage.Text.Characters

/-!
# Tables of characters

A table says something of characters, for runs of characters whose numbers follow each other. It is
written as rows of entries with semicolons between them. An entry gives the first and the last number
of a run in hexadecimal, or its only one, and after that in words what is said of the run.
-/

namespace StaticPage.Text

/-- A run of characters, by the numbers of the first and the last one, and what is said of them. -/
structure CharRun (α : Type) where
  first : Nat
  last : Nat
  value : α
  deriving Inhabited

/-- Runs of characters, in the order of their numbers. -/
structure CharTable (α : Type) where
  runs : Array (CharRun α)

namespace CharTable

variable {α : Type}

/-- The run that holds a number, among those between two places of a table. -/
def search (runs : Array (CharRun α)) (n low high : Nat) : Option (CharRun α) :=
  if _h : low < high then
    let middle := (low + high) / 2
    match runs[middle]? with
    | none => none
    | some r =>
      if n < r.first then search runs n low middle
      else if r.last < n then search runs n (middle + 1) high
      else some r
  else none
termination_by high - low

def run? (t : CharTable α) (c : Char) : Option (CharRun α) :=
  search t.runs c.toNat 0 t.runs.size

def get? (t : CharTable α) (c : Char) : Option α :=
  (t.run? c).map CharRun.value

def contains (t : CharTable α) (c : Char) : Bool :=
  (t.run? c).isSome

/-- The number that hexadecimal digits stand for, or zero. -/
def readNumber (digits : String) : Nat :=
  (hexNumber? digits.toList).getD 0

def readRun (read : List String → α) (entry : String) : CharRun α :=
  let words := entry.splitOn " "
  let bounds := (words.headD "").splitOn "-"
  ⟨readNumber (bounds.headD ""), readNumber (bounds.getLastD ""), read (words.drop 1)⟩

def ofRows (rows : List String) (read : List String → α) : CharTable α :=
  ⟨(rows.flatMap fun row => (row.splitOn ";").map (readRun read)).toArray⟩

end CharTable

end StaticPage.Text
