import StaticPage.Markdown.Source

/-!
# The margin of a line

Containers and indentation are read off the margin of a line, in columns. A tab reaches to the next
column that is a multiple of four, counted from the beginning of the line or from the tab before, and
a container may use a part of it.
-/

namespace StaticPage.Markdown

/-- A place in the margin of a line: its position, the position from which columns are counted, and
the columns of a tab in front of it that no container has used. -/
structure Margin where
  position : Nat
  origin : Nat
  pending : Nat
  deriving DecidableEq, Repr, Inhabited

namespace Margin

def start (i : Nat) : Margin :=
  ⟨i, i, 0⟩

/-- `skip` where no columns are pending. -/
def skipFrom (s : Source) (position origin n : Nat) : Nat × Margin :=
  if _h : n = 0 then (0, ⟨position, origin, 0⟩)
  else if s.has ' ' position then skipFrom s (position + 1) origin (n - 1)
  else if s.has '\t' position then
    let width := 4 - (position - origin) % 4
    if n ≤ width then (0, ⟨position + 1, position + 1, width - n⟩)
    else skipFrom s (position + 1) (position + 1) (n - width)
  else (n, ⟨position, origin, 0⟩)
termination_by n
decreasing_by all_goals omega

/-- Skips at most `n` columns of spaces and tabs; the columns that were missing, and the place behind
those that were there. -/
def skip (s : Source) (m : Margin) (n : Nat) : Nat × Margin :=
  if n ≤ m.pending then (0, { m with pending := m.pending - n })
  else skipFrom s m.position m.origin (n - m.pending)

def text (s : Source) (m : Margin) : Nat :=
  s.skipWhile (fun c => c == ' ' || c == '\t') m.position

def isAtLineEnd (s : Source) (m : Margin) : Bool :=
  (s.lineEnd? m.position).isSome

/-- The place behind the mark of a quote and one column after it. The mark stands behind at most three
columns, or behind the rest of a tab. -/
def quote? (s : Source) (m : Margin) : Option Margin :=
  let (_, m) := m.skip s 3
  if s.has '>' m.position then some (skip s { m with position := m.position + 1 } 1).2 else none

end Margin

/-- A container of blocks. The lines of an item are indented by its width. -/
inductive Container where
  | quote
  | list
  | item (width : Nat)
  deriving DecidableEq, Repr, Inhabited

namespace Container

/-- How many containers, outermost first, go on in a line, and the margin behind them. An item goes on
in a line that ends behind its other containers. -/
def matching (s : Source) : List Container → Margin → Nat × Margin
  | [], m => (0, m)
  | quote :: rest, m =>
    match m.quote? s with
    | some m => let (n, m) := matching s rest m; (n + 1, m)
    | none => (0, m)
  | list :: rest, m => let (n, m) := matching s rest m; (n + 1, m)
  | item width :: rest, m =>
    let (missing, inner) := m.skip s width
    if missing = 0 || inner.isAtLineEnd s then let (n, m) := matching s rest inner; (n + 1, m)
    else (0, m)

/-- The margin behind the containers that go on in the line at a position, and whether all do. -/
def enter (s : Source) (containers : List Container) (i : Nat) : Bool × Margin :=
  let (n, m) := matching s containers (Margin.start i)
  (n == containers.length, m)

/-- The margin behind all containers, if all of them go on in the line at a position. -/
def inside? (s : Source) (containers : List Container) (i : Nat) : Option Margin :=
  let (all, m) := enter s containers i
  if all then some m else none

/-- The position behind the containers that go on in the line at a position. -/
def behind (s : Source) (containers : List Container) (i : Nat) : Nat :=
  (enter s containers i).2.position

end Container

end StaticPage.Markdown
