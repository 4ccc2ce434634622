import StaticPage.Markdown.Element
import StaticPage.Markdown.Source

/-!
# Tables

A table begins with a row of heads and a line that aligns its columns. Pipes divide the cells of a
row; those at its ends divide nothing.
-/

namespace StaticPage.Markdown

/-- The reading of a line that aligns columns: those read before, and of the column at hand its
alignment and whether nothing of it is read yet. -/
structure ColumnReading where
  columns : List Alignment
  current : Alignment
  fresh : Bool
  deriving Repr, Inhabited

namespace ColumnReading

/-- A colon on either side of a column says to which side its cells are drawn. -/
def colon (r : ColumnReading) : ColumnReading :=
  let current : Alignment :=
    match r.fresh, r.current with
    | true, .none => .left
    | false, .left => .center
    | false, .none => .right
    | _, a => a
  { r with current, fresh := false }

/-- The columns of the line as far as it is read. -/
def finish (r : ColumnReading) : List Alignment :=
  if r.fresh then r.columns else r.columns ++ [r.current]

/-- The columns of a line, and the position behind it. A character that does not belong to such a line
ends the reading; no columns are left then. -/
def read (s : Source) (r : ColumnReading) (i : Nat) : List Alignment × Nat :=
  if h : i < s.chars.size then
    match s.lineEnd? i with
    | some next => (r.finish, next)
    | none =>
      match s.chars[i] with
      | ' ' => read s r (i + 1)
      | '-' => read s { r with fresh := false } (i + 1)
      | ':' => read s r.colon (i + 1)
      | '|' => read s ⟨r.columns ++ [r.current], .none, true⟩ (i + 1)
      | _ => ([], i)
  else (r.finish, i)
termination_by s.chars.size - i

end ColumnReading

namespace Source

/-- The columns that are aligned by the line at a position, and the position behind what is read of it.
The line is indented by at most three spaces, and something of it is read. -/
def columns? (s : Source) (i : Nat) : Option (List Alignment × Nat) :=
  let start := s.skipRun ' ' i
  if i + 3 < start || s.has '\t' start || s.size ≤ start then none
  else
    let (columns, stop) :=
      ColumnReading.read s ⟨[], .none, true⟩ (if s.has '|' start then start + 1 else start)
    if i < stop then some (columns, stop) else none

/-- The number of columns of a row of heads with this many pipes. Pipes at its ends divide nothing. -/
def headCount (s : Source) (start pipes last : Nat) : Nat :=
  let pipes := if s.has '|' (s.skipWhile isSpace start) then pipes - 1 else pipes
  if (s.blankEnd? (last + 1)).isSome then pipes else pipes + 1

end Source

end StaticPage.Markdown
