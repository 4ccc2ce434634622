import StaticPage.Markdown.CharacterReference
import StaticPage.Markdown.Piece
import StaticPage.Markdown.Table

/-!
# Lines of running text

A line of running text is cut into pieces before anything is known of how they belong together. What
ends the line is a piece of its own: it counts only if the text goes on in the next line.
-/

namespace StaticPage.Markdown

/-- What a line of running text may be: one like any other, one that may turn out to be the heads of a
table, or a row of which a cell is read. -/
inductive LineRole where
  | plain
  | heads
  | cell
  deriving DecidableEq, Repr, Inhabited

/-- What a line is read under. -/
structure LineSetting where
  source : Source
  extensions : Extensions
  containers : List Container
  role : LineRole
  start : Nat
  deriving Repr, Inhabited

/-- A line that is read: its pieces, the position behind it, and what ends it, if a text may go on
behind it or it turned out to be the heads of a table. -/
structure TextLine where
  pieces : List Piece
  stop : Nat
  ending : Option Piece
  deriving Repr, Inhabited

/-- What is read of a line: its pieces, last first; where the text since the last of them begins; the
number of pipes and the position of the last one. -/
structure LineReading where
  pieces : List Piece
  begin : Nat
  pipes : Nat
  lastPipe : Nat
  deriving Repr, Inhabited

namespace LineReading

/-- The text up to a position as a piece. -/
def flush (r : LineReading) (stop : Nat) : LineReading :=
  if r.begin < stop then { r with pieces := ⟨.text, r.begin, stop⟩ :: r.pieces } else r

def add (r : LineReading) (p : Piece) : LineReading :=
  { r.flush p.start with pieces := p :: (r.flush p.start).pieces, begin := p.stop }

def finish (r : LineReading) (text stop : Nat) (ending : Option Piece) : TextLine :=
  ⟨(r.flush text).pieces.reverse, stop, ending⟩

end LineReading

namespace LineSetting

/-- The alignments of the columns, if this line holds the heads of a table and the next one aligns as
many columns; and the position behind what is read of that line. -/
def headsEnd? (c : LineSetting) (r : LineReading) (next : Nat) : Option (List Alignment × Nat) :=
  if c.role ≠ .heads ∨ r.pipes = 0 then none
  else
    (Container.inside? c.source c.containers next).bind fun m =>
      (c.source.columns? m.position).filter fun (columns, _) =>
        columns.length = c.source.headCount c.start r.pipes r.lastPipe

/-- The line that ends with the line ending at a position. Two spaces before it, or a backslash that no
other one escapes, break the line; a backslash at the end of the source does not. -/
def lineEnd (c : LineSetting) (r : LineReading) (i next : Nat) : TextLine :=
  match c.headsEnd? r next with
  | some (columns, stop) => r.finish r.begin stop (some ⟨.table columns, i, stop⟩)
  | none =>
    let slashes := c.source.skipBack (· == '\\') 0 i
    let spaces := c.source.skipBack isSpace 0 i
    if (i - slashes) % 2 = 1 ∧ next < c.source.size then
      r.finish (i - 1) next (some ⟨.hardBreak, i - 1, next⟩)
    else if spaces + 2 ≤ i then r.finish spaces next (some ⟨.hardBreak, spaces, next⟩)
    else r.finish i next (some ⟨.softBreak, i, next⟩)

/-- The reading behind the character at a position, and the position from which it goes on. -/
def step (c : LineSetting) (r : LineReading) (i : Nat) (a : Char) : LineReading × Nat :=
  let s := c.source
  if a = '\\' then
    if !s.hasEscape i then (r, i + 1)
    else if s.has '\x60' (i + 1) then
      let stop := s.skipRun '\x60' (i + 1)
      ({ r.flush i with begin := i + 1 }.add ⟨.backticks (stop - (i + 1)) true, i + 1, stop⟩, stop)
    else ({ r.flush i with begin := i + 1 }, i + 2)
  else if a = '*' ∨ a = '_' ∨ (a = '~' ∧ c.extensions.strikethrough) then
    let stop := s.skipRun a i
    let run := Run.between a (stop - i) (if i = 0 then none else s.at? (i - 1)) (s.at? stop)
    if (run.opens || run.closes) && (a != '~' || stop ≤ i + 2) then
      (r.add ⟨.run run, i, stop⟩, stop)
    else (r, stop)
  else if a = '\x60' then
    let stop := s.skipRun a i
    (r.add ⟨.backticks (stop - i) false, i, stop⟩, stop)
  else if a = '<' then (r.add ⟨.angle, i, i + 1⟩, i + 1)
  else if a = '!' ∧ s.has '[' (i + 1) then (r.add ⟨.bracket true, i, i + 2⟩, i + 2)
  else if a = '[' then (r.add ⟨.bracket false, i, i + 1⟩, i + 1)
  else if a = ']' then (r.add ⟨.close false, i, i + 1⟩, i + 1)
  else
    match s.reference? i with
    | some (text, stop) => (r.add ⟨.literal text, i, stop⟩, stop)
    | none => (if a = '|' then { r with pipes := r.pipes + 1, lastPipe := i } else r, i + 1)

/-- The line from a position on. A cell ends with the line or at a pipe. -/
def readFrom (c : LineSetting) (r : LineReading) (i : Nat) : TextLine :=
  if h : i < c.source.chars.size then
    let a := c.source.chars[i]
    if c.role = .cell ∧ (isBreak a ∨ a = '|') then r.finish i i none
    else if isBreak a then c.lineEnd r i ((c.source.lineEnd? i).getD (i + 1))
    else
      let (r, next) := c.step r i a
      if i < next then c.readFrom r next else r.finish i i none
  else r.finish i i none
termination_by c.source.chars.size - i

/-- The line that begins where the setting says. -/
def read (c : LineSetting) : TextLine :=
  c.readFrom ⟨[], c.start, 0, c.start⟩ c.start

end LineSetting

end StaticPage.Markdown
