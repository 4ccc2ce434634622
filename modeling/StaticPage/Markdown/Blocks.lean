import StaticPage.Markdown.Definition
import StaticPage.Markdown.TextLine

/-!
# From lines to blocks

Each line goes on with the open containers or closes some, opens others, and begins a block that may
take further lines: an indented or fenced piece of code, raw HTML, a rule, a heading, a definition, a
table or a paragraph. A function that reads a block answers with the outline after it and the position
behind it.
-/

namespace StaticPage.Markdown

/-- This word stands between two positions. -/
def Source.contains (s : Source) (word : String) (i stop : Nat) : Bool :=
  if i < stop ∧ i + word.length ≤ stop then s.startsWith word i || s.contains word (i + 1) stop
  else false
termination_by stop - i

/-- A line of raw text ends in a carriage return and one more character of a single byte. In a line that
a newline ends these two are its ending. -/
def Source.endsInReturn (s : Source) (stop : Nat) : Bool :=
  2 ≤ stop && s.has '\r' (stop - 2) && (s.at? (stop - 1)).any fun c => c.utf8Size == 1

namespace Outline

/-- The columns in front of raw text that no container has used, as spaces. -/
def addPending (o : Outline) (m : Margin) : Outline :=
  if m.pending = 0 then o else o.add ⟨.literal ("".pushn ' ' m.pending), m.position, m.position⟩

/-! ### Code -/

/-- A line of code from a margin up to a position, without the carriage return in its ending. -/
def addCode (s : Source) (o : Outline) (m : Margin) (stop : Nat) : Outline :=
  let o := o.addPending m
  if s.endsInReturn stop then (o.addText m.position (stop - 2)).addText (stop - 1) stop
  else o.addText m.position stop

/-- The lines of an indented piece of code, with the position behind them; the number of the last piece
that is not in the blank lines at their end, and the position where it stops. The lines are indented by
four columns or end before. -/
def indentedLines (s : Source) (o : Outline) (m : Margin) (kept : Option (Nat × Nat)) :
    Outline × Nat × Option (Nat × Nat) :=
  let next := s.nextLine m.position
  let o := o.addCode s m next
  let kept :=
    if kept.isSome && (s.blankEnd? m.position).isSome then kept else o.last?.map fun id => (id, next)
  match Container.inside? s o.containers next with
  | none => (o, next, kept)
  | some m' =>
    let (missing, inner) := m'.skip s 4
    if (missing ≠ 0 && !inner.isAtLineEnd s) || inner.position = s.size then (o, next, kept)
    else if m.position < inner.position ∧ m.position < s.size then indentedLines s o inner kept
    else (o, next, kept)
termination_by s.size - m.position

/-- An indented piece of code, without the blank lines at its end. -/
def readIndentedCode (s : Source) (o : Outline) (m : Margin) : Outline × Nat :=
  let (o, next, kept) := (o.openBlock ⟨.code none, m.position, 0⟩).indentedLines s m none
  match o.opened, kept with
  | b :: rest, some (id, stop) =>
    let content := b.content.dropWhile fun t => t.id != id
    ((close { o.stopAt id stop with opened := { b with content } :: rest } stop), next)
  | _, _ => (o.close next, next)

/-- The lines inside a fence, and the position behind the one that closes it. -/
def fencedLines (s : Source) (mark : Char) (length indent : Nat) (o : Outline) (i : Nat) :
    Outline × Nat :=
  match Container.inside? s o.containers i with
  | none => (o, i)
  | some m =>
    let m := (m.skip s indent).2
    let (missing, closing) := m.skip s 4
    match if missing = 0 then none else s.fenceEnd? mark length closing.position with
    | some stop => (o, stop)
    | none =>
      let next := s.nextLine m.position
      let o := o.addCode s m next
      if _h : i < next ∧ i < s.size then fencedLines s mark length indent o next else (o, next)
termination_by s.size - i
decreasing_by exact Nat.sub_lt_sub_left _h.2 _h.1

/-- A fenced piece of code that begins with a fence at a position, in a line with this indentation. A
blank line behind it is taken as well. -/
def readFencedCode (s : Source) (mark : Char) (length indent : Nat) (o : Outline) (i : Nat) :
    Outline × Nat :=
  let start := s.skipWhile isSpace (i + length)
  let next := s.nextLine start
  let info := unescape (s.slice start (s.skipBack isAsciiBlank start next))
  let o := o.openBlock ⟨.code (some (String.ofList info)), i, 0⟩
  let (o, stop) := o.fencedLines s mark length indent next
  (o.close stop, s.skipBlank stop)

/-! ### Raw HTML -/

/-- A line of raw HTML from a margin up to a position, without the carriage return in its ending. -/
def addHtml (s : Source) (o : Outline) (m : Margin) (stop : Nat) : Outline :=
  let o := o.addPending m
  if s.endsInReturn stop then
    (o.add ⟨.html, m.position, stop - 2⟩).add ⟨.html, stop - 1, stop⟩
  else o.add ⟨.html, m.position, stop⟩

/-- Raw HTML up to the line that holds the mark which ends it. -/
def readVerbatim (s : Source) (close : String) (o : Outline) (m : Margin) : Outline × Nat :=
  let next := s.nextLine m.position
  let o := o.addHtml s m next
  match Container.inside? s o.containers next with
  | none => (o, next)
  | some inner =>
    if s.contains close m.position next || inner.position = s.size then (o, next)
    else if m.position < inner.position ∧ m.position < s.size then readVerbatim s close o inner
    else (o, next)
termination_by s.size - m.position

def readHtml (s : Source) (o : Outline) (m : Margin) : Outline × Nat :=
  let next := s.nextLine m.position
  let o := o.addHtml s m next
  match Container.inside? s o.containers next with
  | none => (o, next)
  | some inner =>
    if (s.blankEnd? inner.position).isSome then (o, next)
    else if m.position < inner.position ∧ m.position < s.size then readHtml s o inner
    else (o, next)
termination_by s.size - m.position

/-- Raw HTML that begins with an opening angle bracket at a position. A tag that is complete begins it
if nothing follows on its line. The columns that are pending in front of the indentation are kept, the
indentation is not. -/
def readHtml? (s : Source) (o : Outline) (pending i : Nat) : Option (Outline × Nat) :=
  if !s.has '<' i then none
  else
    match verbatimEnd? s (i + 1) with
    | some close => some (o.readVerbatim s close ⟨i, i, pending⟩)
    | none =>
      if startsBlockTag s (i + 1) || (tag? s none i).any fun t => (s.blankEnd? t.stop).isSome then
        some (o.readHtml s ⟨i, i, pending⟩)
      else none

/-! ### Headings -/

/-- The last piece of a heading cut off before the spaces and the number signs at the end of the line.
The number signs count if a space stands in front of them, or nothing does. -/
def cutHeading (s : Source) (o : Outline) (start stop : Nat) : Outline :=
  match o.last? with
  | none => o
  | some id =>
    let text := s.skipBack (fun c => isBreak c || c == ' ') start stop
    let signs := s.skipBack (· == '#') start text
    let spaces := s.skipBack (· == ' ') start signs
    o.stopAt id (if signs = start then start else if spaces < signs then spaces else text)

/-- A heading marked in front by number signs at a position. A backslash at its end is text. -/
def readHeading (s : Source) (ext : Extensions) (o : Outline) (level i : Nat) : Outline × Nat :=
  let o := o.openBlock ⟨.heading level, i, 0⟩
  match s.lineEnd? (i + level) with
  | some next => (o.close next, next)
  | none =>
    let start := s.skipWhile isSpace (i + level)
    let line := LineSetting.read ⟨s, ext, o.containers, .plain, start⟩
    let o := o.addAll line.pieces
    let o :=
      match line.ending with
      | some p => if p.kind = Kind.hardBreak ∧ s.has '\\' p.start then o.addText p.start p.stop else o
      | none => o
    ((o.cutHeading s start line.stop).close line.stop, line.stop)

/-- The open paragraph as a heading that is underlined. The spaces at its end are cut off, unless a
backslash follows them. -/
def underlined (s : Source) (o : Outline) (b : Opened) (level : Nat) (ending : Option Piece) : Outline :=
  let slash := ending.any fun p => p.kind == Kind.hardBreak && s.has '\\' p.start
  let o :=
    match o.last? with
    | none => o
    | some id =>
      if slash then o else o.stopAt id (s.skipBack isSpace (o.piece b.id).start (o.piece id).stop)
  let o := o.become b.id (.heading level)
  match ending with
  | some p => if slash then o.addText p.start (p.start + 1) else o
  | none => o

/-! ### Tables -/

/-- The spaces cut off at the end of a cell that stops at a position. -/
def cutCell (s : Source) (o : Outline) (stop : Nat) : Outline :=
  match o.last? with
  | none => o
  | some id => o.modify id fun p => { p with stop := p.stop - (stop - s.skipBack isSpace 0 stop) }

/-- The cells of a row from a position on, the position behind the row, and the number of the cells; `k`
of them are read. -/
def readCells (s : Source) (ext : Extensions) (columns : List Alignment) (inHead : Bool) (o : Outline)
    (k i : Nat) : Outline × Nat × Nat :=
  let start := if s.has '|' i then i + 1 else i
  let text := s.skipWhile isSpace start
  match s.lineEnd? text with
  | some next => (o, next, k)
  | none =>
    let o := o.openBlock ⟨.cell inHead (columns.getD k .none), start, text⟩
    let line := LineSetting.read ⟨s, ext, o.containers, .cell, text⟩
    let o := ((o.addAll line.pieces).cutCell s line.stop).close line.stop
    if h : i < line.stop ∧ i < s.size then readCells s ext columns inHead o (k + 1) line.stop
    else (o, line.stop, k + 1)
termination_by s.size - i
decreasing_by exact Nat.sub_lt_sub_left h.2 h.1

/-- The cells that a row of `n` columns keeps, last first. -/
def keptCells (n : Nat) (content : List Tree) : List Tree :=
  if n = 0 then content else content.drop (content.length - n)

/-- A row of a table at a position. Cells that are missing are empty; those beyond the columns are
dropped, if there are columns at all. -/
def readRow (s : Source) (ext : Extensions) (columns : List Alignment) (inHead : Bool) (o : Outline)
    (i : Nat) : Outline × Nat :=
  let o := o.openBlock ⟨if inHead then .head else .row, i, 0⟩
  let (o, next, k) := o.readCells s ext columns inHead 0 i
  let o := (columns.drop k).foldl (fun o a =>
    (o.openBlock ⟨.cell inHead a, next, next⟩).close next) o
  match o.opened with
  | b :: rest =>
    let content := keptCells columns.length b.content
    (close { o with opened := { b with content } :: rest } next, next)
  | [] => (o, next)

/-- The rows of a table behind its heads. -/
def readRows (s : Source) (ext : Extensions) (columns : List Alignment) (o : Outline) (i : Nat) :
    Outline × Nat :=
  match Container.inside? s o.containers i with
  | none => (o, i)
  | some m =>
    let text := m.text s
    if s.interrupts true text then (o, i)
    else
      let (o, next) := o.readRow s ext columns false text
      if i < next ∧ i < s.size then readRows s ext columns o next else (o, next)
termination_by s.size - i

/-- The open paragraph as a table: its line is read again as the heads, and the rows begin behind the
line that aligns the columns. -/
def readTable (s : Source) (ext : Extensions) (columns : List Alignment) (o : Outline)
    (start rows : Nat) : Outline × Nat :=
  match o.opened with
  | [] => (o, rows)
  | b :: rest =>
    let o := { o.become b.id (.table columns) with opened := ⟨b.id, []⟩ :: rest }
    let (o, _) := o.readRow s ext columns true start
    let (o, next) := o.readRows s ext columns rows
    (o.close next, next)

/-! ### Paragraphs -/

/-- The open paragraph from a line on. A line that does not go on with all containers may still go on
with the paragraph. -/
def readParagraph (s : Source) (ext : Extensions) (first : Bool) (o : Outline) (i : Nat) :
    Outline × Nat :=
  let role := if first && ext.tables then LineRole.heads else .plain
  let line := LineSetting.read ⟨s, ext, o.containers, role, i⟩
  let o := o.addAll line.pieces
  match line.ending.map Piece.kind with
  | some (.table columns) => o.readTable s ext columns i line.stop
  | _ =>
    let next := line.stop
    let (all, m) := Container.enter s o.containers next
    let (missing, inner) := m.skip s 4
    match o.opened.head?, if missing ≠ 0 && all then s.underline? inner.position else none with
    | some b, some (level, stop) => ((o.underlined s b level line.ending).close stop, stop)
    | _, _ =>
      let text := inner.text s
      if (missing ≠ 0 && s.interrupts all inner.position) || (s.lineEnd? text).isSome then
        (o.close next, next)
      else if i < text ∧ i < s.size then
        readParagraph s ext false (line.ending.elim o o.add) text
      else (o.close next, next)
termination_by s.size - i

/-! ### Lines -/

/-- The outline after the block that begins at a margin, and the position behind the block. -/
def readLeaf (s : Source) (ext : Extensions) (o : Outline) (m : Margin) : Outline × Nat :=
  let (missing, inner) := m.skip s 4
  let i := inner.position
  if missing = 0 then o.readIndentedCode s inner
  else
    match o.readHtml? s m.pending i with
    | some r => r
    | none =>
      match s.ruleEnd? i with
      | some next => (o.add ⟨.rule, i, next⟩, next)
      | none =>
        match s.headingLevel? i with
        | some level => o.readHeading s ext level i
        | none =>
          match definition? s o.containers i with
          | some (d, next) => (o.define d, s.skipBlank next)
          | none =>
            match s.fence? i with
            | some (mark, length) => o.readFencedCode s mark length (4 - missing) i
            | none => (o.openBlock ⟨.paragraph, i, 0⟩).readParagraph s ext true i

/-- The outline after the block or the blank line at a position, and the position behind it. -/
def readBlock (s : Source) (ext : Extensions) (o : Outline) (i : Nat) : Outline × Nat :=
  let (n, m) := Container.matching s o.containers (Margin.start i)
  match (o.closeTo n i).enter s i m with
  | (o, .error next) => (o, next)
  | (o, .ok m) =>
    match s.blankEnd? m.position with
    | some next => (o.skipBlank i, next)
    | none => readLeaf s ext (finishList { o with freshItem := false } i) m

/-- The outline after all blocks from a position on, and the position behind them. -/
def readFrom (s : Source) (ext : Extensions) (o : Outline) (i : Nat) : Outline × Nat :=
  if i < s.size then
    let (o, next) := o.readBlock s ext i
    if i < next then readFrom s ext o next else (o, next)
  else (o, i)
termination_by s.size - i

/-- The outline of a source, with all blocks closed. -/
def ofSource (s : Source) (ext : Extensions) : Outline :=
  let (o, stop) := empty.readFrom s ext 0
  o.closeTo 0 stop

/-- The outermost blocks of an outline in which all are closed. -/
def blocks (o : Outline) : List Tree :=
  o.content.reverse

end Outline

end StaticPage.Markdown
