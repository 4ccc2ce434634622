import StaticPage.Yaml.Fault

/-!
# A cursor in YAML text

What is left of a text, and the place where it starts. All reading of characters goes through the
cursor, so that places are kept right: within a line a character moves the column, and a line break,
of whatever spelling, begins the next line.
-/

namespace StaticPage.Yaml

/-- A line break, or the first character of one. -/
def isBreak (c : Char) : Bool :=
  c == '\n' || c == '\r' || c == '\x85' || c == '\u2028' || c == '\u2029'

/-- A blank within a line. -/
def isBlank (c : Char) : Bool :=
  c == ' ' || c == '\t'

def isWordChar (c : Char) : Bool :=
  c.isAlphanum || c == '_' || c == '-'

/-- What is left of a text, and where it starts. -/
structure Cursor where
  rest : List Char
  mark : Mark
  deriving Repr, Inhabited

namespace Cursor

def ofText (s : List Char) : Cursor := ⟨s, .start⟩

def peek? (c : Cursor) (ahead : Nat) : Option Char := c.rest[ahead]?

def at? (c : Cursor) (x : Char) : Bool := c.rest.head? == some x

def next? (c : Cursor) (p : Char → Bool) : Bool := c.rest.head?.any p

/-- Whether the text ends so many places ahead, or a blank or line break stands there. -/
def clearAt (c : Cursor) (ahead : Nat) : Bool :=
  (c.peek? ahead).all fun x => isBlank x || isBreak x

def atLineEnd (c : Cursor) : Bool := c.rest.head?.all isBreak

/-- The cursor so many characters further on in the same line. -/
def advance (c : Cursor) (n : Nat) : Cursor :=
  ⟨c.rest.drop n, ⟨c.mark.index + n, c.mark.line, c.mark.column + n⟩⟩

/-- The longest run of characters of a class that does not hold line breaks, and what follows it. -/
def span (c : Cursor) (p : Char → Bool) : List Char × Cursor :=
  let run := c.rest.takeWhile p
  (run, c.advance run.length)

/-- What follows the longest run of characters of a class. -/
def skip (c : Cursor) (p : Char → Bool) : Cursor := (c.span p).2

/-- What follows the rest of the line, up to its break, if a comment begins here. -/
def skipComment (c : Cursor) : Cursor :=
  if c.at? '#' then c.skip (!isBreak ·) else c

/-- The cursor at the beginning of the next line, which is so many characters away. -/
def nextLine (c : Cursor) (n : Nat) : Cursor :=
  ⟨c.rest.drop n, ⟨c.mark.index + n, c.mark.line + 1, 0⟩⟩

/-- The line break that stands here, if one does, as it counts in a scalar, and what follows it. The
separators of lines and of paragraphs count as themselves, all else as a line feed. -/
def lineBreak (c : Cursor) : List Char × Cursor :=
  match c.rest with
  | '\r' :: '\n' :: _ => (['\n'], c.nextLine 2)
  | x :: _ =>
    if x == '\u2028' || x == '\u2029' then ([x], c.nextLine 1)
    else if isBreak x then (['\n'], c.nextLine 1)
    else ([], c)
  | [] => ([], c)

/-- Whether a line begins here with three characters that stand alone. -/
def atSign (c : Cursor) (x : Char) : Bool :=
  c.mark.column == 0 && c.rest.take 3 == [x, x, x] && c.clearAt 3

/-- Whether the sign of a document's beginning or end stands here. -/
def atDocumentSign (c : Cursor) : Bool := c.atSign '-' || c.atSign '.'

/-- A fault that shows here in the course of a task begun at a mark. -/
def fault {α : Type} (c : Cursor) (problem : Problem) (task : Task) (begun : Mark) : Except Fault α :=
  .error (.source problem c.mark (some ⟨task, begun⟩))

end Cursor

end StaticPage.Yaml
