import StaticPage.Markdown.Element
import StaticPage.Markdown.Margin
import StaticPage.Text.Characters

/-!
# Pieces

The blocks of a source and the pieces of their running text are numbered in the order in which they
begin, and each of them is a stretch of the source. What a piece of running text amounts to is open at
first: a bracket may begin a link, and a run of marks may open or close emphasis.
-/

namespace StaticPage.Markdown

/-- A run of equal marks in running text. -/
structure Run where
  mark : Char
  count : Nat
  opens : Bool
  closes : Bool
  deriving DecidableEq, Repr, Inhabited

namespace Run

/-- A run opens emphasis: it does not stand before a space, and it begins a word. Asterisks may stand
inside words. -/
def canOpen (mark : Char) (before after : Option Char) : Bool :=
  match after with
  | none => false
  | some next =>
    !Text.isBlank next &&
      ((mark == '*' && !Text.isPunctuation next) ||
        before.all fun c => Text.isBlank c || Text.isPunctuation c)

/-- A run closes emphasis: it does not stand behind a space, and it ends a word. -/
def canClose (mark : Char) (before after : Option Char) : Bool :=
  match before with
  | none => false
  | some last =>
    !Text.isBlank last &&
      ((mark == '*' && !Text.isPunctuation last) ||
        after.all fun c => Text.isBlank c || Text.isPunctuation c)

def between (mark : Char) (count : Nat) (before after : Option Char) : Run :=
  ⟨mark, count, canOpen mark before after, canClose mark before after⟩

end Run

/-- What a piece is. A run of backticks may follow a backslash that makes the first of them text; a
closing bracket may be barred from ending a link by itself. -/
inductive Kind where
  | text
  | literal (s : String)
  | html
  | softBreak
  | hardBreak
  | rule
  | run (r : Run)
  | backticks (count : Nat) (escaped : Bool)
  | angle
  | bracket (image : Bool)
  | close (barred : Bool)
  | paragraph
  | heading (level : Nat)
  | quote
  | list (tight : Bool) (mark : Char) (start : Nat)
  | item (width : Nat)
  | code (info : Option String)
  | table (columns : List Alignment)
  | head
  | row
  | cell (inHead : Bool) (alignment : Alignment)
  deriving DecidableEq, Repr, Inhabited

namespace Kind

def isBreak : Kind → Bool
  | softBreak | hardBreak => true
  | _ => false

def container? : Kind → Option Container
  | quote => some .quote
  | list _ _ _ => some .list
  | item width => some (.item width)
  | _ => none

def tag? : Kind → Option Tag
  | paragraph => some .paragraph
  | heading level => some (.heading level)
  | quote => some .quote
  | list _ mark start => some (.list (if mark = '.' ∨ mark = ')' then some start else none))
  | item _ => some .item
  | code info => some (.code info)
  | table _ => some .table
  | head => some .head
  | row => some .row
  | cell inHead alignment => some (.cell inHead alignment)
  | _ => none

end Kind

/-- A stretch of a source, and what it is. -/
structure Piece where
  kind : Kind
  start : Nat
  stop : Nat
  deriving DecidableEq, Repr, Inhabited

/-- Pieces inside others, by their numbers. -/
inductive Tree where
  | node (id : Nat) (content : List Tree)
  deriving Repr, Inhabited

namespace Tree

def id : Tree → Nat
  | node id _ => id

def content : Tree → List Tree
  | node _ content => content

end Tree

end StaticPage.Markdown
