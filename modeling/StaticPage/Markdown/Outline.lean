import StaticPage.Markdown.Leaf
import StaticPage.Markdown.Piece

/-!
# Outlines

An outline is what is known of a source as far as it is read: all pieces by their numbers, the blocks
that are still open with what they hold, and the definitions that were met. Quotes, lists and their
items stay open from line to line; a list turns out to be loose when a blank line stands between the
blocks in it.
-/

namespace StaticPage.Markdown

/-- A label, in the form in which labels are compared, and the target that it stands for. -/
structure Definition where
  label : List Char
  target : Target
  deriving DecidableEq, Repr, Inhabited

/-- An open block: its number, and the pieces in it, last first. -/
structure Opened where
  id : Nat
  content : List Tree
  deriving Repr, Inhabited

/-- What is known of a source: all pieces, in the order in which they begin; the open blocks, innermost
first; the pieces outside of them, last first; and the definitions. A fresh item has nothing in it yet;
a blank line in a container counts until the next line that is not blank. -/
structure Outline where
  pieces : Array Piece
  opened : List Opened
  content : List Tree
  definitions : List Definition
  freshItem : Bool
  afterBlank : Bool
  deriving Repr, Inhabited

namespace Outline

def empty : Outline :=
  ⟨#[], [], [], [], false, false⟩

/-! ### Pieces -/

def piece (o : Outline) (id : Nat) : Piece :=
  o.pieces.getD id ⟨.text, 0, 0⟩

def kind (o : Outline) (b : Opened) : Kind :=
  (o.piece b.id).kind

def modify (o : Outline) (id : Nat) (f : Piece → Piece) : Outline :=
  { o with pieces := o.pieces.modify id f }

def stopAt (o : Outline) (id stop : Nat) : Outline :=
  o.modify id fun p => { p with stop }

/-- A piece that turns out to be of another kind. -/
def become (o : Outline) (id : Nat) (kind : Kind) : Outline :=
  o.modify id fun p => { p with kind }

/-- The number of the last piece in the innermost open block. -/
def last? (o : Outline) : Option Nat :=
  (match o.opened with
    | [] => o.content.head?
    | b :: _ => b.content.head?).map Tree.id

def addTree (o : Outline) (t : Tree) : Outline :=
  match o.opened with
  | [] => { o with content := t :: o.content }
  | b :: rest => { o with opened := { b with content := t :: b.content } :: rest }

def add (o : Outline) (p : Piece) : Outline :=
  addTree { o with pieces := o.pieces.push p } (.node o.pieces.size [])

/-- Text added to the innermost open block. Text that stands right behind other text goes on with it. -/
def addText (o : Outline) (start stop : Nat) : Outline :=
  if stop ≤ start then o
  else
    match o.last? with
    | some id =>
      if (o.piece id).kind = .text ∧ (o.piece id).stop = start then o.stopAt id stop
      else o.add ⟨.text, start, stop⟩
    | none => o.add ⟨.text, start, stop⟩

def addAll (o : Outline) (pieces : List Piece) : Outline :=
  pieces.foldl (fun o p => if p.kind = .text then o.addText p.start p.stop else o.add p) o

/-! ### Open blocks -/

def containers (o : Outline) : List Container :=
  o.opened.reverse.filterMap fun b => (o.kind b).container?

def openBlock (o : Outline) (p : Piece) : Outline :=
  { o with pieces := o.pieces.push p, opened := ⟨o.pieces.size, []⟩ :: o.opened }

/-- In a tight list, what a paragraph holds stands among the other blocks of its item. An item that
begins with an empty paragraph loses all that it holds; another empty paragraph stays. -/
def dissolve (o : Outline) : Tree → Tree
  | .node id content =>
    let isParagraph (t : Tree) : Bool := (o.piece t.id).kind = .paragraph
    let inner (t : Tree) : List Tree :=
      if isParagraph t && !t.content.isEmpty then t.content else [t]
    .node id (if content.head?.any fun t => isParagraph t && t.content.isEmpty then []
      else content.flatMap inner)

def close (o : Outline) (stop : Nat) : Outline :=
  match o.opened with
  | [] => o
  | b :: rest =>
    let content := b.content.reverse
    let content :=
      match o.kind b with
      | .list true _ _ => content.map o.dissolve
      | _ => content
    addTree { o.stopAt b.id stop with opened := rest } (.node b.id content)

/-- All but the `n` outermost blocks closed at a position. -/
def closeTo (o : Outline) (n stop : Nat) : Outline :=
  (List.range (o.opened.length - n)).foldl (fun o _ => o.close stop) o

/-! ### Lists and blank lines -/

/-- The list is loose if this block is one. -/
def loosen (o : Outline) (b : Opened) : Outline :=
  match o.kind b with
  | .list _ mark start => o.become b.id (.list false mark start)
  | _ => o

/-- The list closed that no item of is open. A blank line before the next block loosens the list
around the innermost container. -/
def finishList (o : Outline) (stop : Nat) : Outline :=
  let o :=
    match o.opened.head?.map o.kind with
    | some (.list _ _ _) => o.close stop
    | _ => o
  if !o.afterBlank then o
  else { (o.opened.tail.head?.elim o o.loosen) with afterBlank := false }

/-- The list to which an item with this mark belongs is innermost: the one that is open, if its items
have the same mark, or a new one. -/
def continueList (o : Outline) (start : Nat) (mark : ItemMark) : Outline :=
  let fresh (o : Outline) : Outline :=
    { o.openBlock ⟨.list true mark.mark mark.number, start, 0⟩ with afterBlank := false }
  match o.opened with
  | [] => fresh o
  | b :: _ =>
    match o.kind b with
    | .list _ existing _ =>
      if existing = mark.mark then
        if o.afterBlank then { o.loosen b with afterBlank := false } else o
      else fresh (o.finishList start)
    | _ => fresh (o.finishList start)

/-- The containers that a line opens, from its margin behind those that go on, and the margin behind
all of them; or the position behind the line, if an item is opened and the rest of the line is blank.
The line begins at `start`. -/
def enter (s : Source) (start : Nat) (o : Outline) (m : Margin) : Outline × Except Nat Margin :=
  match m.itemMark? s with
  | some (mark, after) =>
    let o := (o.continueList m.position mark).openBlock
      ⟨.item mark.width, m.position, after.position⟩
    match s.blankEnd? after.position with
    | some next => ({ o with freshItem := true }, .error next)
    | none => if m.position < after.position ∧ m.position < s.size then enter s start o after
      else (o, .ok after)
  | none =>
    match m.quote? s with
    | some after =>
      let o := (o.finishList start).openBlock ⟨.quote, m.position, 0⟩
      if m.position < after.position ∧ m.position < s.size then enter s start o after
      else (o, .ok after)
    | none => (o, .ok m)
termination_by s.size - m.position

/-- The outline after a blank line. An item begins with at most one blank line. -/
def skipBlank (o : Outline) (start : Nat) : Outline :=
  match o.opened.head?.map o.kind with
  | none | some .quote => o
  | some _ => { (if o.freshItem then o.close start else o) with afterBlank := true }

/-- A definition added, unless its label is defined already. -/
def define (o : Outline) (d : Definition) : Outline :=
  { o with definitions := o.definitions ++ [d] }

end Outline

/-- The target of a label: the first definition counts. -/
def lookUp? (definitions : List Definition) (label : List Char) : Option Target :=
  (definitions.find? fun d => d.label == label).map (·.target)

end StaticPage.Markdown
