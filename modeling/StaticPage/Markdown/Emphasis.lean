import StaticPage.Markdown.Piece

/-!
# Emphasis

Runs of equal marks open and close emphasis. A run that closes takes the nearest run that opens, if
the two agree; marks that find no partner are text.
-/

namespace StaticPage.Markdown

/-- A part of running text: a run of marks, or an element that is complete. -/
inductive Part where
  | run (r : Run)
  | done (e : Element)
  deriving Repr, Inhabited

def marksText (mark : Char) (count : Nat) : Element :=
  .text (String.ofList (List.replicate count mark))

/-- Content between `n` marks on either side: pairs of marks make it strong, and an odd one outside of
them emphasises it. -/
def emphasize : Nat → List Element → List Element
  | 0, content => content
  | 1, content => [.inside .emphasis content]
  | n + 2, content => emphasize n [.inside .strong content]

/-- Content between `n` marks of one kind. One tilde strikes it through as well as two. -/
def embrace (mark : Char) (n : Nat) (content : List Element) : List Element :=
  if mark = '~' then [.inside .strikethrough content] else emphasize n content

/-- A run that waits for a partner, with the elements after it, newest first. It is double if it could
close emphasis, too. -/
structure Opener where
  mark : Char
  count : Nat
  double : Bool
  content : List Element
  deriving Repr, Inhabited

/-- A closing run agrees with an opening one: if one of them could be both, their lengths together are
no multiple of three unless each is. -/
def Opener.agrees (o : Opener) (mark : Char) (count : Nat) (double : Bool) : Bool :=
  o.mark == mark && ((!double && !o.double) || (count + o.count) % 3 != 0 || count % 3 == 0)

/-- A class of closing runs. What is known of one run of a class is taken to hold of the others. -/
inductive CloserClass where
  | underscores (double : Bool)
  | asterisks (residue : Nat)
  | onlyAsterisks
  | tildes
  deriving DecidableEq, Repr, Inhabited

/-- The classes of a closing run. Asterisks are told apart by their number modulo three, and by whether
they could open emphasis. -/
def CloserClass.ofRun (mark : Char) (count : Nat) (double : Bool) : List CloserClass :=
  if mark = '_' then [underscores double]
  else if mark = '*' then asterisks (count % 3) :: if double then [] else [onlyAsterisks]
  else [tildes]

/-- The elements that are complete, newest first, and the openers behind them, innermost first. A class
of closers has a floor: the number of openers, counted from the outermost one, among which it does not
look for a partner. -/
structure Pairing where
  content : List Element
  openers : List Opener
  floors : List (CloserClass × Nat)
  deriving Repr, Inhabited

namespace Pairing

def add (p : Pairing) (e : Element) : Pairing :=
  match p.openers with
  | [] => { p with content := e :: p.content }
  | o :: rest => { p with openers := { o with content := e :: o.content } :: rest }

def addAll (p : Pairing) (es : List Element) : Pairing :=
  es.foldr (fun e p => p.add e) p

/-- The innermost opener and all after it as text. -/
def abandon (p : Pairing) : Pairing :=
  match p.openers with
  | [] => p
  | o :: rest => ({ p with openers := rest }.add (marksText o.mark o.count)).addAll o.content

/-- The innermost `n` openers as text. -/
def abandonAll (p : Pairing) : Nat → Pairing
  | 0 => p
  | n + 1 => p.abandon.abandonAll n

def floor (p : Pairing) (c : CloserClass) : Nat :=
  ((p.floors.find? fun f => f.1 == c).map (·.2)).getD 0

def setFloor (p : Pairing) (n : Nat) (c : CloserClass) : Pairing :=
  { p with floors := (c, n) :: p.floors }

/-- An opener added. The floor of tildes is never above all openers in front of them. -/
def push (p : Pairing) (o : Opener) : Pairing :=
  let p := if o.mark = '~' then p.setFloor (min (p.floor .tildes) p.openers.length) .tildes else p
  { p with openers := o :: p.openers }

/-- The position of the innermost opener that agrees with a closer, above the floors of all its
classes. -/
def partner? (p : Pairing) (mark : Char) (count : Nat) (double : Bool) : Option Nat :=
  let floor := ((CloserClass.ofRun mark count double).map p.floor).foldl min p.openers.length
  (p.openers.take (p.openers.length - floor)).findIdx? fun o => o.agrees mark count double

/-- A closing run: as many of its marks as find partners close emphasis. Answers with the number of
marks that are left. Each partner takes a mark, so that their number bounds the partners. -/
def close (p : Pairing) (mark : Char) (double : Bool) (count : Nat) : Nat → Nat × Pairing
  | 0 => (count, p)
  | fuel + 1 =>
    match p.partner? mark count double with
    | none =>
      (count, (CloserClass.ofRun mark count double).foldl (setFloor · p.openers.length) p)
    | some depth =>
      let p := p.abandonAll depth
      match p.openers with
      | [] => (count, p)
      | o :: rest =>
        let n := min count o.count
        let content := embrace mark n o.content.reverse
        let p := { p with openers := rest }
        let p :=
          if n < o.count then p.push { o with count := o.count - n, double, content }
          else p.addAll content
        if count = n then (0, p) else close p mark double (count - n) fuel

def step (p : Pairing) : Part → Pairing
  | .done e => p.add e
  | .run r =>
    let double := r.opens && r.closes
    let (left, p) := if r.closes then p.close r.mark double r.count r.count else (r.count, p)
    if left = 0 then p
    else if r.opens then p.push ⟨r.mark, left, double, []⟩
    else p.add (marksText r.mark left)

end Pairing

/-- The elements that parts stand for. -/
def pair (parts : List Part) : List Element :=
  let p := parts.foldl Pairing.step ⟨[], [], []⟩
  (p.abandonAll p.openers.length).content.reverse

end StaticPage.Markdown
