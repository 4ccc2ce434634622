import StaticPage.Markdown.Emphasis
import StaticPage.Markdown.HtmlTag
import StaticPage.Markdown.Outline
import StaticPage.Markdown.Target

/-!
# Running text

The pieces of running text are read from left to right. A bracket waits until it is closed; what stands
between the two is the content of a link if a target follows or the label is defined, and text
otherwise. Code, links to themselves and raw HTML take the pieces that they reach over. Emphasis is
paired in the end, separately inside each link.
-/

namespace StaticPage.Markdown

/-- A piece in a row of others, with the part of it that is not taken yet, and the element that it is if
it is a block. -/
structure Token where
  id : Nat
  piece : Piece
  block : Option Element
  deriving Repr, Inhabited

namespace Token

/-- The tokens behind a position; of the first of them, only what is behind it. -/
def behind (position : Nat) (tokens : List Token) : List Token :=
  match tokens.dropWhile fun t => t.piece.stop ≤ position with
  | [] => []
  | t :: rest => { t with piece := { t.piece with start := max t.piece.start position } } :: rest

/-- A closing bracket that ends a label and so no link. -/
def bar (t : Token) : Token :=
  { t with piece := { t.piece with kind := .close true } }

end Token

/-- What running text is read under: the source up to the end of the block around it, the pieces of the
whole source, the containers around the block, and the definitions. -/
structure TextSetting where
  source : Source
  pieces : Array Piece
  containers : List Container
  definitions : List Definition
  deriving Repr, Inhabited

namespace TextSetting

/-- The position behind the containers of a line. -/
def behind (c : TextSetting) (i : Nat) : Nat :=
  Container.behind c.source c.containers i

/-- The label in brackets at a position, and the position behind it. -/
def label? (c : TextSetting) (stop i : Nat) : Option (List Char × Nat) :=
  (c.source.upTo stop).label? (fun j => some (Container.behind c.source c.containers j)) i

/-! ### Targets -/

/-- The position at which a title goes on behind the line ending at a position: the next piece of the
running text. -/
def titleLine? (tokens : List Token) (i : Nat) : Option Nat :=
  ((tokens.find? fun t => i + 1 < t.piece.stop).map (·.piece.start)).filter (i < ·)

/-- The title of a link up to the mark that closes it, and the position behind the mark; `seen` is its
beginning in reverse. A title in parentheses holds no opening one. -/
def titleFrom? (s : Source) (tokens : List Token) (close : Char) (seen : List Char) (i : Nat) :
    Option (String × Nat) :=
  if h : i < s.chars.size then
    let a := s.chars[i]
    if a = close then some (String.ofList seen.reverse, i + 1)
    else if a = '(' ∧ close = ')' then none
    else
      match (if isBreak a then titleLine? tokens i else none), s.reference? i with
      | some j, _ => if i < j then titleFrom? s tokens close ('\n' :: seen) j else none
      | none, some (text, j) =>
        if i < j then titleFrom? s tokens close (text.toList.reverse ++ seen) j else none
      | none, none =>
        if s.hasEscape i then titleFrom? s tokens close ((s.slice (i + 1) (i + 2)) ++ seen) (i + 2)
        else titleFrom? s tokens close (a :: seen) (i + 1)
  else none
termination_by s.chars.size - i

/-- The target in parentheses at a position, and the position behind it. The tokens begin there. -/
def target? (c : TextSetting) (tokens : List Token) (i : Nat) : Option (Target × Nat) := do
  let s := c.source
  if !s.has '(' i then none
  else
    let gap (i : Nat) : Nat := s.skipWhile isAsciiBlank i
    let (destination, stop) ← s.destination? 5 (gap (i + 1))
    let next := gap stop
    let title := (s.titleMark? next).bind fun close => titleFrom? s tokens close [] (next + 1)
    let (title, next) := (title.map fun (title, j) => (title, gap j)).getD ("", next)
    if s.has ')' next then some (⟨destination, title⟩, next + 1) else none

/-- The label behind a closing bracket. -/
inductive LabelBehind where
  | absent
  | empty
  | label (label : List Char) (stop : Nat)

/-- The label with which the tokens begin. -/
def labelBehind (c : TextSetting) (tokens : List Token) : LabelBehind :=
  match tokens with
  | [] => .absent
  | t :: _ =>
    let i := t.piece.start
    if c.source.startsWith "[]" i then .empty
    else
      match c.label? c.source.size i with
      | some (label, stop) => .label label stop
      | none => .absent

/-! ### Code -/

/-- The reading of the text of a piece of code: the position from which it counts, and the text up to
the last break, if there was one. -/
structure CodeReading where
  start : Nat
  joined : Option (List Char)

/-- The reading of code behind one more piece between `first` and `last`. The code ends before `stop`;
if its edges are dropped, so is a break at either end. -/
def codeStep (c : TextSetting) (dropped : Bool) (first last stop : Nat) (r : CodeReading) (id : Nat) :
    CodeReading :=
  let s := c.source
  let piece (id : Nat) : Piece := c.pieces.getD id ⟨.text, 0, 0⟩
  let p := piece id
  if p.kind.isBreak then
    if dropped && id == first then { r with start := min stop (piece (id + 1)).start }
    else if dropped && id == last then r
    else
      let line := s.skipWhile (fun a => !isBreak a) p.start
      let text := (r.joined.map (· ++ s.slice p.start line)).getD (s.slice r.start line)
      { r with joined := some (text ++ [' ']) }
  else
    { r with joined := r.joined.map (· ++ s.slice p.start (if id = last then stop else p.stop)) }

/-- The text of code between two runs of backticks, which are given as tokens. A space or line ending at
each end is dropped if both are there and the text is not all spaces. The text between breaks is
put together from its pieces. -/
def codeText (c : TextSetting) (opening closing : Token) : String :=
  let s := c.source
  let start := opening.piece.stop
  let stop := closing.piece.start
  let text := s.slice start stop
  let first := opening.id + 1
  let last := closing.id - 1
  let isEdge (a : Option Char) : Bool := a.any fun a => a == ' ' || isBreak a
  let blank := text.all (· == ' ')
  let dropped := !blank && isEdge text.head? && isEdge text.getLast?
  let start := if dropped then start + 1 else start
  let stop := if dropped ∧ start < stop then stop - 1 else stop
  let r : CodeReading :=
    if blank then ⟨start, none⟩
    else (List.range' first (closing.id - first)).foldl (c.codeStep dropped first last stop)
      ⟨start, none⟩
  String.ofList (r.joined.getD (s.slice r.start stop))

/-! ### Links to themselves and raw HTML -/

/-- The position behind an address with a scheme of two to thirty-two characters, which is closed by an
angle bracket. -/
def addressEnd? (s : Source) (i : Nat) : Option Nat :=
  let scheme := s.skipWhile (fun a => a.isAlphanum || a == '.' || a == '-' || a == '+') i
  if (s.at? i).any Char.isAlpha && i + 2 ≤ scheme && scheme ≤ i + 32 && s.has ':' scheme then
    let stop := s.skipWhile (fun a => a != '>' && a != '<' && 0x20 < a.toNat) scheme
    if s.has '>' stop then some stop else none
  else none

/-- A character of the part of a mail address before the sign. -/
def isMailboxChar (c : Char) : Bool :=
  c.isAlphanum || ".!#$%&'*+/=?^_\x60\x7b|\x7d~-".toList.contains c

/-- A label of a host name in a mail address. -/
def isHostLabel (s : List Char) : Bool :=
  !s.isEmpty && s.length ≤ 63 && s.head? != some '-' && s.getLast? != some '-'

/-- The position behind a mail address which is closed by an angle bracket. -/
def mailEnd? (s : Source) (i : Nat) : Option Nat :=
  let sign := s.skipWhile isMailboxChar i
  let stop := s.skipWhile (fun a => a.isAlphanum || a == '-' || a == '.') (sign + 1)
  if i < sign && s.has '@' sign && ((s.slice (sign + 1) stop).splitOn '.').all isHostLabel &&
      s.has '>' stop then some stop
  else none

/-- What an opening angle bracket begins, and the position behind it: a link to itself, or raw HTML. The
tokens begin with what follows the bracket. -/
def angle? (c : TextSetting) (bracket : Token) (tokens : List Token) : Option (Element × Nat) :=
  let s := c.source
  let origin := bracket.piece.start
  tokens.head?.bind fun next =>
    let i := next.piece.start
    let link (scheme : String) (stop : Nat) : Element × Nat :=
      (.inside (.link ⟨scheme ++ s.text i stop, ""⟩) [.text (s.text (origin + 1) stop)], stop + 1)
    match addressEnd? s i, mailEnd? s i with
    | some stop, _ => some (link "" stop)
    | none, some stop => some (link "mailto:" stop)
    | none, none =>
      (html? s c.behind i).map fun t =>
        (.html (if t.cuts.isEmpty then s.text origin t.stop else t.text s (i - 1)), t.stop)

end TextSetting

/-! ### Brackets -/

/-- An opening bracket that is not closed: its token, whether it may still begin a link, and the parts
before it, newest first. -/
structure Bracket where
  token : Token
  enabled : Bool
  before : List Part
  deriving Repr, Inhabited

def Bracket.isImage (b : Bracket) : Bool :=
  b.token.piece.kind == .bracket true

/-- What is read of running text: the parts behind the innermost bracket, newest first, and the
brackets, innermost first. -/
structure Reading where
  parts : List Part
  brackets : List Bracket
  deriving Repr, Inhabited

namespace Reading

def put (r : Reading) (e : Element) : Reading :=
  { r with parts := .done e :: r.parts }

def putText (r : Reading) (s : Source) (p : Piece) : Reading :=
  r.put (.text (s.text p.start p.stop))

def abandon (r : Reading) (s : Source) : Reading :=
  match r.brackets with
  | [] => r
  | b :: outer =>
    let p := b.token.piece
    ⟨r.parts ++ .done (.text (s.text p.start p.stop)) :: b.before, outer⟩

/-- The innermost bracket as a link or an image. Inside a link there is no other one. -/
def link (r : Reading) (target : Target) : Reading :=
  match r.brackets with
  | [] => r
  | b :: outer =>
    let content := pair r.parts.reverse
    let e := Element.inside (if b.isImage then .image target else .link target) content
    ⟨.done e :: b.before,
      if b.isImage then outer
      else outer.map fun o => if o.isImage then o else { o with enabled := false }⟩

end Reading

namespace TextSetting

/-- The target of the innermost bracket when it is closed, and the tokens behind the link; or the tokens
that go on behind the bracket that closes it. -/
def linkTarget (c : TextSetting) (b : Bracket) (close : Token) (barred : Bool) (tokens : List Token) :
    Except (List Token) (Target × List Token) :=
  match c.target? tokens close.piece.stop with
  | some (target, stop) => .ok (target, Token.behind stop tokens)
  | none =>
    let own (taken : Nat) : Except (List Token) (Target × List Token) :=
      let label := if barred then none else c.label? close.piece.stop (b.token.piece.stop - 1)
      match label.bind fun (label, _) => lookUp? c.definitions label with
      | some target => .ok (target, tokens.drop taken)
      | none => .error tokens
    match c.labelBehind tokens with
    | .empty => own 2
    | .absent => own 0
    | .label label stop =>
      match tokens.findIdx? fun t => stop ≤ t.piece.stop with
      | none => .error tokens
      | some k =>
        match lookUp? c.definitions label with
        | some target => .ok (target, tokens.drop (k + 1))
        | none => .error (tokens.modify k Token.bar)

/-- The reading behind a closing bracket, and the tokens behind it. -/
def closeBracket (c : TextSetting) (r : Reading) (t : Token) (barred : Bool) (tokens : List Token) :
    Reading × List Token :=
  match r.brackets with
  | [] => (r.putText c.source t.piece, tokens)
  | b :: _ =>
    let text := (r.abandon c.source).putText c.source t.piece
    if !b.enabled then (text, tokens)
    else
      match c.linkTarget b t barred tokens with
      | .ok (target, tokens) => (r.link target, tokens)
      | .error tokens => (text, tokens)

/-- The reading behind a run of backticks, and the tokens behind it: code up to a run of the same
length, or text. A backslash makes the first backtick text. -/
def code (c : TextSetting) (r : Reading) (t : Token) (count : Nat) (escaped : Bool)
    (tokens : List Token) : Reading × List Token :=
  let n := if escaped then count - 1 else count
  let closing := tokens.findIdx? fun u =>
    match u.piece.kind with
    | .backticks m _ => m == n && n != 0
    | _ => false
  match closing with
  | none => (r.putText c.source t.piece, tokens)
  | some k =>
    let code := Element.code (c.codeText t (tokens.getD k t))
    ((if escaped then r.put (.text "\x60") else r).put code, tokens.drop (k + 1))

/-- The reading behind a token, and the tokens behind it. -/
def step (c : TextSetting) (r : Reading) (t : Token) (tokens : List Token) : Reading × List Token :=
  match t.block, t.piece.kind with
  | some e, _ => (r.put e, tokens)
  | none, .literal text => (r.put (.text text), tokens)
  | none, .html => (r.put (.html (c.source.text t.piece.start t.piece.stop)), tokens)
  | none, .softBreak => (r.put .softBreak, tokens)
  | none, .hardBreak => (r.put .hardBreak, tokens)
  | none, .rule => (r.put .rule, tokens)
  | none, .run run => ({ r with parts := .run run :: r.parts }, tokens)
  | none, .backticks count escaped => c.code r t count escaped tokens
  | none, .angle =>
    match c.angle? t tokens with
    | some (e, stop) => (r.put e, Token.behind stop tokens)
    | none => (r.putText c.source t.piece, tokens)
  | none, .bracket _ => (⟨[], ⟨t, true, r.parts⟩ :: r.brackets⟩, tokens)
  | none, .close barred => c.closeBracket r t barred tokens
  | none, _ => (r.putText c.source t.piece, tokens)

def read (c : TextSetting) (r : Reading) (tokens : List Token) : Reading :=
  match tokens with
  | [] => r
  | t :: rest =>
    let (r, next) := c.step r t rest
    if _h : next.length ≤ rest.length then c.read r next else r
termination_by tokens.length
decreasing_by exact Nat.lt_succ_of_le _h

/-- The elements that tokens stand for. -/
def elements (c : TextSetting) (tokens : List Token) : List Element :=
  let r := c.read ⟨[], []⟩ tokens
  pair (r.brackets.foldl (fun r _ => r.abandon c.source) r).parts.reverse

end TextSetting

/-! ### Blocks -/

namespace Outline

/-- What the running text of a block is read under, if the block stops at a position. -/
def textSetting (o : Outline) (s : Source) (containers : List Container) (stop : Nat) : TextSetting :=
  ⟨s.upTo stop, o.pieces, containers, o.definitions⟩

mutual

/-- A tree as a token: what it holds is read, if it is a block. -/
def token (o : Outline) (s : Source) (containers : List Container) : Tree → Token
  | .node id content =>
    let p := o.piece id
    let inner := containers ++ p.kind.container?.toList
    let tokens := o.tokens s inner content
    ⟨id, p, p.kind.tag?.map fun tag => .inside tag ((o.textSetting s inner p.stop).elements tokens)⟩

def tokens (o : Outline) (s : Source) (containers : List Container) : List Tree → List Token
  | [] => []
  | t :: rest => o.token s containers t :: o.tokens s containers rest

end

/-- The elements of an outline in which all blocks are closed. -/
def elements (o : Outline) (s : Source) (blocks : List Tree) : List Element :=
  (o.textSetting s [] s.size).elements (o.tokens s [] blocks)

end Outline

end StaticPage.Markdown
