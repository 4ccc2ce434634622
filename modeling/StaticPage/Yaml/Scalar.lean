import StaticPage.Text.Characters
import StaticPage.Yaml.Cursor

/-!
# Reading scalars

A scalar is written plainly, in quotes, or as a block below its sign. Line breaks inside a plain or
quoted one fold: a lone break is a space, and of several the first is dropped. Each reading function
starts at the first character of a scalar and gives its text and what follows it.
-/

namespace StaticPage.Yaml

/-! ### Gaps -/

/-- What stands between two words of a scalar: blanks, and the line breaks after them. -/
structure Gap where
  blanks : List Char
  breaks : List (List Char)
  deriving Repr, Inhabited

namespace Gap

def empty : Gap := ⟨[], []⟩

/-- The beginning of a gap by a line break that counts for nothing. -/
def folded : Gap := ⟨[], [[]]⟩

def isBroken (g : Gap) : Bool := !g.breaks.isEmpty

def text (g : Gap) : List Char :=
  match g.breaks with
  | [] => g.blanks
  | first :: more =>
    if first = ['\n'] then if more.isEmpty then [' '] else more.flatten
    else first ++ more.flatten

/-- Reads on in a gap. On a new line a tab may not stand before the column `indent`. -/
def read (indent : Nat) (begun : Mark) : (fuel : Nat) → Gap → Cursor → Except Fault (Gap × Cursor)
  | 0, g, c => .ok (g, c)
  | fuel + 1, g, c =>
    match c.rest with
    | [] => .ok (g, c)
    | x :: _ =>
      if isBlank x then
        if g.isBroken then
          if c.mark.column < indent && x == '\t' then c.fault .tabAgainstIndentation .plainScalar begun
          else read indent begun fuel g (c.advance 1)
        else read indent begun fuel { g with blanks := g.blanks ++ [x] } (c.advance 1)
      else if isBreak x then
        let (b, c') := c.lineBreak
        read indent begun fuel { g with breaks := g.breaks ++ [b] } c'
      else .ok (g, c)

def complete (indent : Nat) (begun : Mark) (g : Gap) (c : Cursor) : Except Fault (Gap × Cursor) :=
  read indent begun c.rest.length g c

end Gap

/-! ### Plain scalars -/

/-- The signs that part the items of a flow collection. -/
def isFlowSign (c : Char) : Bool :=
  c == ',' || c == '[' || c == ']' || c == '\x7b' || c == '\x7d'

/-- Why a word of a plain scalar ends. -/
inductive WordEnd where
  | regular | unexpectedColon
  deriving DecidableEq, Repr

/-- A word of a plain scalar. A colon ends it before a blank, and in a flow collection the signs of
one do, before which no colon may stand. -/
def plainWord (flow : Bool) : List Char → List Char × WordEnd
  | [] => ([], .regular)
  | c :: s =>
    if isBlank c || isBreak c then ([], .regular)
    else if flow && c == ':' && s.head?.any (fun d => isFlowSign d || d == '?') then
      ([], .unexpectedColon)
    else if c == ':' && s.head?.all (fun d => isBlank d || isBreak d) then ([], .regular)
    else if flow && isFlowSign c then ([], .regular)
    else
      let (word, stop) := plainWord flow s
      (c :: word, stop)

structure PlainScalar where
  text : List Char
  stop : Mark
  /-- What follows its last word. -/
  gap : Gap
  rest : Cursor

/-- Reads the words of a plain scalar. In a block, a line that begins before the column `indent` ends
it. -/
def plainWords (flow : Bool) (indent : Nat) (begun : Mark) :
    (fuel : Nat) → PlainScalar → Except Fault PlainScalar
  | 0, p => .ok p
  | fuel + 1, p =>
    if p.rest.atDocumentSign || p.rest.at? '#' then .ok p
    else
      let (word, stop) := plainWord flow p.rest.rest
      let c := p.rest.advance word.length
      let p : PlainScalar :=
        if word.isEmpty then { p with rest := c }
        else { text := p.text ++ p.gap.text ++ word, stop := c.mark, gap := .empty, rest := c }
      if stop = .unexpectedColon then c.fault .unexpectedColon .plainScalar begun
      else if c.next? fun x => isBlank x || isBreak x then do
        let (gap, c) ← p.gap.complete indent begun c
        let p := { p with gap, rest := c }
        if !flow && c.mark.column < indent then .ok p else plainWords flow indent begun fuel p
      else .ok p

def readPlain (flow : Bool) (indent : Nat) (c : Cursor) : Except Fault PlainScalar :=
  plainWords flow indent c.mark (c.rest.length + 1) ⟨[], c.mark, .empty, c⟩

/-! ### Quoted scalars -/

/-- The character that an escape of one letter stands for. -/
def escaped? : Char → Option Char
  | '0' => some '\x00'
  | 'a' => some '\x07'
  | 'b' => some '\x08'
  | 't' | '\t' => some '\t'
  | 'n' => some '\n'
  | 'v' => some '\x0b'
  | 'f' => some '\x0c'
  | 'r' => some '\r'
  | 'e' => some '\x1b'
  | ' ' => some ' '
  | '"' => some '"'
  | '/' => some '/'
  | '\\' => some '\\'
  | 'N' => some '\x85'
  | '_' => some '\xa0'
  | 'L' => some '\u2028'
  | 'P' => some '\u2029'
  | _ => none

/-- The number of hexadecimal digits after the letter of an escape. -/
def escapeDigits? : Char → Option Nat
  | 'x' => some 2
  | 'u' => some 4
  | 'U' => some 8
  | _ => none

/-- The character of an escape by number, whose digits begin two places ahead. -/
def readEscape (begun : Mark) (c : Cursor) (digits : Nat) : Except Fault (Char × Cursor) :=
  let written := (c.rest.drop 2).take digits
  match Text.hexNumber? written with
  | some n =>
    if written.length < digits then (c.advance 2).fault .badEscapeDigit .escape begun
    else if h : n.isValidChar then .ok (Char.ofNatAux n h, c.advance (2 + digits))
    else (c.advance 2).fault .badEscapeCharacter .escape begun
  | none => (c.advance 2).fault .badEscapeDigit .escape begun

/-- Reads a word of a quoted scalar, up to a blank, a line break or the closing quote. The gap is
what an escaped line break at its end begins. -/
def quotedWord (quote : Char) (begun : Mark) :
    (fuel : Nat) → (text : List Char) → Cursor → Except Fault (List Char × Gap × Cursor)
  | 0, text, c => .ok (text, .empty, c)
  | fuel + 1, text, c =>
    match c.rest with
    | [] => .ok (text, .empty, c)
    | x :: s =>
      if isBlank x || isBreak x then .ok (text, .empty, c)
      else if x == quote then
        if quote == '\'' && s.head? == some '\'' then
          quotedWord quote begun fuel (text ++ ['\'']) (c.advance 2)
        else .ok (text, .empty, c)
      else if quote == '"' && x == '\\' then
        match s with
        | [] => c.fault .unknownEscape .escape begun
        | e :: _ =>
          if isBreak e then .ok (text, .folded, (c.advance 1).lineBreak.2)
          else
            match escaped? e, escapeDigits? e with
            | some y, _ => quotedWord quote begun fuel (text ++ [y]) (c.advance 2)
            | none, some digits => do
              let (y, c) ← readEscape begun c digits
              quotedWord quote begun fuel (text ++ [y]) c
            | none, none => c.fault .unknownEscape .escape begun
      else quotedWord quote begun fuel (text ++ [x]) (c.advance 1)

/-- Reads the words of a quoted scalar and its closing quote. -/
def quotedWords (quote : Char) (begun : Mark) :
    (fuel : Nat) → (text : List Char) → Cursor → Except Fault (List Char × Cursor)
  | 0, text, c => .ok (text, c)
  | fuel + 1, text, c =>
    if c.atDocumentSign then c.fault .documentSign .quotedScalar begun
    else if c.rest.isEmpty then c.fault .endOfText .quotedScalar begun
    else do
      let (text, gap, c) ← quotedWord quote begun c.rest.length text c
      if c.at? quote then return (text, c.advance 1)
      let (gap, c) ← gap.complete 0 begun c
      quotedWords quote begun fuel (text ++ gap.text) c

def readQuoted (quote : Char) (c : Cursor) : Except Fault (List Char × Cursor) :=
  quotedWords quote c.mark (c.rest.length + 1) [] (c.advance 1)

/-! ### Block scalars -/

/-- What becomes of the line breaks at the end of a block. -/
inductive Chomping where
  | strip | clip | keep
  deriving DecidableEq, Repr

/-- What stands beside the sign of a block: its chomping and how far it is indented. -/
structure BlockHeader where
  chomping : Chomping
  indent : Option Nat

def readChomping? (c : Cursor) : Option (Chomping × Cursor) :=
  if c.at? '+' then some (.keep, c.advance 1)
  else if c.at? '-' then some (.strip, c.advance 1)
  else none

def readIndentation (begun : Mark) (c : Cursor) : Except Fault (Option Nat × Cursor) :=
  match c.rest.head? with
  | some d =>
    if d == '0' then c.fault .zeroIndentation .blockScalar begun
    else if d.isDigit then .ok (some (d.toNat - 48), c.advance 1)
    else .ok (none, c)
  | none => .ok (none, c)

/-- Reads the header of a block after its sign. The two parts come in either order. -/
def readHeader (begun : Mark) (c : Cursor) : Except Fault (BlockHeader × Cursor) :=
  match readChomping? c with
  | some (chomping, c) => do
    let (indent, c) ← readIndentation begun c
    return (⟨chomping, indent⟩, c)
  | none => do
    let (indent, c) ← readIndentation begun c
    match indent.bind fun _ => readChomping? c with
    | some (chomping, c) => return (⟨chomping, indent⟩, c)
    | none => return (⟨.clip, indent⟩, c)

/-- Reads indentation and empty lines of a block, whose indentation is `none` as long as it is not
known; `widest` is the greatest column that an empty line has reached. -/
def emptyLines (indent : Option Nat) (begun : Mark) :
    (fuel : Nat) → (widest : Nat) → (breaks : List Char) → Cursor →
      Except Fault (Nat × List Char × Cursor)
  | 0, widest, breaks, c => .ok (widest, breaks, c)
  | fuel + 1, widest, breaks, c =>
    let spaces := (c.rest.takeWhile (· == ' ')).length
    let c := c.advance (match indent with
      | none => spaces
      | some n => min spaces (n - c.mark.column))
    let widest := max widest c.mark.column
    if indent.all (c.mark.column < ·) && c.at? '\t' then c.fault .tabInIndentation .blockScalar begun
    else if c.next? isBreak then
      let (b, c) := c.lineBreak
      emptyLines indent begun fuel widest (breaks ++ b) c
    else .ok (widest, breaks, c)

structure BlockScalar where
  text : List Char
  /-- The break at the end of the last line, and those of the empty lines after it. -/
  lastBreak : List Char
  emptyBreaks : List Char
  /-- Whether the last line began with a blank. -/
  inset : Bool
  rest : Cursor

/-- Reads the lines of a block at a known column. In a folded one, the break between two lines that
do not begin with a blank is a space, or is dropped if empty lines follow it. -/
def blockLines (folded : Bool) (indent : Nat) (begun : Mark) :
    (fuel : Nat) → BlockScalar → Except Fault BlockScalar
  | 0, b => .ok b
  | fuel + 1, b =>
    if b.rest.mark.column == indent && !b.rest.rest.isEmpty then do
      let inset := b.rest.next? isBlank
      let joint :=
        if folded && b.lastBreak == ['\n'] && !b.inset && !inset then
          if b.emptyBreaks.isEmpty then [' '] else []
        else b.lastBreak
      let (line, c) := b.rest.span (!isBreak ·)
      let (lastBreak, c) := c.lineBreak
      let (_, emptyBreaks, c) ← emptyLines (some indent) begun (c.rest.length + 1) 0 [] c
      blockLines folded indent begun fuel
        ⟨b.text ++ joint ++ b.emptyBreaks ++ line, lastBreak, emptyBreaks, inset, c⟩
    else .ok b

/-- Reads a block scalar from its sign on, inside a collection that stands at the column `level`, if
it is inside one. -/
def readBlock (folded : Bool) (level : Option Nat) (c : Cursor) :
    Except Fault (List Char × Cursor) := do
  let begun := c.mark
  let (header, c) ← readHeader begun (c.advance 1)
  let c := (c.skip isBlank).skipComment
  if !c.atLineEnd then c.fault .missingLineEnd .blockScalar begun
  else
    let (_, c) := c.lineBreak
    let given := header.indent.map (level.getD 0 + ·)
    let (widest, breaks, c) ← emptyLines given begun (c.rest.length + 1) 0 [] c
    let least := match level with
      | some n => n + 1
      | none => 1
    let indent := given.getD (max widest least)
    let b ← blockLines folded indent begun (c.rest.length + 1) ⟨[], [], breaks, false, c⟩
    match header.chomping with
    | .strip => return (b.text, b.rest)
    | .clip => return (b.text ++ b.lastBreak, b.rest)
    | .keep => return (b.text ++ b.lastBreak ++ b.emptyBreaks, b.rest)

end StaticPage.Yaml
