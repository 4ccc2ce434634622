import StaticPage.Yaml.Token

/-!
# Cutting YAML text into tokens

Whether a piece of text is a key shows only at the colon behind it. A place where a key may have
begun is therefore kept, one for each flow collection that is open and one for the block around
them, and the tokens from there on wait: the token of the key is put in front of them when the colon
comes. A key has to end on its line, and within 1024 characters.
-/

namespace StaticPage.Yaml

/-- A place where a key may have begun. -/
structure PendingKey where
  /-- Whether the block it stands in allows nothing else there. -/
  required : Bool
  /-- The number of its first token. -/
  number : Nat
  mark : Mark
  deriving DecidableEq, Repr, Inhabited

structure Lexer where
  cursor : Cursor
  /-- Whether a key may begin here. -/
  keyAllowed : Bool
  /-- The column of the innermost block collection, if one is open, and of those around it. -/
  level : Option Nat
  outer : List (Option Nat)
  /-- The places where a key may have begun: in the innermost flow collection, in those around it,
  and at last in the block. -/
  keys : List (Option PendingKey)
  /-- How many tokens have been given away, and those that wait. -/
  given : Nat
  queue : List Token
  ended : Bool

namespace Lexer

def ofText (s : List Char) : Lexer where
  cursor := .ofText s
  keyAllowed := true
  level := none
  outer := []
  keys := [none]
  given := 0
  queue := []
  ended := false

def inFlow (l : Lexer) : Bool := 1 < l.keys.length

def push (l : Lexer) (t : Token) : Lexer := { l with queue := l.queue ++ [t] }

def pushMark (l : Lexer) (kind : TokenKind) (m : Mark) : Lexer := l.push ⟨kind, m, m⟩

/-- Puts the token of a place before the waiting token of a number. -/
def insertMark (l : Lexer) (number : Nat) (kind : TokenKind) (m : Mark) : Lexer :=
  let k := number - l.given
  { l with queue := l.queue.take k ++ ⟨kind, m, m⟩ :: l.queue.drop k }

def pushSign (l : Lexer) (kind : TokenKind) (length : Nat) : Lexer :=
  let (t, c) := Token.sign kind length l.cursor
  { l.push t with cursor := c }

def fault (l : Lexer) (problem : Problem) : Except Fault Lexer :=
  .error (.source problem l.cursor.mark none)

/-! ### Indentation -/

/-- Begins a block collection at a column, if none stands there. -/
def beginBlock (l : Lexer) (column : Nat) (add : Lexer → Lexer) : Lexer :=
  if l.inFlow || l.level.any (column ≤ ·) then l
  else add { l with level := some column, outer := l.level :: l.outer }

/-- Ends the block collections, of which `outer` are those around the innermost one, as long as they
stand to the right of a column. -/
def endBlocksFrom (column : Option Nat) : (outer : List (Option Nat)) → Lexer → Lexer
  | [], l => l
  | before :: outer, l =>
    if l.level.any fun n => column.all (· < n) then
      endBlocksFrom column outer
        { l.pushMark .blockEnd l.cursor.mark with level := before, outer }
    else l

/-- Ends the block collections that stand to the right of a column; all of them without one. -/
def endBlocks (l : Lexer) (column : Option Nat) : Lexer :=
  if l.inFlow then l else endBlocksFrom column l.outer l

/-! ### Keys -/

/-- The fault of a key that never met its colon. -/
def lostKey (l : Lexer) (k : PendingKey) : Except Fault Lexer :=
  l.cursor.fault .missingColon .simpleKey k.mark

/-- Gives up the innermost place where a key may have begun. -/
def dropKey (l : Lexer) : Except Fault Lexer :=
  match l.keys with
  | some k :: keys => if k.required then l.lostKey k else .ok { l with keys := none :: keys }
  | _ => .ok l

/-- Keeps this place if a key may begin here. -/
def keepKey (l : Lexer) : Except Fault Lexer :=
  if l.keyAllowed then do
    let l ← l.dropKey
    let key : PendingKey :=
      { required := !l.inFlow && l.level == some l.cursor.mark.column
        number := l.given + l.queue.length
        mark := l.cursor.mark }
    return { l with keys := some key :: l.keys.drop 1 }
  else .ok l

/-- Whether a key that began at a place can no longer meet its colon here. -/
def isStale (here : Mark) (k : PendingKey) : Bool :=
  k.mark.line < here.line || k.mark.index + 1024 < here.index

/-- Gives up the places whose keys can no longer meet their colon. -/
def dropStaleKeys (l : Lexer) : Except Fault Lexer :=
  let stale (k : PendingKey) : Bool := isStale l.cursor.mark k
  match (l.keys.reverse.filterMap id).find? fun k => stale k && k.required with
  | some k => l.lostKey k
  | none => .ok { l with keys := l.keys.map fun key => key.filter (!stale ·) }

/-! ### Tokens -/

/-- Skips blanks, comments and line breaks. A tab counts as a blank only where it cannot be taken for
indentation. A line may begin with a byte order mark, which takes up a column. -/
def skipGap (flow : Bool) : (fuel : Nat) → (keyAllowed : Bool) → Cursor → Bool × Cursor
  | 0, keyAllowed, c => (keyAllowed, c)
  | fuel + 1, keyAllowed, c =>
    let c := if c.mark.column = 0 && c.at? '\ufeff' then c.advance 1 else c
    let c := (c.skip fun x => x == ' ' || (x == '\t' && (flow || !keyAllowed))).skipComment
    if c.next? isBreak then skipGap flow fuel (keyAllowed || !flow) c.lineBreak.2
    else (keyAllowed, c)

def pushEnd (l : Lexer) : Except Fault Lexer := do
  let m := l.cursor.mark
  let c : Cursor :=
    if m.column = 0 then l.cursor
    else ⟨l.cursor.rest, { m with line := m.line + 1, column := 0 }⟩
  let l ← ({ l with cursor := c }.endBlocks none).dropKey
  return { l.pushMark .textEnd l.cursor.mark with keyAllowed := false, ended := true }

/-- Ends all blocks before a token that stands between documents. -/
def leaveBlocks (l : Lexer) : Except Fault Lexer := do
  let l ← (l.endBlocks none).dropKey
  return { l with keyAllowed := false }

def pushDirective (l : Lexer) : Except Fault Lexer := do
  let l ← l.leaveBlocks
  let (t, c) ← Token.readDirective l.cursor
  return { l.push t with cursor := c }

def openFlow (l : Lexer) (kind : TokenKind) : Except Fault Lexer := do
  let l ← l.keepKey
  return { l with keys := none :: l.keys, keyAllowed := true }.pushSign kind 1

def closeFlow (l : Lexer) (kind : TokenKind) : Except Fault Lexer := do
  let l ← l.dropKey
  let keys := if l.inFlow then l.keys.drop 1 else l.keys
  return { l with keys, keyAllowed := false }.pushSign kind 1

/-- Adds the sign before an item of a block sequence. -/
def pushEntry (l : Lexer) : Except Fault Lexer :=
  if !l.inFlow && !l.keyAllowed then l.fault .misplacedEntry
  else do
    let m := l.cursor.mark
    let l ← (l.beginBlock m.column (·.pushMark .blockSequenceStart m)).dropKey
    return { l with keyAllowed := true }.pushSign .entry 1

def pushKey (l : Lexer) : Except Fault Lexer :=
  if !l.inFlow && !l.keyAllowed then l.fault .misplacedKey
  else do
    let m := l.cursor.mark
    let l ← (l.beginBlock m.column (·.pushMark .blockMappingStart m)).dropKey
    return { l with keyAllowed := !l.inFlow }.pushSign .key 1

/-- Adds the sign before a value. If a key may have begun before it, that was one. -/
def pushValue (l : Lexer) : Except Fault Lexer :=
  match l.keys with
  | some k :: keys =>
    let l := { l with keys := none :: keys }.insertMark k.number .key k.mark
    let l := l.beginBlock k.mark.column (·.insertMark k.number .blockMappingStart k.mark)
    .ok ({ l with keyAllowed := false }.pushSign .value 1)
  | _ =>
    if l.inFlow then .ok ({ l with keyAllowed := false }.pushSign .value 1)
    else if !l.keyAllowed then l.fault .misplacedValue
    else
      let m := l.cursor.mark
      let l := l.beginBlock m.column (·.pushMark .blockMappingStart m)
      .ok ({ l with keyAllowed := true }.pushSign .value 1)

/-- Adds a token with which a key may begin. -/
def pushRead (l : Lexer) (read : Cursor → Except Fault (Token × Cursor)) : Except Fault Lexer := do
  let l ← l.keepKey
  let (t, c) ← read l.cursor
  return { l.push t with cursor := c, keyAllowed := false }

def pushQuoted (l : Lexer) (quote : Char) : Except Fault Lexer :=
  l.pushRead fun c => do
    let (text, c') ← readQuoted quote c
    return (⟨.scalar text false, c.mark, c'.mark⟩, c')

/-- Adds a plain scalar. If it was followed by a line break, a key may begin behind it. -/
def pushPlain (l : Lexer) : Except Fault Lexer := do
  let l ← l.keepKey
  let p ← readPlain l.inFlow (l.level.elim 0 (· + 1)) l.cursor
  let t : Token := ⟨.scalar p.text true, l.cursor.mark, p.stop⟩
  return { l.push t with cursor := p.rest, keyAllowed := p.gap.isBroken }

def pushBlock (l : Lexer) (folded : Bool) : Except Fault Lexer := do
  let l ← l.dropKey
  let (text, c) ← readBlock folded l.level l.cursor
  return { l.push ⟨.scalar text false, l.cursor.mark, c.mark⟩ with cursor := c, keyAllowed := true }

/-- The characters with which no plain scalar begins, unless something is said of the next one. -/
def isSign (c : Char) : Bool :=
  "-?:,[]\x7b\x7d#&*!|>'\"%@\x60".contains c

def beginsPlain (flow : Bool) (c : Cursor) : Bool :=
  c.next? fun x =>
    if x == '-' then !(c.peek? 1).any isBlank
    else if x == '?' || x == ':' then !flow && !c.clearAt 1
    else !isSign x && !isBlank x && !isBreak x

/-- Adds the next token, and those of the blocks that end before it. -/
def next (l : Lexer) : Except Fault Lexer := do
  let (keyAllowed, c) := skipGap l.inFlow (l.cursor.rest.length + 1) l.keyAllowed l.cursor
  let l ← { l with keyAllowed, cursor := c }.dropStaleKeys
  let l := l.endBlocks (some c.mark.column)
  let flow := l.inFlow
  if c.mark.column = 0 && c.at? '%' then l.pushDirective
  else if c.atSign '-' then return (← l.leaveBlocks).pushSign .documentStart 3
  else if c.atSign '.' then return (← l.leaveBlocks).pushSign .documentEnd 3
  else
    match c.rest.head? with
    | none => l.pushEnd
    | some '[' => l.openFlow .flowSequenceStart
    | some '\x7b' => l.openFlow .flowMappingStart
    | some ']' => l.closeFlow .flowSequenceEnd
    | some '\x7d' => l.closeFlow .flowMappingEnd
    | some ',' => return { ← l.dropKey with keyAllowed := true }.pushSign .flowEntry 1
    | some '*' => l.pushRead (Token.readName .reference .reference)
    | some '&' => l.pushRead (Token.readName .anchor .anchor)
    | some '!' => l.pushRead (Token.readTag flow)
    | some '\'' => l.pushQuoted '\''
    | some '"' => l.pushQuoted '"'
    | some x =>
      if x == '-' && c.clearAt 1 then l.pushEntry
      else if x == '?' && (flow || c.clearAt 1) then l.pushKey
      else if x == ':' && (flow || c.clearAt 1) then l.pushValue
      else if x == '|' && !flow then l.pushBlock false
      else if x == '>' && !flow then l.pushBlock true
      else if beginsPlain flow c then l.pushPlain
      else c.fault .strangeCharacter .nextToken c.mark

/-- Whether the first waiting token may turn out to belong to a key. -/
def isHeld (l : Lexer) : Bool :=
  l.keys.any fun key => key.any (·.number == l.given)

/-- Cuts a text into tokens, up to a fault if there is one. Tokens that wait when the fault shows are
lost. Each step gives a token away or reads one. -/
def run : (fuel : Nat) → Lexer → List Token × Option Fault
  | 0, _ => ([], none)
  | fuel + 1, l =>
    match l.queue with
    | [] =>
      if l.ended then ([], none)
      else
        match l.next with
        | .error f => ([], some f)
        | .ok l => run fuel l
    | t :: queue =>
      match l.dropStaleKeys with
      | .error f => ([], some f)
      | .ok l =>
        if l.isHeld then
          match l.next with
          | .error f => ([], some f)
          | .ok l => run fuel l
        else
          let (tokens, f) := run fuel { l with given := l.given + 1, queue }
          (t :: tokens, f)

end Lexer

/-- The tokens of a text, up to a fault if there is one. A character makes at most four tokens: a
sign, a key before it, and the beginning and end of a block. -/
def Token.ofText (s : List Char) : List Token × Option Fault :=
  Lexer.run (10 * s.length + 10) (.ofText s)

end StaticPage.Yaml
