import StaticPage.Yaml.Scalar

/-!
# Tokens of YAML text

A token is a piece of the text, or a place where the indentation begins or ends a collection. The
tokens that stand for pieces with an inner form, such as tags and directives, are read here.
-/

namespace StaticPage.Yaml

inductive TokenKind where
  | textEnd
  | version (major minor : Nat)
  | handle (name meaning : List Char)
  | documentStart | documentEnd
  | blockSequenceStart | blockMappingStart | blockEnd
  | flowSequenceStart | flowSequenceEnd | flowMappingStart | flowMappingEnd
  | entry | flowEntry | key | value
  | reference (name : List Char)
  | anchor (name : List Char)
  | tag (handle suffix : List Char)
  | scalar (text : List Char) (plain : Bool)
  deriving DecidableEq, Repr, Inhabited

structure Token where
  kind : TokenKind
  start : Mark
  stop : Mark
  deriving DecidableEq, Repr, Inhabited

namespace Token

/-- A token of a number of characters at a cursor. -/
def sign (kind : TokenKind) (length : Nat) (c : Cursor) : Token × Cursor :=
  let c' := c.advance length
  (⟨kind, c.mark, c'.mark⟩, c')

/-! ### Anchors and aliases -/

def endsName (c : Cursor) : Bool :=
  c.clearAt 0 || c.next? (['?', ':', ',', ']', '\x7d', '%', '@', '\x60'].contains ·)

def readName (kind : List Char → TokenKind) (task : Task) (c : Cursor) :
    Except Fault (Token × Cursor) :=
  let (name, c') := (c.advance 1).span isWordChar
  if name.isEmpty || !endsName c' then c'.fault .missingName task c.mark
  else .ok (⟨kind name, c.mark, c'.mark⟩, c')

/-! ### Tags -/

/-- A character of a tag, apart from escapes. The signs of a flow sequence belong to it only where
`wide` is set. -/
def isTagChar (wide : Bool) (c : Char) : Bool :=
  isWordChar c || ";/?:@&=+$.!~*'()".contains c || (wide && (c == ',' || c == '[' || c == ']'))

/-- The number of bytes of a character whose first byte is given. -/
def sequenceLength? (octet : Nat) : Option Nat :=
  if octet < 128 then some 1
  else if octet / 32 = 6 then some 2
  else if octet / 16 = 14 then some 3
  else if octet / 8 = 30 then some 4
  else none

/-- The octet written at a cursor by a percent sign and two digits. -/
def octet? (c : Cursor) : Option Nat :=
  match c.rest with
  | '%' :: a :: b :: _ => Text.hexNumber? [a, b]
  | _ => none

/-- Reads the octets of a character after the first one. -/
def readTrailing (task : Task) (begun : Mark) :
    (count : Nat) → (code : Nat) → Cursor → Except Fault (Char × Cursor)
  | 0, code, c => .ok (Char.ofNat code, c)
  | count + 1, code, c =>
    match octet? c with
    | none => c.fault .missingOctet task begun
    | some o =>
      if o / 64 = 2 then readTrailing task begun count (64 * code + o % 64) (c.advance 3)
      else c.fault .badTrailingOctet task begun

/-- Reads a character that is written by its octets. -/
def readOctets (task : Task) (begun : Mark) (c : Cursor) : Except Fault (Char × Cursor) :=
  match octet? c with
  | none => c.fault .missingOctet task begun
  | some o =>
    match sequenceLength? o with
    | none => c.fault .badLeadingOctet task begun
    | some n =>
      let code := if n = 1 then o else o % Nat.pow 2 (7 - n)
      readTrailing task begun (n - 1) code (c.advance 3)

def readTagText (wide : Bool) (task : Task) (begun : Mark) :
    (fuel : Nat) → (text : List Char) → Cursor → Except Fault (List Char × Cursor)
  | 0, text, c => .ok (text, c)
  | fuel + 1, text, c =>
    match c.rest with
    | [] => .ok (text, c)
    | x :: _ =>
      if x == '%' then do
        let (y, c) ← readOctets task begun c
        readTagText wide task begun fuel (text ++ [y]) c
      else if isTagChar wide x then readTagText wide task begun fuel (text ++ [x]) (c.advance 1)
      else .ok (text, c)

/-- Reads the text of a tag, which must not be empty. -/
def readSomeTagText (wide : Bool) (task : Task) (begun : Mark) (c : Cursor) :
    Except Fault (List Char × Cursor) := do
  let (text, c') ← readTagText wide task begun c.rest.length [] c
  if c.mark = c'.mark then c'.fault .missingTagText task begun else return (text, c')

/-- Reads a handle: a word between two exclamation marks, of which the second may be missing. -/
def readHandle (c : Cursor) : List Char × Cursor :=
  let (word, c') := (c.advance 1).span isWordChar
  if c'.at? '!' then (['!'] ++ word ++ ['!'], c'.advance 1) else (['!'] ++ word, c')

/-- Reads a tag: one in angle brackets, one with a handle, or one after a single exclamation mark,
which may be nothing else. -/
def readTag (flow : Bool) (c : Cursor) : Except Fault (Token × Cursor) := do
  let begun := c.mark
  let (handle, suffix, c) ← (do
    if c.peek? 1 = some '<' then
      let (text, c) ← readSomeTagText true .tagText begun (c.advance 2)
      if c.at? '>' then return ([], text, c.advance 1) else c.fault .missingTagEnd .tag begun
    else
      let (handle, c) := readHandle c
      if 2 ≤ handle.length ∧ handle.getLast? = some '!' then
        let (text, c) ← readSomeTagText false .tagText begun c
        return (handle, text, c)
      else
        let (text, c) ← readTagText false .tagText begun c.rest.length (handle.drop 1) c
        return if text.isEmpty then ([], ['!'], c) else (['!'], text, c))
  if c.clearAt 0 || (flow && c.at? ',') then return (⟨.tag handle suffix, begun, c.mark⟩, c)
  else c.fault .missingBlankOrBreak .tag begun

/-! ### Directives -/

def readVersionNumber (begun : Mark) (c : Cursor) : Except Fault (Nat × Cursor) :=
  let (digits, c') := c.span Char.isDigit
  if digits.isEmpty then c.fault .missingVersionNumber .versionDirective begun
  else if 9 < digits.length then (c.advance 9).fault .longVersionNumber .versionDirective begun
  else .ok (digits.foldl (fun n d => 10 * n + (d.toNat - 48)) 0, c')

def readVersion (begun : Mark) (c : Cursor) : Except Fault (TokenKind × Cursor) := do
  let (major, c) ← readVersionNumber begun (c.skip isBlank)
  if c.at? '.' then
    let (minor, c) ← readVersionNumber begun (c.advance 1)
    return (.version major minor, c)
  else c.fault .missingVersionPoint .versionDirective begun

def readHandleMeaning (begun : Mark) (c : Cursor) : Except Fault (TokenKind × Cursor) := do
  let c := c.skip isBlank
  if !c.at? '!' then c.fault .missingTagSign .tagDirectiveHandle begun
  else
    let (handle, c) := readHandle c
    if 2 ≤ handle.length ∧ handle.getLast? ≠ some '!' then
      c.fault .missingTagSign .shortTagDirectiveHandle begun
    else if !c.next? isBlank then c.fault .missingBlank .tagDirective begun
    else
      let (meaning, c) ← readSomeTagText true .tagDirectiveText begun (c.skip isBlank)
      if c.clearAt 0 then return (.handle handle meaning, c)
      else c.fault .missingBlankOrBreak .tagDirective begun

/-- Reads a directive, which takes a line of its own. -/
def readDirective (c : Cursor) : Except Fault (Token × Cursor) := do
  let begun := c.mark
  let (name, c) := (c.advance 1).span isWordChar
  if name.isEmpty then c.fault .namelessDirective .directive begun
  else if !c.clearAt 0 then c.fault .strangeDirectiveName .directive begun
  else
    let (kind, c) ←
      if name = "YAML".toList then readVersion begun c
      else if name = "TAG".toList then readHandleMeaning begun c
      else c.fault .unknownDirective .directive begun
    let token : Token := ⟨kind, begun, c.mark⟩
    let c := (c.skip isBlank).skipComment
    if c.atLineEnd then return (token, c.lineBreak.2)
    else c.fault .missingLineEnd .directive begun

end Token

end StaticPage.Yaml
