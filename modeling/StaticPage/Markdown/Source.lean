/-!
# Sources

A source is read by positions. A position is the number of characters in front of a place; blocks and
their pieces remember where they begin and stop, so that a stretch of a source can be read more than
once. A line ends at a newline, a carriage return, or both together, and at the end of the source.
-/

namespace StaticPage.Markdown

/-- A space inside a line. -/
def isSpace (c : Char) : Bool :=
  c == ' ' || c == '\t' || c == '\x0b' || c == '\x0c'

def isAsciiBlank (c : Char) : Bool :=
  (9 ≤ c.toNat && c.toNat ≤ 13) || c == ' '

/-- A character that ends a line. -/
def isBreak (c : Char) : Bool :=
  c == '\n' || c == '\r'

/-- A text that is read by positions. -/
structure Source where
  chars : Array Char
  deriving DecidableEq, Repr, Inhabited

namespace Source

def ofString (s : String) : Source :=
  ⟨s.toList.toArray⟩

def size (s : Source) : Nat :=
  s.chars.size

def at? (s : Source) (i : Nat) : Option Char :=
  s.chars[i]?

def has (s : Source) (c : Char) (i : Nat) : Bool :=
  s.at? i == some c

def upTo (s : Source) (stop : Nat) : Source :=
  ⟨s.chars.extract 0 stop⟩

def slice (s : Source) (start stop : Nat) : List Char :=
  (s.chars.extract start stop).toList

def text (s : Source) (start stop : Nat) : String :=
  String.ofList (s.slice start stop)

def startsWith (s : Source) (word : String) (i : Nat) : Bool :=
  s.slice i (i + word.length) == word.toList

/-- The position behind the characters of a class. -/
def skipWhile (s : Source) (p : Char → Bool) (i : Nat) : Nat :=
  if h : i < s.chars.size then if p s.chars[i] then s.skipWhile p (i + 1) else i else i
termination_by s.chars.size - i

def skipRun (s : Source) (c : Char) (i : Nat) : Nat :=
  s.skipWhile (· == c) i

/-- The position in front of the characters of a class that stand before a position, but not before
`floor`. -/
def skipBack (s : Source) (p : Char → Bool) (floor : Nat) : Nat → Nat
  | 0 => 0
  | i + 1 => if floor ≤ i && (s.at? i).any p then s.skipBack p floor i else i + 1

def find? (s : Source) (c : Char) (i : Nat) : Option Nat :=
  let j := s.skipWhile (· != c) i
  if j < s.size then some j else none

/-- The position behind a line ending, if one stands here. The end of the source is one. -/
def lineEnd? (s : Source) (i : Nat) : Option Nat :=
  match s.at? i with
  | none => some i
  | some '\n' => some (i + 1)
  | some '\r' => some (if s.has '\n' (i + 1) then i + 2 else i + 1)
  | some _ => none

/-- The position behind the line ending, if only spaces stand before it. -/
def blankEnd? (s : Source) (i : Nat) : Option Nat :=
  s.lineEnd? (s.skipWhile isSpace i)

/-- The position behind a line ending, if only spaces stand before it, and the same position
otherwise. -/
def skipBlank (s : Source) (i : Nat) : Nat :=
  (s.blankEnd? i).getD i

/-- The position behind the next newline. Raw text and the words after a fence end there, whatever
carriage returns they hold. -/
def nextLine (s : Source) (i : Nat) : Nat :=
  (s.skipWhile (· != '\n') i + 1).min s.size

end Source

end StaticPage.Markdown
