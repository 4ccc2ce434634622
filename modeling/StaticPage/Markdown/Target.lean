import StaticPage.Markdown.CharacterReference
import StaticPage.Text.CaseFold

/-!
# Destinations, titles and labels

A target is written behind a link, or once for all in a definition that gives it a label. Labels are
the same if they are equal up to case and the width of the gaps in them.
-/

namespace StaticPage.Markdown

namespace Source

/-! ### Destinations -/

/-- The position of the angle bracket that closes a destination. -/
def pointedEnd? (s : Source) (i : Nat) : Option Nat :=
  if h : i < s.chars.size then
    let c := s.chars[i]
    if c = '>' then some i
    else if isBreak c || c == '<' then none
    else s.pointedEnd? (if s.hasEscape i then i + 2 else i + 1)
  else none
termination_by s.chars.size - i
decreasing_by split <;> omega

/-- The position behind a bare destination: it ends at a space, at a control character, or at a closing
parenthesis that it does not open. At most `limit + 1` parentheses are open at a time; `depth` of them
are. -/
def bareEnd? (s : Source) (limit depth : Nat) (i : Nat) : Option Nat :=
  if h : i < s.chars.size then
    let c := s.chars[i]
    if c.toNat ≤ 0x20 then some i
    else if c = '(' then if limit < depth then none else s.bareEnd? limit (depth + 1) (i + 1)
    else if c = ')' then if depth = 0 then some i else s.bareEnd? limit (depth - 1) (i + 1)
    else s.bareEnd? limit depth (if s.hasEscape i then i + 2 else i + 1)
  else some i
termination_by s.chars.size - i
decreasing_by all_goals (try split) <;> omega

/-- A destination with its escapes read, and the position behind it. -/
def destination? (s : Source) (limit i : Nat) : Option (String × Nat) :=
  let read (start stop : Nat) : String := String.ofList (unescape (s.slice start stop))
  if s.has '<' i then (s.pointedEnd? (i + 1)).map fun j => (read (i + 1) j, j + 1)
  else (s.bareEnd? limit 0 i).map fun j => (read i j, j)

/-! ### Titles -/

/-- The mark that closes a title which begins at a position. -/
def titleMark? (s : Source) (i : Nat) : Option Char :=
  (s.at? i).bind fun c =>
    if c = '"' ∨ c = '\'' then some c else if c = '(' then some ')' else none

/-- The position of the mark that closes the title of a definition. No line of it is empty or holds
nothing but spaces, if newlines end it. -/
def titleEnd? (s : Source) (close : Char) (i : Nat) : Option Nat :=
  if h : i < s.chars.size then
    let c := s.chars[i]
    if c = '\n' then
      let j := s.skipWhile isSpace (i + 1)
      if s.has '\n' j || s.at? j = none then none
      else if i < j then s.titleEnd? close j else none
    else if c = '\\' then if i + 1 < s.size then s.titleEnd? close (i + 2) else none
    else if c = close then some i
    else s.titleEnd? close (i + 1)
  else none
termination_by s.chars.size - i

/-- The title of a definition, and the position behind it. -/
def title? (s : Source) (i : Nat) : Option (String × Nat) :=
  (s.titleMark? i).bind fun close =>
    (s.titleEnd? close (i + 1)).map fun j =>
      (String.ofList (unescape (s.slice (i + 1) j)), j + 1)

/-! ### Labels -/

/-- The position behind a gap in a label. There is at most one line ending in it; `behind` gives the
position from which a line goes on. -/
def labelGap? (s : Source) (behind : Nat → Option Nat) (broken : Bool) (i : Nat) : Option Nat :=
  if h : i < s.chars.size then
    if !isAsciiBlank s.chars[i] then some i
    else
      match s.lineEnd? i with
      | none => labelGap? s behind broken (i + 1)
      | some next =>
        if broken then none
        else
          match behind next with
          | none => none
          | some j => if i < j then labelGap? s behind true j else none
  else some i
termination_by s.chars.size - i

/-- What is read of a label: its characters in reverse, whether they are all blank, and its length, for
which plain ASCII characters do not count. -/
structure LabelReading where
  letters : List Char
  blank : Bool
  length : Nat
  deriving Repr, Inhabited

/-- A label with each gap of it written as one space, up to the bracket that closes it, and the position
behind the bracket. -/
def labelFrom? (s : Source) (behind : Nat → Option Nat) (r : LabelReading) (i : Nat) :
    Option (List Char × Nat) :=
  if _h : i < s.chars.size then
    let c := s.chars[i]
    if 1000 ≤ r.length ∨ c = '[' then none
    else if c = ']' then if r.blank then none else some (r.letters.reverse, i + 1)
    else if c = '\\' then
      match s.at? (i + 1) with
      | none => none
      | some d => labelFrom? s behind ⟨d :: c :: r.letters, false, r.length + 1 + d.utf8Size⟩ (i + 2)
    else if isAsciiBlank c then
      match s.labelGap? behind false i with
      | none => none
      | some j =>
        if i < j then labelFrom? s behind ⟨' ' :: r.letters, r.blank, r.length + (j - i)⟩ j else none
    else
      let width := if c.toNat < 0x80 then 0 else c.utf8Size
      labelFrom? s behind ⟨c :: r.letters, false, r.length + width⟩ (i + 1)
  else none
termination_by s.chars.size - i
decreasing_by all_goals omega

/-- The label in brackets at a position, in the form in which labels are compared, and the position
behind it. -/
def label? (s : Source) (behind : Nat → Option Nat) (i : Nat) : Option (List Char × Nat) :=
  if s.has '[' i then
    (s.labelFrom? behind ⟨[], true, 0⟩ (i + 1)).map fun (label, j) => (Text.foldCase label, j)
  else none

end Source

end StaticPage.Markdown
