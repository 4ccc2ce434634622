import StaticPage.Markdown.HtmlTag
import StaticPage.Markdown.Margin

/-!
# How lines begin

A line says by its first characters what block it begins, and whether it ends the paragraph before
it. All of these are read behind the containers and the indentation of the line.
-/

namespace StaticPage.Markdown

/-- A mark of this kind stands in front of bullets; the others follow a number. -/
def isBullet (c : Char) : Bool :=
  c == '-' || c == '+' || c == '*'

namespace Source

/-- The position behind a rule: three or more equal marks, and nothing else but spaces and tabs. -/
def ruleEnd? (s : Source) (i : Nat) : Option Nat :=
  (s.at? i).bind fun c =>
    let stop := s.skipWhile (fun a => a == c || a == ' ' || a == '\t') i
    if (c == '*' || c == '-' || c == '_') && 3 ≤ (s.slice i stop).count c then s.lineEnd? stop
    else none

/-- The level of a heading that is marked in front by one to six number signs. -/
def headingLevel? (s : Source) (i : Nat) : Option Nat :=
  let stop := s.skipRun '#' i
  let level := stop - i
  if 1 ≤ level ∧ level ≤ 6 ∧ (s.at? stop).all isAsciiBlank then some level else none

/-- The level of a heading that this line underlines, and the position behind the line. -/
def underline? (s : Source) (i : Nat) : Option (Nat × Nat) :=
  (s.at? i).bind fun c =>
    if c = '=' ∨ c = '-' then
      (s.blankEnd? (s.skipRun c i)).map fun stop => (if c = '=' then 1 else 2, stop)
    else none

/-- The mark and the length of the fence that opens a block of code here. The words after a fence of
backticks hold none. -/
def fence? (s : Source) (i : Nat) : Option (Char × Nat) :=
  (s.at? i).bind fun c =>
    let stop := s.skipRun c i
    if (c == '\x60' || c == '~') && i + 3 ≤ stop &&
        !(c == '\x60' && (s.slice stop (s.nextLine stop)).contains '\x60') then
      some (c, stop - i)
    else none

/-- The position behind a fence that closes a block of code. The end of the source closes it, too. -/
def fenceEnd? (s : Source) (mark : Char) (length i : Nat) : Option Nat :=
  if s.size ≤ i then some i
  else
    let stop := s.skipRun mark i
    let spaces := s.skipRun ' ' stop
    if i + length ≤ stop && (s.lineEnd? spaces).isSome then some spaces else none

/-- The number that a text begins with, and the position behind it. -/
def number? (s : Source) (i : Nat) : Option (Nat × Nat) :=
  let stop := s.skipWhile Char.isDigit i
  if stop = i then none
  else some ((s.slice i stop).foldl (fun n d => n * 10 + (d.toNat - '0'.toNat)) 0, stop)

end Source

/-- The mark of a list item: its last character, the number in front of it if there is one, and the
columns that it takes with its indentation. -/
structure ItemMark where
  mark : Char
  number : Nat
  width : Nat
  deriving DecidableEq, Repr, Inhabited

namespace Margin

/-- The mark of a list item with what follows it: five columns of spaces or more after it are one space
and the indentation of code. -/
def withGap (s : Source) (m : Margin) (mark : ItemMark) : ItemMark × Margin :=
  if (s.blankEnd? m.position).isSome then (mark, m)
  else
    let (missing, inner) := m.skip s 4
    if missing = 0 then (mark, m) else ({ mark with width := mark.width + (4 - missing) }, inner)

/-- The mark of a list item at a margin, and the margin of what follows. A number has at most nine
digits; a mark is followed by a space or the end of the line. The space belongs to the width of a
bullet in any case, but to that of a number only if it is there. -/
def itemMark? (s : Source) (m : Margin) : Option (ItemMark × Margin) :=
  let (missing, m) := m.skip s 4
  if missing = 0 then none
  else
    let indent := 4 - missing
    match s.at? m.position with
    | none => none
    | some c =>
      if isBullet c then
        let (lacking, after) := skip s { m with position := m.position + 1 } 1
        if (s.ruleEnd? m.position).isSome || (lacking ≠ 0 && !after.isAtLineEnd s) then none
        else some (after.withGap s ⟨c, 0, indent + 2⟩)
      else
        (s.number? m.position).bind fun (number, stop) =>
          (s.at? stop).bind fun c =>
            let (lacking, after) := skip s { m with position := stop + 1 } 1
            if (c ≠ '.' && c ≠ ')') || m.position + 9 < stop ||
                (lacking ≠ 0 && !after.isAtLineEnd s) then none
            else some (after.withGap s ⟨c, number, indent + (after.position - m.position)⟩)

end Margin

namespace Source

/-- A list item begins here, for the paragraph in front of it: its mark, its number, and the position
behind the mark. The number is any that sixty-four bits hold. -/
def itemStart? (s : Source) (i : Nat) : Option (Char × Nat × Nat) :=
  let found : Option (Char × Nat × Nat) :=
    (s.at? i).bind fun c =>
      if isBullet c then some (c, 0, i + 1)
      else
        (s.number? i).bind fun (number, stop) =>
          (s.at? stop).bind fun c =>
            if (c = '.' ∨ c = ')') ∧ number < Nat.pow 2 64 then some (c, number, stop + 1) else none
  found.filter fun (_, _, stop) => s.has ' ' stop || s.has '\t' stop || (s.lineEnd? stop).isSome

/-- Nothing but spaces stands on the rest of a line and on the next one. -/
def isBlankTwice (s : Source) (i : Nat) : Bool :=
  (s.blankEnd? i).any fun next => (s.blankEnd? next).isSome

/-- A line that ends the paragraph before it. Where all containers go on, a list does so only if it
does not count from another number than one and does not begin with an empty item and a blank line. A
quote does so only if a space follows its mark. -/
def interrupts (s : Source) (inside : Bool) (i : Nat) : Bool :=
  (s.lineEnd? i).isSome || (s.ruleEnd? i).isSome || (s.headingLevel? i).isSome ||
    (s.fence? i).isSome || s.startsWith "> " i ||
    (s.itemStart? i).any (fun (mark, number, stop) =>
      !inside || ((isBullet mark || number == 1) && !s.isBlankTwice stop)) ||
    (s.has '<' i && ((verbatimEnd? s (i + 1)).isSome || startsBlockTag s (i + 1)))

end Source

end StaticPage.Markdown
