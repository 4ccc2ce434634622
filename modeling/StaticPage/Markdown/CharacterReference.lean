import StaticPage.Markdown.EntityTable
import StaticPage.Markdown.Source
import StaticPage.Text.Characters

/-!
# Character references and escapes

A character reference stands for a character by name or by number; a backslash makes a punctuation
character stand for itself. Destinations, titles and the words after a fence know both.
-/

namespace StaticPage.Markdown

/-- The text of the code points that an entry of the table lists. -/
def entryText (codes : List String) : String :=
  String.ofList (codes.map fun code =>
    Char.ofNat (code.toList.foldl (fun n c =>
      n * 16 + if c.isDigit then c.toNat - '0'.toNat else c.toNat - 'a'.toNat + 10) 0))

def namedCharacter? (name : String) : Option String :=
  (entityTable.flatMap (·.splitOn ";")).findSome? fun entry =>
    match entry.splitOn " " with
    | key :: codes => if key == name then some (entryText codes) else none
    | [] => none

def hexDigit? (c : Char) : Option Nat :=
  if c.isDigit then some (c.toNat - '0'.toNat)
  else if 'a' ≤ c ∧ c ≤ 'f' then some (c.toNat - 'a'.toNat + 10)
  else if 'A' ≤ c ∧ c ≤ 'F' then some (c.toNat - 'A'.toNat + 10)
  else none

/-- The character with a number; the number zero stands for the replacement character. -/
def numberedCharacter? (n : Nat) : Option String :=
  if n = 0 then some "\uFFFD"
  else if n.isValidChar then some (Char.ofNat n).toString
  else none

/-- The number that digits of a base write, and the number of the digits. -/
def digits (base : Nat) (digit? : Char → Option Nat) (s : List Char) : Nat × Nat :=
  let values := (s.map digit?).takeWhile Option.isSome
  (values.foldl (fun n d => n * base + d.getD 0) 0, values.length)

/-- The text of a numeric reference from the text after its number sign, and its length. -/
def numericReference? (s : List Char) : Option (String × Nat) :=
  let (n, width) :=
    match s with
    | 'x' :: s | 'X' :: s => let (n, k) := digits 16 hexDigit? s; (n, if k = 0 then 0 else k + 1)
    | s => digits 10 (fun c => if c.isDigit then hexDigit? c else none) s
  if width = 0 ∨ (s.drop width).head? ≠ some ';' then none
  else (numberedCharacter? n).map fun text => (text, width + 1)

/-- The text of a character reference from the text after its ampersand, and its length. -/
def reference? (s : List Char) : Option (String × Nat) :=
  match s with
  | '#' :: s => (numericReference? s).map fun (text, k) => (text, k + 1)
  | s =>
    let name := s.takeWhile Char.isAlphanum
    if (s.drop name.length).head? ≠ some ';' then none
    else (namedCharacter? (String.ofList name)).map fun text => (text, name.length + 1)

/-- The text of the character reference at a position, and the position behind it. -/
def Source.reference? (s : Source) (i : Nat) : Option (String × Nat) :=
  if s.has '&' i then
    let stop := s.skipWhile (fun c => c.isAlphanum || c == '#') (i + 1)
    (Markdown.reference? (s.slice (i + 1) (stop + 1))).map fun (text, width) => (text, i + 1 + width)
  else none

/-- An escape stands at a position: a backslash and a punctuation character. -/
def Source.hasEscape (s : Source) (i : Nat) : Bool :=
  s.has '\\' i && (s.at? (i + 1)).any Text.isAsciiPunctuation

/-- A text with its escapes and character references replaced by what they stand for. Carriage returns
are dropped. -/
def unescape (s : List Char) : List Char :=
  match s with
  | [] => []
  | '\\' :: c :: rest =>
    if Text.isAsciiPunctuation c then c :: unescape rest else '\\' :: unescape (c :: rest)
  | '&' :: rest =>
    match reference? rest with
    | some (text, k) => text.toList ++ unescape (rest.drop k)
    | none => '&' :: unescape rest
  | '\r' :: rest => unescape rest
  | c :: rest => c :: unescape rest
termination_by s.length
decreasing_by all_goals simp only [List.length_cons, List.length_drop]; omega

end StaticPage.Markdown
