import StaticPage.Text.CombiningClass
import StaticPage.Text.Composition
import StaticPage.Text.Direction
import StaticPage.Text.Joining
import StaticPage.Url.NameTable
import StaticPage.Url.Punycode

/-!
# Names of hosts

A name is labels with dots between them. It is brought into one form, without case and composed, and is
written in ASCII, whatever characters it had; a label that was written so has to stand for a label in that
form. What could be taken for another name is refused.
-/

namespace StaticPage.Url

def isForbidden (c : Char) : Bool :=
  c.toNat ≤ 0x20 || c.toNat = 0x7F || "%#/:<>?@[\\]^|".contains c

def mapNameChar (c : Char) : List Char :=
  if c.toNat < 128 then [c.toLower]
  else
    match countedAs.run? c with
    | none => [c]
    | some run =>
      let distance := c.toNat - run.first
      if run.value.size = 1 then (run.value.getD 0 []).map fun n => Char.ofNat (n + distance)
      else (run.value.getD distance []).map Char.ofNat

/-- A name in the form that counts, unless it is refused for a character. What a forbidden character is
composed to may be allowed. -/
def countedName? (name : List Char) : Option (List Char) :=
  let counted := Text.composed (name.flatMap mapNameChar)
  if name.any refused.contains || counted.any isForbidden then none else some counted

/-! ### Labels -/

/-- A label: what it stands for, and how it is written in ASCII. -/
structure Label where
  letters : List Char
  ascii : List Char
  deriving DecidableEq, Repr, Inhabited

/-- The mark of a label that is written in Punycode. -/
def punycodeMark : List Char := "xn--".toList

/-- How long a label may be that has to be written in Punycode. -/
def longestLetters : Nat := 1000

/-- How long a label in Punycode may be, without the mark. -/
def longestCode : Nat := 2000

def isAscii (s : List Char) : Bool :=
  s.all (·.toNat < 128)

/-- The label that a code behind the mark stands for. It has to be one that needs the mark, in the form
that counts. -/
def Label.ofCode? (code : List Char) : Option Label := do
  let letters ← if isAscii code && code.length ≤ longestCode then Punycode.decode? code else none
  if !isAscii letters && countedName? letters == some letters then
    some ⟨letters, punycodeMark ++ code⟩
  else none

/-- Reads a label of a name in the form that counts. -/
def Label.read? (s : List Char) : Option Label :=
  match punycodeMark.isPrefixOf? s with
  | some code => ofCode? code
  | none =>
    if isAscii s then some ⟨s, s⟩
    else if s.length ≤ longestLetters then some ⟨s, punycodeMark ++ Punycode.encode s⟩
    else none

/-- Whether a label is clear: it begins with no mark, its joiners have an effect, and it keeps to one
direction if directions have to be kept apart. -/
def Label.isClear (directed : Bool) (l : Label) : Bool :=
  !l.letters.head?.any Text.isMark && Text.joinersHaveEffect [] l.letters &&
    (!directed || Text.keepsDirection l.letters)

/-! ### Names -/

/-- A name in ASCII, if it may be one. -/
def asciiName? (name : List Char) : Option (List Char) := do
  let labels ← ((← countedName? name).splitOn '.').mapM Label.read?
  let directed := labels.any (·.letters.any Text.isFromRight)
  if labels.all (·.isClear directed) then some (['.'].intercalate (labels.map Label.ascii)) else none

end StaticPage.Url
