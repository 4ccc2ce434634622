import StaticPage.Text.Characters
import StaticPage.Text.Split

/-!
# URL templates

A template is a URL with placeholders in braces. A placeholder names a value: a head, and a path
below it or none. Expanding a template puts the texts of the values in their places; the text of the
first placeholder is the key under which the answer is kept, and a template without placeholders has
its URL for a key.
-/

namespace StaticPage

/-- A place in a template that a value fills. -/
structure Placeholder where
  head : String
  rest : Option String
  deriving DecidableEq, Repr, Inhabited

inductive TemplatePart where
  | literal (text : String)
  | hole (placeholder : Placeholder)
  deriving DecidableEq, Repr, Inhabited

/-- A URL template: its text and its pieces. -/
structure Template where
  raw : String
  parts : List TemplatePart
  deriving DecidableEq, Repr, Inhabited

namespace Placeholder

/-- The placeholder that the text between two braces spells. -/
def ofText (inner : List Char) : Placeholder :=
  let expr := Text.trim inner
  match Text.cut? '.' expr with
  | some (head, rest) => ⟨String.ofList head, some (String.ofList rest)⟩
  | none => ⟨String.ofList expr, none⟩

/-- What a placeholder asks for: its head, and a point and its rest if it has one. -/
def expression (p : Placeholder) : String :=
  match p.rest with
  | some rest => p.head ++ "." ++ rest
  | none => p.head

end Placeholder

namespace Template

/-- A literal piece, unless it is empty; its characters come last one first. -/
def literal (text : List Char) (parts : List TemplatePart) : List TemplatePart :=
  if text.isEmpty then parts else .literal (String.ofList text.reverse) :: parts

/-- The pieces of a text. An opening brace with a closing one after it, and something between them,
makes a placeholder; `text` holds the literal read so far, the last character first. -/
def partsOf (text : List Char) (s : List Char) : List TemplatePart :=
  match s with
  | [] => literal text []
  | c :: s =>
    if c = '\x7b' then
      match _h : Text.cut? '\x7d' s with
      | some (inner, rest) =>
        if inner.isEmpty then partsOf (c :: text) s
        else literal text (.hole (.ofText inner) :: partsOf [] rest)
      | none => partsOf (c :: text) s
    else partsOf (c :: text) s
termination_by s.length
decreasing_by
  · simp
  · have := congrArg List.length (Text.eq_of_cut? _h)
    simp only [List.length_append, List.length_cons] at this ⊢
    omega
  · simp
  · simp

def parse (raw : String) : Template :=
  { raw, parts := partsOf [] raw.toList }

/-- The placeholders of a template, from left to right. -/
def placeholders (t : Template) : List Placeholder :=
  t.parts.filterMap fun
    | .hole p => some p
    | .literal _ => none

/-- The URL of some pieces with the texts that `resolve` gives for the placeholders; none if a
placeholder has no text. -/
def expandParts (resolve : Placeholder → Option String) : List TemplatePart → Option String
  | [] => some ""
  | .literal text :: rest => (expandParts resolve rest).map (text ++ ·)
  | .hole p :: rest =>
    (resolve p).bind fun text => (expandParts resolve rest).map (text ++ ·)

/-- The URL that a template expands to, and the key of its answer. -/
def expand (t : Template) (resolve : Placeholder → Option String) : Option (String × String) :=
  (expandParts resolve t.parts).map fun url =>
    (url, (t.placeholders.head?.bind resolve).getD url)

/-- The placeholders that expanding a template asks for: all of them, up to the first one without a
text. -/
def asked (t : Template) (resolve : Placeholder → Option String) : List Placeholder :=
  let filled := t.placeholders.takeWhile fun p => (resolve p).isSome
  filled ++ (t.placeholders.drop filled.length).take 1

end Template

end StaticPage
