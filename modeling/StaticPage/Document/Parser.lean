import StaticPage.Document.Body

/-!
# Reading documents

A binding line declares a binding: a name at the left margin, an equals sign, a target, and possibly
`<<` and a URL. An exclamation mark before the name makes a binding with a URL lazy. Blanks around
the signs do not matter.

The lines of a text are comments, blank lines, binding lines and body lines. Binding lines count
wherever they stand; the body lines make the tree. A name that is bound twice is found before any
fault of the body.
-/

namespace StaticPage

/-! ### Binding lines -/

namespace Header

def isNameChar (c : Char) : Bool :=
  c.isAlphanum || c == '_'

/-- What stands after an operator: the text after the blanks that follow it. If nothing but blanks
follows, the last blank counts as the text; if nothing follows, there is none. -/
def operand? (s : List Char) : Option (List Char) :=
  let rest := Text.trimStart s
  if rest.isEmpty then s.getLast?.map ([·]) else some rest

/-- The exclamation mark in front of a line, and the rest. -/
def mark : List Char → Bool × List Char
  | '!' :: s => (true, s)
  | s => (false, s)

/-- The mark, the name and the right side of a line of the form of a binding. -/
def sides? (s : List Char) : Option (Bool × List Char × List Char) :=
  let (marked, s) := mark s
  let name := s.takeWhile isNameChar
  if name.isEmpty then none
  else
    match Text.trimStart (s.dropWhile isNameChar) with
    | '=' :: rest => (operand? rest).map fun right => (marked, name, right)
    | _ => none

def isTargetChar (c : Char) : Bool :=
  c != '<' && !Text.isBlank c

/-- The target and the URL of a right side that has both. -/
def fetched? (right : List Char) : Option (List Char × List Char) :=
  let target := right.takeWhile isTargetChar
  if target.isEmpty then none
  else
    match Text.trimStart (right.dropWhile isTargetChar) with
    | '<' :: '<' :: rest => (operand? rest).map fun url => (target, Text.trim url)
    | _ => none

end Header

/-- The binding that a line declares, if it is a binding line. -/
def Line.binding? (line : Line) : Option Binding :=
  (Header.sides? line.text.toList).map fun (marked, name, right) =>
    match Header.fetched? right with
    | some (target, url) =>
      let url := String.ofList url
      { name := String.ofList name, target := String.ofList target, line := line.number
        origin := if marked then .lazy url else .eager url }
    | none =>
      { name := String.ofList name, target := String.ofList (Text.trim right), line := line.number
        origin := .manual }

/-! ### Lines and documents -/

namespace Line

/-- Whether a line is a comment: its first character that is not blank is `#`. -/
def isComment (line : Line) : Bool :=
  (Text.trim line.text.toList).head? == some '#'

/-- The binding of a line that is neither comment nor blank. -/
def declares? (line : Line) : Option Binding :=
  if line.isComment || line.isBlank then none else line.binding?

def inBody (line : Line) : Bool :=
  !line.isComment && !line.isBlank && line.binding?.isNone

/-- Whether a line is left to the body: a body line, or a blank line between them. -/
def isLeftToBody (line : Line) : Bool :=
  !line.isComment && (line.isBlank || line.binding?.isNone)

/-- The bindings that lines declare, if no name is bound twice; `names` are those bound before. -/
def bindings? (names : List String) : List Line → Except SyntaxFault (List Binding)
  | [] => .ok []
  | line :: rest =>
    match line.declares? with
    | none => bindings? names rest
    | some b =>
      if names.contains b.name then .error ⟨line, .duplicateBinding b.name⟩
      else (bindings? (b.name :: names) rest).map (b :: ·)

end Line

def numberedLines (source : String) : List Line :=
  ((Text.lines source.toList).zipIdx 1).map fun (text, number) => ⟨number, String.ofList text⟩

namespace Document

def ofLines? (lines : List Line) : Except SyntaxFault Document := do
  let bindings ← Line.bindings? [] lines
  let (nodes, _) ← Node.block? 0 (lines.filter Line.isLeftToBody)
  .ok { bindings, nodes }

def parse (source : String) : Except SyntaxFault Document :=
  ofLines? (numberedLines source)

end Document

end StaticPage
