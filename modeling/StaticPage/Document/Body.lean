import StaticPage.Document.Basic

/-!
# Body lines

A body line stands for one part of the body: a passage of prose in braces, the head of a loop in
brackets, or a field. The number of spaces in front of it, two for a level, says in which block it
stands: lines are read block by block, each block at the indentation of its loop and two more. The
outline of a document lists its body lines with their depths.
-/

namespace StaticPage

/-- What a body line itself says. -/
inductive Item where
  | prose (id text : String)
  | field (path : String)
  | loop (header : LoopHeader)
  deriving DecidableEq, Repr, Inhabited

namespace Item

/-- The passage between a pair of braces: an identifier, a colon and the text. -/
def prose? (inner : List Char) : Except SyntaxCause Item :=
  match Text.cut? ':' inner with
  | some (id, text) => .ok (.prose (String.ofList (Text.trim id)) (String.ofList (Text.trim text)))
  | none => .error .proseWithoutColon

/-- The variables of a loop: one or two, separated by a comma, none of them blank. -/
def variables? (s : List Char) : Except SyntaxCause (List String) :=
  let vars := (s.splitOn ',').map Text.trim
  if 2 < vars.length then .error .tooManyVariables
  else if vars.any List.isEmpty then .error .emptyVariable
  else .ok (vars.map String.ofList)

/-- The head of a loop from the text after `for`: variables, ` in `, a source, and sort keys after a
colon or none. -/
def clause? (clause : List Char) : Except SyntaxCause Item := do
  let (left, spec) := (Text.cut? ':' clause).getD (clause, [])
  match Text.splitWord " in ".toList left with
  | [vars, source] =>
    let vars ← variables? vars
    let source := Text.trim source
    if source.isEmpty then .error .loopWithoutSource
    else .ok (.loop { vars, source := String.ofList source, sort := SortKey.parseList spec })
  | _ => .error .loopWithoutSingleIn

/-- The head of a loop that begins with a bracket; what follows the closing bracket does not
count. -/
def loop? (trimmed : List Char) : Except SyntaxCause Item :=
  match Text.cut? ']' trimmed with
  | none => .error .loopWithoutBracket
  | some (front, _) =>
    match Text.dropPrefix? "for ".toList (Text.trim front.tail) with
    | none => .error .loopWithoutClause
    | some clause => clause? clause

/-- What a line says, given its text without the blanks at its ends. -/
def ofText? (trimmed : List Char) : Except SyntaxCause Item :=
  if trimmed.head? = some '\x7b' ∧ trimmed.getLast? = some '\x7d' then prose? trimmed.tail.dropLast
  else if "[for ".toList.isPrefixOf trimmed then loop? trimmed
  else .ok (.field (String.ofList trimmed))

end Item

namespace Line

def indent (line : Line) : Nat :=
  (line.text.toList.takeWhile (· == ' ')).length

def isBlank (line : Line) : Bool :=
  (Text.trim line.text.toList).isEmpty

end Line

namespace Node

/-- The node of a line that opens no block. -/
def leaf : Item → Node
  | .prose id text => .prose id text
  | .field path => .field path
  | .loop header => .loop header []

/-- The nodes of a block at an indentation, and the lines behind the block. A block ends at the first
line with less indentation; a line with more is in no block. The head of a loop opens a block of its
own. Blank lines say nothing. -/
def block? (indent : Nat) (lines : List Line) :
    Except SyntaxFault (List Node × { behind : List Line // behind <:+ lines }) :=
  match lines with
  | [] => .ok ([], ⟨[], List.suffix_rfl⟩)
  | line :: rest =>
    if line.isBlank then
      match block? indent rest with
      | .error fault => .error fault
      | .ok (nodes, ⟨behind, h⟩) => .ok (nodes, ⟨behind, h.trans (List.suffix_cons line rest)⟩)
    else if line.indent < indent then .ok ([], ⟨line :: rest, List.suffix_rfl⟩)
    else if indent < line.indent then .error ⟨line, .unexpectedIndent indent line.indent⟩
    else
      match Item.ofText? (Text.trim line.text.toList) with
      | .error cause => .error ⟨line, cause⟩
      | .ok (.loop header) =>
        match block? (indent + 2) rest with
        | .error fault => .error fault
        | .ok (body, ⟨after, h⟩) =>
          match block? indent after with
          | .error fault => .error fault
          | .ok (nodes, ⟨behind, h'⟩) =>
            .ok (.loop header body :: nodes, ⟨behind, (h'.trans h).trans (List.suffix_cons line rest)⟩)
      | .ok item =>
        match block? indent rest with
        | .error fault => .error fault
        | .ok (nodes, ⟨behind, h⟩) =>
          .ok (leaf item :: nodes, ⟨behind, h.trans (List.suffix_cons line rest)⟩)
termination_by lines.length
decreasing_by
  all_goals simp only [List.length_cons]
  · omega
  · omega
  · have := h.length_le
    omega
  · omega

mutual

/-- The outline of a node at a depth: its own line and those below it. -/
def outline (depth : Nat) : Node → List (Nat × Item)
  | .loop header body => (depth, .loop header) :: outlineAll (depth + 1) body
  | .prose id text => [(depth, .prose id text)]
  | .field path => [(depth, .field path)]

def outlineAll (depth : Nat) : List Node → List (Nat × Item)
  | [] => []
  | n :: rest => outline depth n ++ outlineAll depth rest

end

end Node

end StaticPage
