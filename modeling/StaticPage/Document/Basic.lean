import StaticPage.Ranking.Key

/-!
# Documents

A document binds names to data and has a body, which is a tree: passages of prose, fields that show
the value at a path, and loops over a list or an object, whose bodies are trees again. A text that is
no document has a line that shows it, for one of the causes below.
-/

namespace StaticPage

/-- Where the data of a binding comes from. -/
inductive Origin where
  /-- Only from the store. -/
  | manual
  /-- From a URL, before evaluation. -/
  | eager (url : String)
  /-- From the URLs that a template expands to, when a value is first asked for. -/
  | lazy (template : String)
  deriving DecidableEq, Repr, Inhabited

/-- A name for data that is kept in the store under a target. -/
structure Binding where
  name : String
  target : String
  origin : Origin
  /-- The line of the document that declares it. -/
  line : Nat
  deriving DecidableEq, Repr, Inhabited

namespace Binding

def url? (b : Binding) : Option String :=
  match b.origin with
  | .manual => none
  | .eager url => some url
  | .lazy template => some template

def isLazy (b : Binding) : Bool :=
  match b.origin with
  | .lazy _ => true
  | _ => false

def isManual (b : Binding) : Bool :=
  match b.origin with
  | .manual => true
  | _ => false

/-- A binding without its line. -/
def unplaced (b : Binding) : Binding :=
  { b with line := 0 }

end Binding

/-- The head of a loop: its variables, the path of what it runs over, and how that is sorted. -/
structure LoopHeader where
  vars : List String
  source : String
  sort : List SortKey
  deriving DecidableEq, Repr, Inhabited

/-- A part of a document's body. -/
inductive Node where
  | prose (id text : String)
  | field (path : String)
  | loop (header : LoopHeader) (body : List Node)
  deriving BEq, Repr, Inhabited

structure Document where
  bindings : List Binding
  nodes : List Node
  deriving BEq, Repr, Inhabited

namespace Document

def binding? (d : Document) (name : String) : Option Binding :=
  d.bindings.find? (·.name == name)

def unplaced (d : Document) : Document :=
  { d with bindings := d.bindings.map Binding.unplaced }

end Document

mutual

/-- The number of parts of a body at all levels. -/
def Node.count : Node → Nat
  | .loop _ body => 1 + Node.countAll body
  | _ => 1

def Node.countAll : List Node → Nat
  | [] => 0
  | n :: rest => n.count + Node.countAll rest

end

/-! ### Lines and their faults -/

/-- A line of a text with its number, counted from one. -/
structure Line where
  number : Nat
  text : String
  deriving DecidableEq, Repr, Inhabited

/-- Why a line does not fit. -/
inductive SyntaxCause where
  | duplicateBinding (name : String)
  | unexpectedIndent (expected found : Nat)
  | proseWithoutColon
  | loopWithoutBracket
  | loopWithoutClause
  | loopWithoutSingleIn
  | tooManyVariables
  | emptyVariable
  | loopWithoutSource
  deriving DecidableEq, Repr, Inhabited

def SyntaxCause.message : SyntaxCause → String
  | duplicateBinding name => "duplicate binding '" ++ name ++ "'"
  | unexpectedIndent expected found =>
    "unexpected indent: expected " ++ toString expected ++ " spaces, found " ++ toString found
  | proseWithoutColon => "invalid section: expected \x7bid: text\x7d"
  | loopWithoutBracket => "missing ] in loop header"
  | loopWithoutClause => "invalid loop header"
  | loopWithoutSingleIn => "invalid loop header: expected exactly one ` in `"
  | tooManyVariables => "invalid loop header: at most two loop variables"
  | emptyVariable => "invalid loop header: empty loop variable"
  | loopWithoutSource => "invalid loop header: missing source path"

structure SyntaxFault where
  line : Line
  cause : SyntaxCause
  deriving DecidableEq, Repr, Inhabited

end StaticPage
