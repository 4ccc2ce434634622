/-!
# Paths

A path is a text of components divided by slashes. Repeated slashes and components of a single dot
count for nothing, except for a dot in front of a relative path. Joining puts a relative path behind
another one; a path that begins with a slash stands alone.
-/

namespace StaticPage.Path

inductive Component where
  | root
  | current
  | parent
  | name (s : List Char)
  deriving DecidableEq, Repr, Inhabited

/-- A component that a text between slashes stands for. -/
def Component.ofText? (s : List Char) : Option Component :=
  if s.isEmpty ∨ s = ['.'] then none else if s = ['.', '.'] then some .parent else some (.name s)

def components (path : String) : List Component :=
  let pieces := path.toList.splitOn '/'
  let rest := pieces.filterMap Component.ofText?
  if path.toList.head? = some '/' then .root :: rest
  else if pieces.head? = some ['.'] then .current :: rest
  else rest

def Component.text : Component → List Char
  | root => []
  | current => ['.']
  | parent => ['.', '.']
  | name s => s

def ofComponents : List Component → String
  | .root :: rest => String.ofList ('/' :: ['/'].intercalate (rest.map Component.text))
  | cs => String.ofList (['/'].intercalate (cs.map Component.text))

def fileName? (path : String) : Option String :=
  match (components path).getLast? with
  | some (.name s) => some (String.ofList s)
  | _ => none

/-- The path without its last component; the root has none. -/
def parent? (path : String) : Option String :=
  match (components path).reverse with
  | [] | [.root] => none
  | _ :: rest => some (ofComponents rest.reverse)

/-- The lists that remain when a list loses its first element, again and again. -/
def remainders : List Component → List (List Component)
  | [] => []
  | _ :: rest => rest :: remainders rest

/-- The paths that the beginnings of a path make up, the longest first, down to the root or the empty
path. -/
def ancestors (path : String) : List String :=
  let cs := components path
  let chain := remainders cs.reverse
  (if cs.head? = some .root then chain.dropLast else chain).map fun cs => ofComponents cs.reverse

/-- A file name before and after its last dot; a dot at the beginning divides nothing. -/
def splitName (name : String) : String × Option String :=
  let s := name.toList
  let extension := (s.reverse.takeWhile (· != '.')).reverse
  let stem := s.take (s.length - extension.length - 1)
  if extension.length = s.length ∨ stem.isEmpty then (name, none)
  else (String.ofList stem, some (String.ofList extension))

/-- The name that a path ends in, without its extension. -/
def stem? (path : String) : Option String :=
  (fileName? path).map fun name => (splitName name).1

def extension? (path : String) : Option String :=
  (fileName? path).bind fun name => (splitName name).2

/-- A path behind another one. -/
def join (root path : String) : String :=
  if path.toList.head? = some '/' then path
  else if root.isEmpty ∨ root.toList.getLast? = some '/' then root ++ path
  else root ++ "/" ++ path

end StaticPage.Path
