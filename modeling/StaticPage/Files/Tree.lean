import StaticPage.Dictionary

/-!
# File trees

A file tree says what stands at which place: a file with its bytes, or a directory. A place is the list
of names that leads to it from the root. A path leads to a place name by name, and each name but the
last must lead to a directory.

A file operation fails for one of the reasons that the operating system gives, or because a file
that is read as text is not UTF-8.
-/

namespace StaticPage

inductive FileFault where
  | notFound
  | alreadyExists
  | notDirectory
  | isDirectory
  | nameTooLong
  | nulInName
  | notUtf8
  | other (text : String)
  deriving DecidableEq, Repr, Inhabited

def FileFault.message : FileFault → String
  | notFound => "No such file or directory (os error 2)"
  | alreadyExists => "File exists (os error 17)"
  | notDirectory => "Not a directory (os error 20)"
  | isDirectory => "Is a directory (os error 21)"
  | nameTooLong => "File name too long (os error 36)"
  | nulInName => "file name contained an unexpected NUL byte"
  | notUtf8 => "stream did not contain valid UTF-8"
  | other text => text

/-- What stands at a place. -/
inductive FileEntry where
  | file (bytes : ByteArray)
  | directory
  deriving Inhabited

/-- The entries below the root, and the place that relative paths begin at. -/
structure FileTree where
  entries : List (List String × FileEntry)
  here : List String
  deriving Inhabited

namespace FileTree

/-- A tree with the directories that lead to one place, which relative paths begin at. -/
def startingAt (place : List String) : FileTree :=
  ⟨(List.range place.length).map fun i => (place.take (i + 1), .directory), place⟩

/-- What stands at a place. The root is a directory. -/
def at? (t : FileTree) (place : List String) : Option FileEntry :=
  if place.isEmpty then some .directory else t.entries.lookup place

def isDirectoryAt (t : FileTree) (place : List String) : Bool :=
  match t.at? place with
  | some .directory => true
  | _ => false

def put (t : FileTree) (place : List String) (entry : FileEntry) : FileTree :=
  { t with entries := Dictionary.set place entry t.entries }

def remove (t : FileTree) (place : List String) : FileTree :=
  { t with entries := Dictionary.erase place t.entries }

def nameLimit : Nat := 255

/-- The number of bytes that a path must stay below. -/
def pathLimit : Nat := 4096

/-- The place that a step leads to from a directory. -/
def step (t : FileTree) (place : List String) (name : String) : Except FileFault (List String) :=
  if !t.isDirectoryAt place then .error .notDirectory
  else if name = "" ∨ name = "." then .ok place
  else if name = ".." then .ok place.dropLast
  else if nameLimit < name.utf8ByteSize then .error .nameTooLong
  else if (t.at? (place ++ [name])).isSome then .ok (place ++ [name])
  else .error .notFound

/-- The texts between the slashes of a path. -/
def stepsOf (path : String) : List String :=
  (path.toList.splitOn '/').map String.ofList

def origin (t : FileTree) (path : String) : List String :=
  if path.toList.head? = some '/' then [] else t.here

/-- A path that can be looked up at all. -/
def checkPath (path : String) : Except FileFault Unit :=
  if path.toList.contains '\x00' then .error .nulInName
  else if path = "" then .error .notFound
  else if pathLimit ≤ path.utf8ByteSize then .error .nameTooLong
  else .ok ()

def resolve (t : FileTree) (path : String) : Except FileFault (List String) := do
  checkPath path
  (stepsOf path).foldlM t.step (t.origin path)

/-- The last name of a path that may not exist yet, without the slashes after it: the place of the
directory it is looked up in, the name, and whether a slash follows it. -/
def resolveLast (t : FileTree) (path : String) : Except FileFault (List String × String × Bool) := do
  checkPath path
  let steps := (stepsOf path).reverse
  let named := steps.dropWhile (· == "")
  let place ← named.tail.reverse.foldlM t.step (t.origin path)
  if !t.isDirectoryAt place then throw .notDirectory
  return (place, named.headD "", named.length < steps.length)

/-- A name that stands for a place of its own. -/
def isPlainName (name : String) : Bool :=
  !(name == "" || name == "." || name == "..")

def read (t : FileTree) (path : String) : Except FileFault ByteArray := do
  match t.at? (← t.resolve path) with
  | some (.file bytes) => return bytes
  | _ => throw .isDirectory

/-- The tree with new bytes in a file, which need not exist before. -/
def write (t : FileTree) (path : String) (bytes : ByteArray) : Except FileFault FileTree := do
  let (place, name, slash) ← t.resolveLast path
  if slash ∨ !isPlainName name then throw .isDirectory
  if nameLimit < name.utf8ByteSize then throw .nameTooLong
  if t.isDirectoryAt (place ++ [name]) then throw .isDirectory
  return t.put (place ++ [name]) (.file bytes)

def makeDirectory (t : FileTree) (path : String) : Except FileFault FileTree := do
  let (place, name, _) ← t.resolveLast path
  if !isPlainName name then throw .alreadyExists
  if nameLimit < name.utf8ByteSize then throw .nameTooLong
  if (t.at? (place ++ [name])).isSome then throw .alreadyExists
  return t.put (place ++ [name]) .directory

def isDirectory (t : FileTree) (path : String) : Bool :=
  match t.resolve path with
  | .ok place => t.isDirectoryAt place
  | .error _ => false

def isThere (t : FileTree) (path : String) : Bool :=
  (t.resolve path).toOption.isSome

/-- The names in a directory, in the order in which they were put there. -/
def names (t : FileTree) (path : String) : List String :=
  match t.resolve path with
  | .ok place =>
    t.entries.filterMap fun (p, _) => if p.dropLast = place then p.getLast? else none
  | .error _ => []

/-- The files below the place that relative paths begin at, with their paths. -/
def files (t : FileTree) : List (String × ByteArray) :=
  t.entries.filterMap fun (p, entry) =>
    match t.here.isPrefixOf? p, entry with
    | some rest, .file bytes => some ("/".intercalate rest, bytes)
    | _, _ => none

end FileTree

end StaticPage
