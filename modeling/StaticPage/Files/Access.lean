import StaticPage.Files.Path
import StaticPage.Files.Tree

/-!
# Access to files

Work on files goes through one capability, whatever stands behind it. A file tree in the state of a
monad is one; it has no other users, no links and no rights.
-/

namespace StaticPage

structure FileAccess (m : Type → Type) where
  read : (path : String) → m (Except FileFault ByteArray)
  /-- Replaces the content of a file, which need not exist before. -/
  write : (path : String) → ByteArray → m (Except FileFault Unit)
  makeDirectory : (path : String) → m (Except FileFault Unit)
  isDirectory : (path : String) → m Bool
  isThere : (path : String) → m Bool
  /-- The names in a directory, in any order. -/
  names : (path : String) → m (List String)

namespace FileAccess

variable {m : Type → Type} [Monad m]

def readText (fs : FileAccess m) (path : String) : m (Except FileFault String) := do
  match ← fs.read path with
  | .error fault => return .error fault
  | .ok bytes =>
    match String.fromUTF8? bytes with
    | some text => return .ok text
    | none => return .error .notUtf8

/-- Makes a directory and those it is in; `above` are its ancestors, the nearest first. What exists
already is left alone. The empty path needs no directory. -/
def makeDirectoriesFrom (fs : FileAccess m) (path : String) :
    (above : List String) → m (Except FileFault Unit)
  | [] => attempt path
  | parent :: above => do
    if path = "" then return .ok ()
    match ← fs.makeDirectory path with
    | .ok () => return .ok ()
    | .error .notFound =>
      match ← makeDirectoriesFrom fs parent above with
      | .error fault => return .error fault
      | .ok () => attempt path
    | .error fault => if ← fs.isDirectory path then return .ok () else return .error fault
where
  attempt (path : String) : m (Except FileFault Unit) := do
    if path = "" then return .ok ()
    match ← fs.makeDirectory path with
    | .ok () => return .ok ()
    | .error fault => if ← fs.isDirectory path then return .ok () else return .error fault

def makeDirectories (fs : FileAccess m) (path : String) : m (Except FileFault Unit) :=
  fs.makeDirectoriesFrom path (Path.ancestors path)

/-- Replaces the content of a file, after making the directories it is in. -/
def writeDeep (fs : FileAccess m) (path : String) (bytes : ByteArray) :
    m (Except FileFault Unit) := do
  match Path.parent? path with
  | none => fs.write path bytes
  | some parent =>
    match ← fs.makeDirectories parent with
    | .error fault => return .error fault
    | .ok () => fs.write path bytes

end FileAccess

/-- Access to the file tree that a monad carries. -/
def FileTree.access {m : Type → Type} [Monad m] [MonadStateOf FileTree m] : FileAccess m where
  read path := return (← getThe FileTree).read path
  write path bytes := do
    match (← getThe FileTree).write path bytes with
    | .ok t => set t; return .ok ()
    | .error fault => return .error fault
  makeDirectory path := do
    match (← getThe FileTree).makeDirectory path with
    | .ok t => set t; return .ok ()
    | .error fault => return .error fault
  isDirectory path := return (← getThe FileTree).isDirectory path
  isThere path := return (← getThe FileTree).isThere path
  names path := return (← getThe FileTree).names path

end StaticPage
