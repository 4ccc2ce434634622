import StaticPage.Evaluation.Capability
import StaticPage.Files.Access

/-!
# The data directory

A store that keeps its bytes in files: a target is the path of its file below the directory, or a path
of its own if it begins with a slash.
-/

namespace StaticPage

structure DataDirectory where
  root : String
  deriving DecidableEq, Repr, Inhabited

namespace DataDirectory

variable {m : Type → Type} [Monad m]

def pathOf (d : DataDirectory) (target : String) : String :=
  Path.join d.root target

/-- The bytes under a target, if its file exists. -/
def load (d : DataDirectory) (fs : FileAccess m) (target : String) :
    m (Except FileFault (Option ByteArray)) := do
  match ← fs.read (d.pathOf target) with
  | .ok bytes => return .ok (some bytes)
  | .error .notFound => return .ok none
  | .error fault => return .error fault

def save (d : DataDirectory) (fs : FileAccess m) (target : String) (bytes : ByteArray) :
    m (Except FileFault Unit) :=
  fs.writeDeep (d.pathOf target) bytes

def store (d : DataDirectory) (fs : FileAccess m) : Store m where
  load := d.load fs
  save := d.save fs

end DataDirectory

end StaticPage
