import StaticPage.Evaluation.Capability
import StaticPage.Failure
import StaticPage.Files.Glob
import StaticPage.Posts.Basic

/-!
# Posts on disk

The posts of a site are the Markdown files that match a pattern, in the order of their paths. A file
whose name begins with no date is read like the others, and left out with a warning.
-/

namespace StaticPage.Post

variable {m : Type → Type} [Monad m] [MonadWarn m]

/-- The post in the file at a path, if it is one. -/
def load? (fs : FileAccess m) (path : String) : ExceptT Failure m (Option Post) := do
  let some name := Path.fileName? path | return none
  if Path.extension? path ≠ some "md" then return none
  match ← fs.readText path with
  | .error fault => throw (.file fault)
  | .ok content =>
    let post := ofMarkdown? name content
    if post.isNone then warn (.postWithoutDate path)
    return post

def loadAll (fs : FileAccess m) : List String → ExceptT Failure m (List Post)
  | [] => return []
  | path :: rest => do
    let post ← load? fs path
    return post.toList ++ (← loadAll fs rest)

def loadMatching (fs : FileAccess m) (pattern : String) : ExceptT Failure m (List Post) := do
  match Glob.Pattern.parse pattern with
  | .error fault => throw (.posts pattern fault.message)
  | .ok p => loadAll fs (← (p.paths fs : m (List String)))

end StaticPage.Post
