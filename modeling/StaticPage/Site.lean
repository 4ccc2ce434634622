import StaticPage.Document.Parser
import StaticPage.Evaluation.Context
import StaticPage.Html.Blocks
import StaticPage.Html.Layout
import StaticPage.Markdown
import StaticPage.Posts.Directory
import StaticPage.Settings
import StaticPage.Storage.Directory

/-!
# Rendering a site

A site is rendered from its document, what its bindings bring, its posts and its layout. What lazy
bindings and the fetcher have learnt is kept only once the page is written.
-/

namespace StaticPage

/-- What was rendered: where the page is, how many bindings it had, and its length in bytes. -/
structure Report where
  output : String
  bindings : Nat
  bytes : Nat
  deriving DecidableEq, Repr, Inhabited

namespace Site

variable {m : Type → Type} [Monad m]

/-- An operation on files, whose fault is a failure. -/
def onFiles {α : Type} (act : m (Except FileFault α)) : ExceptT Failure m α := do
  match ← act with
  | .ok a => return a
  | .error fault => throw (.file fault)

def loadDocument (fs : FileAccess m) (path : String) : ExceptT Failure m Document := do
  let source ← onFiles (fs.readText path)
  match Document.parse source with
  | .ok doc => return doc
  | .error fault => throw (.syntaxFault fault)

variable [MonadWarn m]

/-- A context with the posts of a site, if it has any. -/
def addPosts (settings : Settings) (fs : FileAccess m) (ctx : Context) :
    ExceptT Failure m Context := do
  match settings.posts with
  | none => return ctx
  | some p =>
    let posts ← Post.loadMatching fs p.pattern
    ctx.insert p.name (.array (posts.map Post.toJson))

/-- The page of a site, and the context after evaluation. -/
def page (settings : Settings) (fs : FileAccess m) (fetcher : Fetcher m) (store : Store m)
    (today : Date) (doc : Document) : ExceptT Failure m (String × Context) := do
  let ctx ← addPosts settings fs (← Context.ofDocument store fetcher doc)
  let (blocks, ctx) ← (Context.evaluate fetcher Markdown.toHtml doc.nodes).run ctx
  let layout ← onFiles (fs.readText settings.layout)
  let page ← Html.applyLayout layout (Html.render blocks) today settings.layout
  return (page, ctx)

def render (settings : Settings) (fs : FileAccess m) (fetcher : Fetcher m) (today : Date) :
    ExceptT Failure m Report := do
  let doc ← loadDocument fs settings.input
  onFiles (fs.makeDirectories settings.dataDirectory)
  let store := (DataDirectory.mk settings.dataDirectory).store fs
  let (page, ctx) ← page settings fs fetcher store today doc
  onFiles (fs.writeDeep settings.output page.toUTF8)
  ctx.persist store
  onFiles fetcher.persist
  return {
    output := settings.output
    bindings := doc.bindings.length + if settings.posts.isSome then 1 else 0
    bytes := page.utf8ByteSize }

end Site

end StaticPage
