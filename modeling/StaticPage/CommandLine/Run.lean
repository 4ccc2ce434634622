import StaticPage.CommandLine.Arguments
import StaticPage.Document.Printer
import StaticPage.Http.Fetcher
import StaticPage.Site

/-!
# Running commands

A command ends with an exit code and what it prints. A failure is told with its causes, and with a
hint for the reader.
-/

namespace StaticPage

/-- How a command ended: its exit code, what it prints, and what it complains of. -/
structure Outcome where
  code : Nat
  printed : String
  complaint : String
  deriving DecidableEq, Repr, Inhabited

/-- What a command works with. -/
structure Surroundings (m : Type → Type) where
  files : FileAccess m
  network : Network m
  today : m Date

/-- A failure, and what was being done when it happened if that has to be told. -/
structure Trouble where
  occasion : Option String
  failure : Failure
  deriving DecidableEq, Repr, Inhabited

/-- A failure that tells for itself when it happened. -/
def Trouble.plain (failure : Failure) : Trouble := ⟨none, failure⟩

def Trouble.complaint (t : Trouble) : String :=
  "Error: " ++
    ": ".intercalate (t.occasion.toList ++ t.failure.message :: t.failure.causes) ++
    "\n  Fix: " ++ t.failure.hint ++ "\n"

namespace Outcome

def success (printed : String) : Outcome := ⟨0, printed, ""⟩

def failed (t : Trouble) : Outcome := ⟨1, "", t.complaint⟩

def misused (fault : UsageFault) : Outcome := ⟨2, "", "error: " ++ fault.message ++ "\n"⟩

end Outcome

namespace Command

def versionText : String := "sitegen 0.1.0\n"

/-- The file that settings are read from unless another is given. -/
def settingsFile : String := "sitegen.yaml"

variable {m : Type → Type} [Monad m]

/-- Runs an action whose failure tells for itself when it happened. -/
def plainly {α : Type} (act : ExceptT Failure m α) : ExceptT Trouble m α :=
  act.adapt .plain

def loadSettings (fs : FileAccess m) (path : String) : ExceptT Failure m Settings := do
  let text ← Site.onFiles (fs.readText path)
  match Settings.ofYaml text with
  | .ok settings => return settings
  | .error failure => throw failure

/-- The settings of a rendering, before its other options. -/
def baseSettings (fs : FileAccess m) (options : RenderOptions) : ExceptT Trouble m Settings := do
  match options.lookup .settings with
  | some path => (loadSettings fs path).adapt fun f => ⟨some ("loading options from " ++ path), f⟩
  | none =>
    if ← fs.isThere settingsFile then plainly (loadSettings fs settingsFile)
    else return Settings.default

/-- Settings with the values of options in place of their own. -/
def override (options : RenderOptions) (s : Settings) : Settings where
  input := (options.lookup .input).getD s.input
  output := (options.lookup .output).getD s.output
  dataDirectory := (options.lookup .dataDirectory).getD s.dataDirectory
  layout := (options.lookup .layout).getD s.layout
  posts := s.posts

def renderSite [MonadWarn m] [MonadStateOf Validators m] (s : Surroundings m)
    (settings : Settings) : ExceptT Failure m Report := do
  Site.onFiles (s.files.makeDirectories settings.dataDirectory)
  let http : HttpFetcher m := ⟨s.network, s.files, ⟨settings.dataDirectory⟩⟩
  match ← http.start with
  | .error cause => throw (.fetcherSetup cause)
  | .ok () => Site.render settings s.files http.fetcher (← s.today)

def reportText (r : Report) : String :=
  "✓ Rendered " ++ r.output ++ " (" ++ toString r.bytes ++ " bytes, " ++ toString r.bindings ++
    " bindings)\n"

/-- What is printed of a document that is one. -/
def summary (file : String) (doc : Document) : String :=
  let lazies := doc.bindings.countP (·.isLazy)
  let manuals := doc.bindings.countP (·.isManual)
  let total := doc.bindings.length
  "✓ Document '" ++ file ++ "' is valid\n  Bindings: " ++ toString total ++ " (" ++
    toString (total - lazies - manuals) ++ " eager, " ++ toString lazies ++ " lazy, " ++
    toString manuals ++ " manual)\n  Nodes: " ++ toString (Node.countAll doc.nodes) ++ "\n"

def output [MonadWarn m] [MonadStateOf Validators m] (s : Surroundings m) :
    Command → ExceptT Trouble m String
  | render options => do
    let settings ← baseSettings s.files options
    return reportText (← plainly (renderSite s (override options settings)))
  | validate file => return summary file (← plainly (Site.loadDocument s.files file))
  | format file => return (← plainly (Site.loadDocument s.files file)).print
  | version => return versionText
  | help topic => return topic.text

def run [MonadWarn m] [MonadStateOf Validators m] (s : Surroundings m) (c : Command) :
    m Outcome := do
  match ← (c.output s).run with
  | .ok printed => return .success printed
  | .error trouble => return .failed trouble

def runArguments [MonadWarn m] [MonadStateOf Validators m] (s : Surroundings m)
    (arguments : List String) : m Outcome :=
  match parse arguments with
  | .ok c => c.run s
  | .error fault => return .misused fault

end Command

end StaticPage
