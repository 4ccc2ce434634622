import StaticPage.Failure
import StaticPage.Yaml.PlainValue

/-!
# Settings

The settings of a site say where its parts are. They are read from a YAML mapping in which every key
may be missing; an unknown key is refused, so that a misspelt one does not go unnoticed. The part on
posts is more lenient, but has to name a pattern.
-/

namespace StaticPage

/-- Where posts come from, and the name of the binding that holds them. -/
structure PostsSettings where
  name : String
  pattern : String
  deriving DecidableEq, Repr, Inhabited

/-- Where the parts of a site are. -/
structure Settings where
  input : String
  output : String
  dataDirectory : String
  layout : String
  posts : Option PostsSettings
  deriving DecidableEq, Repr, Inhabited

namespace Settings

/-- What holds where nothing is said. -/
def default : Settings where
  input := "index.hi"
  output := "public/index.html"
  dataDirectory := "data"
  layout := "templates/layout.html"
  posts := none

/-- The name of the posts' binding where none is given. -/
def defaultPostsName : String := "posts"

end Settings

namespace Yaml

namespace Document

/-- Reading in a document: the state is the events that are left. -/
abbrev ReadM := StateT (List Event) (Except Fault)

def cutShort (d : Document) : Fault := d.fault.getD .severalDocuments

def peek (d : Document) : ReadM Event := do
  match ← get with
  | e :: _ => return e
  | [] => throw d.cutShort

def next (d : Document) : ReadM Event := do
  let e ← d.peek
  modify (·.drop 1)
  return e

def misfit {α : Type} (path : List String) (mark : Mark) (cause : Mismatch) : ReadM α :=
  throw (.mismatch path mark cause)

/-- Reads a node. For an alias the node that it stands for is read in its place. -/
def onNode {α : Type} (d : Document) (read : ReadM α) : ReadM α := do
  match (← d.peek).kind with
  | .reference anchor =>
    let rest := (← get).drop 1
    set (d.events.drop ((d.anchors.lookup anchor).getD 0))
    let a ← read
    set rest
    return a
  | _ => read

/-- Why a node is no `expected`. -/
def mismatch (e : Event) (expected : String) : Mismatch :=
  match e.kind with
  | .scalar s => s.mismatch expected
  | .sequenceStart => .wrongKind "sequence" expected
  | _ => .wrongKind "map" expected

/-- Reads a scalar, whatever it may stand for, and gives its place as well. -/
def text (d : Document) (expected : String) (path : List String) : ReadM (String × Mark) :=
  d.onNode do
    let e ← d.next
    match e.kind with
    | .scalar s => return (s.text, e.mark)
    | _ => misfit path e.mark (mismatch e expected)

/-- A key: its name, its place, and the step it adds to a path. -/
structure Key where
  name : String
  mark : Mark
  step : String

def key (d : Document) (path : List String) : ReadM Key := do
  let e ← d.peek
  let (name, mark) ← d.text "field identifier" path
  match e.kind with
  | .scalar _ => return ⟨name, mark, name⟩
  | _ => return ⟨name, mark, "?"⟩

/-- The events after a node of any kind and all that is in it; `depth` collections are open before
it. -/
def afterNode? (depth : Nat) : List Event → Option (List Event)
  | [] => none
  | e :: events =>
    match e.kind with
    | .sequenceStart | .mappingStart => afterNode? (depth + 1) events
    | .sequenceEnd | .mappingEnd =>
      if depth ≤ 1 then some events else afterNode? (depth - 1) events
    | .reference _ | .scalar _ => if depth = 0 then some events else afterNode? depth events

def passNode (d : Document) : ReadM Unit := do
  match afterNode? 0 (← get) with
  | some events => set events
  | none => throw d.cutShort

/-- Enters a mapping and tells where it begins. A node that is written by nothing is an empty one,
which is not entered. -/
def enterMapping (d : Document) (expected : String) (path : List String) : ReadM (Mark × Bool) := do
  let e ← d.next
  match e.kind with
  | .mappingStart => return (e.mark, true)
  | .scalar s =>
    if s.isEmpty then return (e.mark, false) else misfit path e.mark (mismatch e expected)
  | _ => misfit path e.mark (mismatch e expected)

/-- Whether the mapping ends here; then its end is passed. -/
def leaveMapping (d : Document) : ReadM Bool := do
  if (← d.peek).kind = .mappingEnd then
    let _ ← d.next
    return true
  else return false

/-! ### Posts -/

/-- Settings of posts of which a part has been read. -/
structure PartialPosts where
  name : Option String
  pattern : Option String

/-- The settings of posts, once their mapping has been read. -/
def PartialPosts.finish (path : List String) (mark : Mark) (p : PartialPosts) :
    ReadM PostsSettings :=
  match p.pattern with
  | none => misfit path mark (.missingField "pattern")
  | some pattern => return ⟨p.name.getD Settings.defaultPostsName, pattern⟩

/-- Reads the pairs of the posts' mapping, passing those that are not known. -/
def postsFields (d : Document) (path : List String) (mark : Mark) :
    (fuel : Nat) → PartialPosts → ReadM PostsSettings
  | 0, p => p.finish path mark
  | fuel + 1, p => do
    if ← d.leaveMapping then p.finish path mark
    else
      let key ← d.key path
      let value (known : Option String) : ReadM String := do
        if known.isSome then misfit path mark (.repeatedField key.name)
        else return (← d.text "a string" (path ++ [key.step])).1
      if key.name = "name" then
        postsFields d path mark fuel { p with name := some (← value p.name) }
      else if key.name = "pattern" then
        postsFields d path mark fuel { p with pattern := some (← value p.pattern) }
      else
        d.passNode
        postsFields d path mark fuel p

/-- Whether a scalar says that there is no value. Only a plain one can; a tag may demand it, and a
scalar that does not comply is blamed on the mapping it is in. -/
def saysNone (outer : Mark) (s : Scalar) : ReadM Bool :=
  if !s.plain then return false
  else
    match s.tag with
    | none => return s.text.isEmpty || PlainValue.isNull s.text
    | some tag =>
      if tag ≠ Scalar.usualTag "null" then return false
      else if PlainValue.isNull s.text then return true
      else misfit [] outer (.wrongValue ("string " ++ Text.quote s.text) "null")

/-- Reads the settings of posts, which may be absent; `outer` is where the mapping they belong to
begins. -/
def posts (d : Document) (outer : Mark) (path : List String) : ReadM (Option PostsSettings) :=
  d.onNode do
    let isNone ← match (← d.peek).kind with
      | .scalar s => saysNone outer s
      | _ => pure false
    if isNone then
      let _ ← d.next
      return none
    else
      let (mark, inside) ← d.enterMapping "struct PostsConfig" path
      let left ← get
      let nothing : PartialPosts := ⟨none, none⟩
      if inside then return some (← d.postsFields path mark (left.length + 1) nothing)
      else return some (← nothing.finish path mark)

/-! ### The whole -/

structure PartialSettings where
  input : Option String
  output : Option String
  dataDirectory : Option String
  layout : Option String
  posts : Option (Option PostsSettings)

def settingsKeys : List String :=
  ["input", "out", "data_dir", "layout", "posts"]

/-- The settings, with what holds where nothing was said. -/
def PartialSettings.finish (p : PartialSettings) : Settings where
  input := p.input.getD Settings.default.input
  output := p.output.getD Settings.default.output
  dataDirectory := p.dataDirectory.getD Settings.default.dataDirectory
  layout := p.layout.getD Settings.default.layout
  posts := p.posts.getD Settings.default.posts

def settingsFields (d : Document) (mark : Mark) :
    (fuel : Nat) → PartialSettings → ReadM Settings
  | 0, p => return p.finish
  | fuel + 1, p => do
    if ← d.leaveMapping then return p.finish
    else
      let key ← d.key []
      let value (known : Option String) : ReadM (Option String) := do
        if known.isSome then misfit [] mark (.repeatedField key.name)
        else return some (← d.text "path string" [key.step]).1
      let p ←
        if key.name = "input" then pure { p with input := ← value p.input }
        else if key.name = "out" then pure { p with output := ← value p.output }
        else if key.name = "data_dir" then
          pure { p with dataDirectory := ← value p.dataDirectory }
        else if key.name = "layout" then pure { p with layout := ← value p.layout }
        else if key.name = "posts" then
          if p.posts.isSome then misfit [] mark (.repeatedField key.name)
          else pure { p with posts := some (← d.posts mark [key.step]) }
        else misfit [] key.mark (.unknownField key.name settingsKeys)
      settingsFields d mark fuel p

/-- Reads the settings that a document holds; an empty text holds an empty mapping. -/
def settings (d : Document) : ReadM Settings := do
  if d.events.isEmpty && d.fault.isNone then return Settings.default
  else
    let (mark, inside) ← d.enterMapping "struct RenderOptions" []
    let nothing : PartialSettings := ⟨none, none, none, none, none⟩
    if inside then d.settingsFields mark (d.events.length + 1) nothing else return nothing.finish

end Document

end Yaml

/-- Reads settings from YAML. A fault of the text that comes after what was read is one all the same,
and so is a second document. -/
def Settings.ofYaml (text : String) : Except Failure Settings :=
  let d := Yaml.Document.ofText text.toList
  let read : Except Yaml.Fault Settings := do
    let settings ← d.settings.run' d.events
    match d.fault with
    | some fault => throw fault
    | none => if d.followed then throw .severalDocuments else return settings
  read.mapError .settings

end StaticPage
