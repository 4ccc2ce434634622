import StaticPage.Document.Basic
import StaticPage.Evaluation.Block
import StaticPage.Evaluation.Capability
import StaticPage.Evaluation.LazyBinding
import StaticPage.Evaluation.Scope
import StaticPage.Ranking.Sort

/-!
# Evaluation

A context holds the values that names stand for: those of eager and manual bindings, and the lazy
bindings with what they have fetched. The head of a path is looked up in the loop variables first,
then among the values, then among the lazy bindings; the rest of the path leads into the value.
-/

namespace StaticPage

/-- The values that names stand for. -/
structure Context where
  values : List (String × Json.Value)
  lazies : List LazyBinding
  deriving Repr, Inhabited

namespace Context

variable {m : Type → Type} [Monad m] [MonadWarn m]

def empty : Context := ⟨[], []⟩

def value? (ctx : Context) (name : String) : Option Json.Value :=
  ctx.values.lookup name

def lazy? (ctx : Context) (name : String) : Option LazyBinding :=
  ctx.lazies.find? (·.name == name)

def isTaken (ctx : Context) (name : String) : Bool :=
  (ctx.value? name).isSome || (ctx.lazy? name).isSome

/-- A context with one more value, whose name must not be taken. -/
def insert (ctx : Context) (name : String) (value : Json.Value) : Except Failure Context :=
  if ctx.isTaken name then .error (.duplicateBinding name)
  else .ok { ctx with values := ctx.values ++ [(name, value)] }

/-- A context in which a lazy binding has a new state. -/
def update (ctx : Context) (b : LazyBinding) : Context :=
  { ctx with lazies := ctx.lazies.map fun a => if a.name == b.name then b else a }

/-! ### Binding names -/

/-- The value that the bytes of a binding stand for. -/
def decode (b : Binding) (bytes : ByteArray) : Except Failure Json.Value :=
  (Json.parse bytes).mapError (.decode b.name b.target)

/-- The bytes of an eager binding: those at its URL or, if fetching fails, the stored copy. -/
def eagerBytes (store : Store m) (fetcher : Fetcher m) (b : Binding) (url : String) :
    ExceptT Failure m ByteArray := do
  match ← fetcher.fetch b.target url with
  | .ok bytes => pure bytes
  | .error cause =>
    match ← store.load b.target with
    | .error fault => throw (.file fault)
    | .ok none => throw (.fetch b.name b.target cause)
    | .ok (some bytes) =>
      warn (.storedCopyUsed b.name)
      pure bytes

/-- The bytes of a manual binding, which must be in the store. -/
def manualBytes (store : Store m) (b : Binding) : ExceptT Failure m ByteArray := do
  match ← store.load b.target with
  | .error fault => throw (.file fault)
  | .ok none => throw (.missingData b.name b.target)
  | .ok (some bytes) => pure bytes

/-- A context with one more lazy binding and the values kept for it. -/
def addLazy (store : Store m) (ctx : Context) (b : Binding) (template : String) :
    ExceptT Failure m Context := do
  if ctx.isTaken b.name then throw (.duplicateBinding b.name)
  match ← store.load b.target with
  | .error fault => throw (.file fault)
  | .ok bytes =>
    let (lazyBinding, warning) := (LazyBinding.new b.name b.target template).withPersisted bytes
    if let some w := warning then warn w
    pure { ctx with lazies := ctx.lazies ++ [lazyBinding] }

def bind (store : Store m) (fetcher : Fetcher m) (ctx : Context) (b : Binding) :
    ExceptT Failure m Context := do
  match b.origin with
  | .eager url =>
    let value ← decode b (← eagerBytes store fetcher b url)
    ctx.insert b.name value
  | .lazy template => addLazy store ctx b template
  | .manual =>
    let value ← decode b (← manualBytes store b)
    ctx.insert b.name value

/-- The context of a document: its bindings in their order. -/
def ofDocument (store : Store m) (fetcher : Fetcher m) (doc : Document) :
    ExceptT Failure m Context :=
  doc.bindings.foldlM (bind store fetcher) empty

/-! ### Looking paths up -/

/-- The head of a path and the rest after the first point. -/
def splitPath (path : String) : String × Option String :=
  match Text.cut? '.' path.toList with
  | some (head, rest) => (String.ofList head, some (String.ofList rest))
  | none => (path, none)

/-- The value at the rest of a path, absent if it is null. -/
def descend (value : Json.Value) (rest : Option String) : Option Json.Value :=
  match rest with
  | some path => value.get? path
  | none => value.present?

def known? (ctx : Context) (scope : Scope) (name : String) : Option Json.Value :=
  (scope.get? name).or (ctx.value? name)

/-- The text that a placeholder of a template stands for. -/
def placeholderText? (ctx : Context) (scope : Scope) (p : Placeholder) : Option String :=
  (ctx.known? scope p.head).bind fun value => (descend value p.rest).map Json.Value.display

/-- The value that a lazy binding has fetched, or fetches now, for the variables in scope. -/
def lazyValue (fetcher : Fetcher m) (b : LazyBinding) (scope : Scope) :
    StateT Context m (Option Json.Value) := do
  let ctx ← get
  match b.template.expand (ctx.placeholderText? scope) with
  | none => pure none
  | some (url, key) =>
    match b.cache.lookup key with
    | some value => pure (some value)
    | none =>
      if b.attempted.contains key then pure none
      else
        let b := b.attempt key
        match ← fetcher.fetchUncached ⟨b.name, key, url⟩ with
        | .error _ =>
          set (ctx.update b)
          warn (.lazyFetchFailed b.name key)
          pure none
        | .ok bytes =>
          match Json.parse bytes with
          | .error _ =>
            set (ctx.update b)
            warn (.lazyAnswerNotJson b.name key)
            pure none
          | .ok value =>
            set (ctx.update (b.keep key value))
            pure (some value)

/-- The value at a path, absent if it is null or nothing is there. -/
def resolve (fetcher : Fetcher m) (scope : Scope) (path : String) :
    StateT Context m (Option Json.Value) := do
  let ctx ← get
  let (head, rest) := splitPath path
  match ctx.known? scope head with
  | some value => pure (descend value rest)
  | none =>
    match ctx.lazy? head with
    | none => pure none
    | some b => return (← lazyValue fetcher b scope).bind (descend · rest)

/-! ### Evaluating bodies -/

/-- An entry of an object as an item of a loop, which sort keys lead into. -/
def entryItem (entry : String × Json.Value) : Json.Value :=
  .object [("key", .string entry.1), ("value", entry.2)]

/-- The variables of a loop for an item of a list. -/
def itemFrame (vars : List String) (item : Json.Value) : Frame :=
  match vars with
  | [] => []
  | v :: _ => [(v, item)]

/-- The variables of a loop for an entry of an object: key and value if there are two of them, and
the value otherwise. -/
def entryFrame (vars : List String) (entry : String × Json.Value) : Frame :=
  match vars with
  | [k, v] => [(k, .string entry.1), (v, entry.2)]
  | v :: _ => [(v, entry.2)]
  | [] => []

/-- The frames of a loop over a value: one for each item of a list or entry of an object, and none for
anything else. -/
def frames (header : LoopHeader) (source : Option Json.Value) : List Frame :=
  match source with
  | some (.array items) => (Ranking.sortItems header.sort items).map (itemFrame header.vars)
  | some (.object entries) =>
    (Ranking.sortBy entryItem header.sort entries).map (entryFrame header.vars)
  | _ => []

mutual

def evalNode (fetcher : Fetcher m) (transform : String → String) (scope : Scope) :
    Node → StateT Context m Block
  | .prose id text => pure (.prose id (transform text))
  | .field path => return .field path (← resolve fetcher scope path)
  | .loop header body => do
    let source ← resolve fetcher scope header.source
    let iterations ← (frames header source).mapM fun frame =>
      evalNodes fetcher transform (scope.child frame) body
    pure (.loop header.source iterations)

def evalNodes (fetcher : Fetcher m) (transform : String → String) (scope : Scope) :
    List Node → StateT Context m (List Block)
  | [] => pure []
  | n :: rest => do
    let block ← evalNode fetcher transform scope n
    let blocks ← evalNodes fetcher transform scope rest
    pure (block :: blocks)

end

def evaluate (fetcher : Fetcher m) (transform : String → String) (nodes : List Node) :
    StateT Context m (List Block) :=
  evalNodes fetcher transform .root nodes

/-- Keeps the values of every lazy binding under its target. -/
def persist (store : Store m) (ctx : Context) : ExceptT Failure m Unit :=
  ctx.lazies.forM fun b => do
    match ← store.save b.target b.persisted with
    | .ok () => pure ()
    | .error fault => throw (.file fault)

end Context

end StaticPage
