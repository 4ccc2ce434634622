import StaticPage.Dictionary
import StaticPage.Evaluation.Capability
import StaticPage.Json.Printer
import StaticPage.Json.Reader
import StaticPage.Template

/-!
# Lazy bindings

A lazy binding keeps the values it has fetched under the keys of its template, in the order in which
they came. A key is tried once: the keys tried are remembered whether or not their fetch succeeded.
The values are kept between runs as one JSON object.
-/

namespace StaticPage

/-- The state of a lazy binding. -/
structure LazyBinding where
  name : String
  target : String
  template : Template
  /-- The values fetched so far, by key. -/
  cache : List (String × Json.Value)
  /-- The keys tried in this run, the last one first. -/
  attempted : List String
  deriving Repr, Inhabited

namespace LazyBinding

def new (name target template : String) : LazyBinding :=
  { name, target, template := .parse template, cache := [], attempted := [] }

/-- A lazy binding with the values kept in some bytes. Bytes that are not a JSON object count as
none, and are warned of. -/
def withPersisted (b : LazyBinding) (bytes : Option ByteArray) : LazyBinding × Option Warning :=
  match bytes with
  | none => (b, none)
  | some bytes =>
    match Json.parse bytes with
    | .ok (.object entries) => ({ b with cache := entries }, none)
    | .ok _ => (b, some (.lazyCacheNotObject b.name b.target))
    | .error _ => (b, some (.lazyCacheMalformed b.name b.target))

def persisted (b : LazyBinding) : ByteArray :=
  (Json.Value.object b.cache).indented.toUTF8

def attempt (b : LazyBinding) (key : String) : LazyBinding :=
  { b with attempted := key :: b.attempted }

/-- A lazy binding that has fetched the value of a key. -/
def keep (b : LazyBinding) (key : String) (value : Json.Value) : LazyBinding :=
  { b with cache := Dictionary.set key value b.cache }

end LazyBinding

end StaticPage
