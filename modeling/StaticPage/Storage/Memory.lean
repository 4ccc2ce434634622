import StaticPage.Dictionary
import StaticPage.Evaluation.Capability

/-!
# The memory store

A store that keeps its bytes in memory: every target is a name of its own, and nothing fails.
-/

namespace StaticPage

structure MemoryStore where
  entries : List (String × ByteArray)
  deriving Inhabited

namespace MemoryStore

def empty : MemoryStore := ⟨[]⟩

def load (s : MemoryStore) (target : String) : Option ByteArray :=
  s.entries.lookup target

def save (s : MemoryStore) (target : String) (bytes : ByteArray) : MemoryStore :=
  ⟨Dictionary.set target bytes s.entries⟩

@[simp] theorem load_empty (target : String) : empty.load target = none := rfl

@[simp] theorem load_save_self (s : MemoryStore) (target : String) (bytes : ByteArray) :
    (s.save target bytes).load target = some bytes := by
  simp [load, save]

theorem load_save_of_ne (s : MemoryStore) {target other : String} (h : other ≠ target)
    (bytes : ByteArray) : (s.save target bytes).load other = s.load other := by
  simp [load, save, Dictionary.lookup_set_of_ne h]

/-- The capability to use the memory store that a monad carries. -/
def store {m : Type → Type} [Monad m] [MonadStateOf MemoryStore m] : Store m where
  load target := return .ok ((← getThe MemoryStore).load target)
  save target bytes := do
    modifyThe MemoryStore (·.save target bytes)
    pure (.ok ())

end MemoryStore

end StaticPage
