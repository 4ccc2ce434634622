import StaticPage.Proofs.Evaluation.Sessions
import StaticPage.Proofs.Files.Trails
import StaticPage.Storage.Directory
import StaticPage.Storage.Memory

/-!
# Stores that keep what is saved

Every target of a store leads to a place, and what is saved under the target is kept there. Two targets
that lead to one place share what is kept; a place that nothing is saved at keeps what it has. This is all
that `KeepsAt` says of a store. It holds of the memory store, where every target is a place of its own, and
of a data directory in any file tree, where targets lead to the places of their files.
-/

namespace StaticPage

open FileTree

variable {σ κ : Type}

theorem Context.outcome_lift_eq_ok {α : Type} {x : StateM σ α} {s s' : σ} {a : α} :
    outcome (liftM x : ExceptT Failure (StateM σ) α) s = (.ok a, s') ↔ after x s = (a, s') := by
  rw [outcome_lift]
  change (Except.ok (after x s).1, (after x s).2) = _ ↔ _
  rcases after x s with ⟨r, s₁⟩
  simp

namespace Store

/-- Some bytes are kept under a target. -/
def Holds (store : Store (StateM σ)) (s : σ) (target : String) (bytes : ByteArray) : Prop :=
  after (store.load target) s = (.ok (some bytes), s)

theorem Holds.unique {store : Store (StateM σ)} {s : σ} {target : String} {bytes other : ByteArray}
    (h : store.Holds s target bytes) (h' : store.Holds s target other) : bytes = other := by
  rw [Holds, h] at h'
  cases h'
  rfl

/-- Targets lead to places, and what is saved under a target is kept at its place. -/
structure KeepsAt (store : Store (StateM σ)) (place : σ → String → κ) : Prop where
  /-- Saving does not change where targets lead. -/
  stays {s s' : σ} {target : String} {bytes : ByteArray} {r : Except FileFault Unit}
    (h : after (store.save target bytes) s = (r, s')) : place s' = place s
  holds {s s' : σ} {target : String} {bytes : ByteArray}
    (h : after (store.save target bytes) s = (.ok (), s')) : store.Holds s' target bytes
  replaces {s s' : σ} {target other : String} {bytes old : ByteArray}
    (h : after (store.save target bytes) s = (.ok (), s')) (hold : store.Holds s other old)
    (hplace : place s other = place s target) : store.Holds s' other bytes
  keeps {s s' : σ} {target other : String} {bytes old : ByteArray}
    (h : after (store.save target bytes) s = (.ok (), s')) (hold : store.Holds s other old)
    (hplace : place s other ≠ place s target) : store.Holds s' other old

end Store

/-! ### In memory -/

namespace Desk

variable {target : String} {bytes : ByteArray} {s : Desk}

theorem holds_iff : (MemoryStore.store (m := StateM Desk)).Holds s target bytes ↔
    s.store.load target = some bytes := by
  change ((Except.ok (s.store.load target), s) : Except FileFault (Option ByteArray) × Desk) = _ ↔ _
  simp

/-- In memory every target is a place of its own. -/
theorem keepsAt : (MemoryStore.store (m := StateM Desk)).KeepsAt fun _ target => target where
  stays _ := rfl
  holds h := by
    cases h
    rw [holds_iff]
    exact MemoryStore.load_save_self _ _ _
  replaces h _ hplace := by
    cases h
    cases hplace
    rw [holds_iff]
    exact MemoryStore.load_save_self _ _ _
  keeps h hold hplace := by
    cases h
    rw [holds_iff] at hold ⊢
    exact (MemoryStore.load_save_of_ne _ hplace _).trans hold

end Desk

/-! ### In a data directory -/

namespace DataDirectory

variable [HasTree σ] {d : DataDirectory} {target : String} {bytes : ByteArray} {s s' : σ}

theorem load_of_read (h : (tree s).read (d.pathOf target) = .ok bytes) :
    after (d.load (FileTree.access (m := StateM σ)) target) s = (.ok (some bytes), s) := by
  rw [load, after_bind, after_read, h]
  rfl

theorem read_of_load {r : Except FileFault (Option ByteArray)}
    (h : after (d.load (FileTree.access (m := StateM σ)) target) s = (r, s')) :
    s' = s ∧ ∀ bytes, r = .ok (some bytes) → (tree s).read (d.pathOf target) = .ok bytes := by
  rw [load, after_bind, after_read] at h
  dsimp only at h
  split at h
  · rename_i bytes' hread
    cases h
    refine ⟨rfl, fun bytes hr => ?_⟩
    cases hr
    exact hread
  · cases h
    exact ⟨rfl, fun bytes hr => by cases hr⟩
  · cases h
    exact ⟨rfl, fun bytes hr => by cases hr⟩

theorem holds_iff : (d.store (FileTree.access (m := StateM σ))).Holds s target bytes ↔
    (tree s).read (d.pathOf target) = .ok bytes :=
  ⟨fun h => (read_of_load h).2 bytes rfl, load_of_read⟩

/-- A data directory keeps bytes at the places that its paths lead to. -/
theorem keepsAt (d : DataDirectory) : (d.store (FileTree.access (m := StateM σ))).KeepsAt
    fun s target => placeOf (tree s).here (d.pathOf target) where
  stays h := by
    obtain ⟨t, rfl, hevolves, -⟩ := evolves_writeDeep h
    rw [HasTree.tree_withTree, hevolves.here]
  holds h := by
    obtain ⟨t, rfl, -, hplaced⟩ := evolves_writeDeep h
    rw [holds_iff, HasTree.tree_withTree]
    exact (hplaced rfl).read
  replaces {s s' target other bytes old} h hold hplace := by
    obtain ⟨t, rfl, hevolves, hplaced⟩ := evolves_writeDeep h
    rw [holds_iff, read_eq_ok_iff] at hold
    rw [holds_iff, HasTree.tree_withTree, read_eq_ok_iff, hevolves.here]
    refine ⟨hevolves.resolve_eq_ok hold.1, ?_⟩
    rw [hplace, ← hevolves.here]
    exact (hplaced rfl).file
  keeps h hold hplace := by
    obtain ⟨t, rfl, hevolves, -⟩ := evolves_writeDeep h
    rw [holds_iff] at hold ⊢
    rw [HasTree.tree_withTree]
    exact hevolves.read_eq_ok hold (by simpa using hplace)

def file? (d : DataDirectory) (t : FileTree) (target : String) : Option ByteArray :=
  match t.at? (placeOf t.here (d.pathOf target)) with
  | some (.file bytes) => some bytes
  | _ => none

theorem file?_eq_some {t : FileTree} : d.file? t target = some bytes ↔
    t.at? (placeOf t.here (d.pathOf target)) = some (.file bytes) := by
  unfold file?
  split
  · rename_i hat
    simp [hat]
  · rename_i hat
    simpa using hat bytes

theorem file?_of_holds (h : (d.store (FileTree.access (m := StateM σ))).Holds s target bytes) :
    d.file? (tree s) target = some bytes :=
  file?_eq_some.2 (read_eq_ok_iff.1 (holds_iff.1 h)).2

/-- A target that is a plain name leads below the directory. -/
theorem placeOf_pathOf (d : DataDirectory) (here : List String) (h : Path.IsSegment target) :
    placeOf here (d.pathOf target) = placeOf here d.root ++ [target] := by
  rw [pathOf, placeOf_join here _ h.slash, stepPlace_of_isPlainName h.plain]

/-- Bytes that were saved are in the file of their target. Plain names have files of their own. -/
theorem file?_save (h : after ((d.store (FileTree.access (m := StateM σ))).save target bytes) s = (.ok (), s'))
    (htarget : Path.IsSegment target) : ∃ t, s' = withTree s t ∧ d.file? t target = some bytes ∧
      ∀ other, Path.IsSegment other → other ≠ target → d.file? t other = d.file? (tree s) other := by
  obtain ⟨t, rfl, hevolves, hplaced⟩ := evolves_writeDeep h
  refine ⟨t, rfl, file?_eq_some.2 (hplaced rfl).file, fun other hother hne => ?_⟩
  have hplace : placeOf (tree s).here (d.pathOf other)
      ∉ [placeOf (tree s).here (d.pathOf target)] := by
    rw [placeOf_pathOf d _ hother, placeOf_pathOf d _ htarget]
    simpa using hne
  apply Option.ext
  intro old
  rw [file?_eq_some, file?_eq_some, hevolves.here]
  exact ⟨hevolves.only hplace, hevolves.keeps hplace⟩

end DataDirectory

end StaticPage
