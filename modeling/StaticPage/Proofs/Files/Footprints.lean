import Mathlib.Order.Defs.Unbundled
import StaticPage.Proofs.Files.Findings
import StaticPage.Storage.Directory

/-!
# Footprints

What an operation may do to a world is said by a relation between the world before and the world after.
`Stays` says of a computation that it stays within a relation. If the relation is reflexive and transitive,
a computation stays within it where its operations do, and so it is enough to say of each operation on
files what it does: the rest of this module does not know what files are.
-/

namespace StaticPage

variable {σ α β γ : Type} {R R' : σ → σ → Prop}

/-- The world after a computation is related to the world before it. -/
def Stays (R : σ → σ → Prop) (x : StateM σ α) : Prop :=
  ∀ s, R s (after x s).2

theorem Stays.mono {x : StateM σ α} (hx : Stays R x) (h : ∀ s s', R s s' → R' s s') : Stays R' x :=
  fun s => h s _ (hx s)

/-- Files are looked up and read within a relation. -/
structure FileAccess.Reads (R : σ → σ → Prop) (fs : FileAccess (StateM σ)) : Prop where
  read (path : String) : Stays R (fs.read path)
  isDirectory (path : String) : Stays R (fs.isDirectory path)
  isThere (path : String) : Stays R (fs.isThere path)
  names (path : String) : Stays R (fs.names path)

theorem FileAccess.Reads.mono {fs : FileAccess (StateM σ)} (hfs : fs.Reads R)
    (h : ∀ s s', R s s' → R' s s') : fs.Reads R' :=
  ⟨fun path => (hfs.read path).mono h, fun path => (hfs.isDirectory path).mono h,
    fun path => (hfs.isThere path).mono h, fun path => (hfs.names path).mono h⟩

variable [IsPreorder σ R]

theorem stays_pure (a : α) : Stays R (pure a : StateM σ α) :=
  fun s => refl s

theorem Stays.bind {x : StateM σ α} {f : α → StateM σ β} (hx : Stays R x) (hf : ∀ a, Stays R (f a)) :
    Stays R (x >>= f) := by
  intro s
  rw [after_bind]
  exact IsTrans.trans s _ _ (hx s) (hf _ _)

theorem Stays.mapM {f : α → StateM σ β} (hf : ∀ a, Stays R (f a)) (as : List α) :
    Stays R (as.mapM f) := by
  induction as with
  | nil => exact stays_pure []
  | cons a as ih =>
      rw [List.mapM_cons]
      apply (hf a).bind
      intro b
      exact ih.bind fun bs => stays_pure (b :: bs)

/-! ### Operations on files -/

variable {fs : FileAccess (StateM σ)}

theorem stays_readText (hfs : fs.Reads R) (path : String) : Stays R (fs.readText path) := by
  apply (hfs.read path).bind
  intro r
  cases r with
  | error fault => exact stays_pure _
  | ok bytes =>
      dsimp only
      split
      · exact stays_pure _
      · exact stays_pure _

section Making

variable (hfs : fs.Reads R) (hmake : ∀ path, Stays R (fs.makeDirectory path))

include hfs hmake

omit hmake in
theorem stays_unlessDirectory (path : String) (fault : FileFault) : Stays R (do
    if ← fs.isDirectory path then return (.ok () : Except FileFault Unit) else return .error fault) := by
  apply (hfs.isDirectory path).bind
  intro there
  split
  · exact stays_pure _
  · exact stays_pure _

theorem stays_attempt (path : String) : Stays R (FileAccess.makeDirectoriesFrom.attempt fs path) := by
  unfold FileAccess.makeDirectoriesFrom.attempt
  split
  · exact stays_pure _
  · apply (hmake path).bind
    intro r
    cases r with
    | ok made => exact stays_pure _
    | error fault => exact stays_unlessDirectory hfs path fault

theorem stays_makeDirectoriesFrom (path : String) (above : List String) :
    Stays R (fs.makeDirectoriesFrom path above) := by
  induction above generalizing path with
  | nil => exact stays_attempt hfs hmake path
  | cons parent above ih =>
      rw [FileAccess.makeDirectoriesFrom]
      split
      · exact stays_pure _
      · apply (hmake path).bind
        intro r
        rcases r with fault | made
        · cases fault with
          | notFound =>
              apply (ih parent).bind
              intro r
              cases r with
              | error fault => exact stays_pure _
              | ok made => exact stays_attempt hfs hmake path
          | _ => exact stays_unlessDirectory hfs path _
        · exact stays_pure _

theorem stays_makeDirectories (path : String) : Stays R (fs.makeDirectories path) :=
  stays_makeDirectoriesFrom hfs hmake path _

theorem stays_writeDeep {path : String} {bytes : ByteArray} (hwrite : Stays R (fs.write path bytes)) :
    Stays R (fs.writeDeep path bytes) := by
  rw [FileAccess.writeDeep]
  split
  · exact hwrite
  · rename_i parent hparent
    apply (stays_makeDirectories hfs hmake parent).bind
    intro r
    cases r with
    | error fault => exact stays_pure _
    | ok made => exact hwrite

end Making

theorem DataDirectory.stays_load (hfs : fs.Reads R) (d : DataDirectory) (target : String) :
    Stays R (d.load fs target) := by
  apply (hfs.read (d.pathOf target)).bind
  intro r
  rcases r with fault | bytes
  · cases fault with
    | notFound => exact stays_pure _
    | _ => exact stays_pure _
  · exact stays_pure _

/-! ### Searching for a pattern -/

open Glob

theorem stays_placeOf (hfs : fs.Reads R) (path : String) : Stays R (placeOf fs path) :=
  (hfs.isDirectory path).bind fun _ => stays_pure _

theorem stays_searches (hfs : fs.Reads R) (only : Bool) (fuel : Nat) :
    (∀ parts, ∀ place, Stays R (find fs only parts place fuel)) ∧
      ∀ parts, ∀ name place, Stays R (visit fs only parts name place fuel) := by
  refine FileTree.search_induction (P := fun fuel parts => ∀ place, Stays R (find fs only parts place fuel))
    (Q := fun fuel parts => ∀ name place, Stays R (visit fs only parts name place fuel))
    ?zero ?nil ?named ?wild ?matched ?below fuel
  case zero =>
    intro parts
    exact ⟨fun place => by rw [find]; exact stays_pure _, fun name place => by rw [visit]; exact stays_pure _⟩
  case nil =>
    intro fuel
    exact ⟨fun place => by rw [find]; exact stays_pure _, fun name place => by rw [visit]; exact stays_pure _⟩
  case named =>
    intro fuel text rest hfind place
    rw [find]
    have hfound (found : Bool) : Stays R (do
        if found then find fs only rest (← placeOf fs (inside place.path text)) fuel else return []) := by
      split
      · exact (stays_placeOf hfs _).bind fun next => hfind next
      · exact stays_pure _
    by_cases hdots : text = "." ∨ text = ".."
    · simp only [if_pos hdots]
      exact hfound place.isDirectory
    · simp only [if_neg hdots]
      exact (hfs.isThere _).bind hfound
  case wild =>
    intro fuel p rest hp hfind hvisit place
    rw [find]
    · split
      · exact stays_pure _
      · apply (Stays.mapM (fun name => (stays_placeOf hfs _).bind fun next => hfind next) _).bind
        intro dots
        apply ((hfs.names place.path).bind fun names => stays_pure _).bind
        intro names
        apply (Stays.mapM (fun name => (stays_placeOf hfs _).bind fun next => hvisit name next) _).bind
        intro found
        exact stays_pure _
    · exact hp
  case matched =>
    intro fuel p rest hp hfind name place
    rw [visit]
    · split
      · exact hfind place
      · exact stays_pure _
    · exact hp
  case below =>
    intro fuel rest hfind name place
    rw [visit]
    have hbelow (rest : List Part) (direct : List String) : Stays R (do
        let below ← if place.isDirectory then find fs only (.directories :: rest) place fuel else pure []
        return direct ++ below) := by
      split
      · exact (hfind _ place).bind fun below => stays_pure _
      · exact stays_pure _
    dsimp only
    split
    · exact hbelow _ _
    · rename_i p others hrest
      split
      · exact (hfind others place).bind fun direct => hbelow _ direct
      · exact hbelow _ _

theorem stays_paths (hfs : fs.Reads R) (p : Pattern) : Stays R (p.paths fs) :=
  (stays_placeOf hfs _).bind fun place => (stays_searches hfs _ _).1 _ place

end StaticPage
