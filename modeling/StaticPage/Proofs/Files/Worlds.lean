import StaticPage.Files.Access
import StaticPage.Proofs.Files.Soundness

/-!
# Worlds with a file tree

A world carries a file tree, beside whatever else is in it. Operations on files in such a world change
its tree only, and the tree only grows but for the one file that is written: `after_writeDeep` says so of
the operation that makes the directories a file is in and then writes the file, whatever comes of it.
-/

namespace StaticPage

/-- A type of worlds that carry a file tree. -/
class HasTree (σ : Type) where
  tree : σ → FileTree
  withTree : σ → FileTree → σ
  tree_withTree (s : σ) (t : FileTree) : tree (withTree s t) = t
  withTree_tree (s : σ) : withTree s (tree s) = s
  withTree_withTree (s : σ) (t t' : FileTree) : withTree (withTree s t) t' = withTree s t'

export HasTree (tree withTree)

attribute [simp] HasTree.tree_withTree HasTree.withTree_tree HasTree.withTree_withTree

/-- A tree is a world of its own. -/
instance : HasTree FileTree where
  tree := id
  withTree _ t := t
  tree_withTree _ _ := rfl
  withTree_tree _ := rfl
  withTree_withTree _ _ _ := rfl

theorem HasTree.withTree_injective {σ : Type} [HasTree σ] (s : σ) : Function.Injective (withTree s) := by
  intro t t' h
  have htree := congrArg tree h
  rwa [HasTree.tree_withTree, HasTree.tree_withTree] at htree

namespace FileTree

/-- What stands anywhere in one tree stands there in another one, which has no other files. -/
structure Grows (t t' : FileTree) : Prop where
  here : t'.here = t.here
  keeps {place : List String} {entry : FileEntry} (h : t.at? place = some entry) :
    t'.at? place = some entry
  only {place : List String} {bytes : ByteArray} (h : t'.at? place = some (.file bytes)) :
    t.at? place = some (.file bytes)
  sound (h : t.Sound) : t'.Sound

theorem Grows.refl (t : FileTree) : Grows t t :=
  ⟨rfl, id, id, id⟩

theorem Grows.trans {t t' t'' : FileTree} (h : Grows t t') (h' : Grows t' t'') : Grows t t'' where
  here := h'.here.trans h.here
  keeps hat := h'.keeps (h.keeps hat)
  only hat := h.only (h'.only hat)
  sound ht := h'.sound (h.sound ht)

theorem grows_makeDirectory {t t' : FileTree} {path : String} (h : t.makeDirectory path = .ok t') :
    Grows t t' := by
  have hsound (ht : t.Sound) : t'.Sound := sound_makeDirectory ht h
  obtain ⟨rfl, hfree⟩ := makeDirectory_eq_ok h
  have hroot : placeOf t.here path ≠ [] := by
    intro hnil
    rw [hnil] at hfree
    cases hfree
  refine ⟨rfl, fun {place entry} hat => ?_, fun {place bytes} hat => ?_, hsound⟩
  · rw [at?_put_of_ne]
    · exact hat
    · rintro rfl
      rw [hfree] at hat
      cases hat
  · by_cases hplace : place = placeOf t.here path
    · rw [hplace, at?_put_self t hroot] at hat
      cases hat
    · rwa [at?_put_of_ne t hplace] at hat

/-- From one tree to another, what stands anywhere but at some places stays, and so does every
directory. There are no new files but at those places. -/
structure KeepsBut (changed : List (List String)) (t t' : FileTree) : Prop where
  here : t'.here = t.here
  keeps {place : List String} {entry : FileEntry} (hplace : place ∉ changed)
    (h : t.at? place = some entry) : t'.at? place = some entry
  only {place : List String} {bytes : ByteArray} (hplace : place ∉ changed)
    (h : t'.at? place = some (.file bytes)) : t.at? place = some (.file bytes)
  directories {place : List String} (h : t.isDirectoryAt place = true) : t'.isDirectoryAt place = true

theorem Grows.keepsBut {t t' : FileTree} (h : Grows t t') (changed : List (List String)) :
    KeepsBut changed t t' where
  here := h.here
  keeps _ hat := h.keeps hat
  only _ hat := h.only hat
  directories hdir := isDirectoryAt_iff.2 (h.keeps (isDirectoryAt_iff.1 hdir))

theorem keepsBut_put {t : FileTree} {place : List String} (hdir : t.isDirectoryAt place = false)
    (entry : FileEntry) : KeepsBut [place] t (t.put place entry) where
  here := rfl
  keeps hplace hat := by rwa [at?_put_of_ne t (by simpa using hplace)]
  only hplace hat := by rwa [at?_put_of_ne t (by simpa using hplace)] at hat
  directories {q} h := by
    by_cases hq : q = place
    · rw [hq, hdir] at h
      cases h
    · rwa [isDirectoryAt_put_of_ne t hq]

theorem KeepsBut.mono {changed changed' : List (List String)} {t t' : FileTree}
    (h : KeepsBut changed t t') (hsub : changed ⊆ changed') : KeepsBut changed' t t' where
  here := h.here
  keeps hplace hat := h.keeps (fun hmem => hplace (hsub hmem)) hat
  only hplace hat := h.only (fun hmem => hplace (hsub hmem)) hat
  directories := h.directories

theorem KeepsBut.trans {changed changed' : List (List String)} {t t' t'' : FileTree}
    (h : KeepsBut changed t t') (h' : KeepsBut changed' t' t'') :
    KeepsBut (changed ++ changed') t t'' where
  here := h'.here.trans h.here
  keeps hplace hat := by
    rw [List.mem_append, not_or] at hplace
    exact h'.keeps hplace.2 (h.keeps hplace.1 hat)
  only hplace hat := by
    rw [List.mem_append, not_or] at hplace
    exact h.only hplace.1 (h'.only hplace.2 hat)
  directories hdir := h'.directories (h.directories hdir)

end FileTree

variable {σ α β : Type}

/-- Runs an operation in a world: its result, and the world as it leaves it. -/
def after (x : StateM σ α) (s : σ) : α × σ :=
  (x.run s).run

@[simp] theorem after_pure (a : α) (s : σ) : after (pure a) s = (a, s) := rfl

@[simp] theorem after_bind (x : StateM σ α) (f : α → StateM σ β) (s : σ) :
    after (x >>= f) s = after (f (after x s).1) (after x s).2 := rfl

theorem after_mapM {f : α → StateM σ β} {g : α → β} {s : σ} {as : List α}
    (h : ∀ a ∈ as, after (f a) s = (g a, s)) : after (as.mapM f) s = (as.map g, s) := by
  induction as with
  | nil => rfl
  | cons a as ih =>
      rw [List.forall_mem_cons] at h
      rw [List.mapM_cons, after_bind, h.1, after_bind, ih h.2]
      rfl

variable [HasTree σ]

instance : MonadStateOf FileTree (StateM σ) where
  get := modifyGet fun s => (tree s, s)
  set t := modify fun s => withTree s t
  modifyGet f := modifyGet fun s => ((f (tree s)).1, withTree s (f (tree s)).2)

namespace FileTree

variable (path : String) (bytes : ByteArray) (s : σ)

@[simp] theorem after_read :
    after ((access (m := StateM σ)).read path) s = ((tree s).read path, s) := rfl

@[simp] theorem after_isDirectory :
    after ((access (m := StateM σ)).isDirectory path) s = ((tree s).isDirectory path, s) := rfl

theorem after_write : after ((access (m := StateM σ)).write path bytes) s =
    match (tree s).write path bytes with
    | .ok t => (.ok (), withTree s t)
    | .error fault => (.error fault, s) := by
  have hget : after (getThe FileTree) s = (tree s, s) := rfl
  simp only [access, after_bind, hget]
  cases (tree s).write path bytes <;> rfl

theorem after_makeDirectory : after ((access (m := StateM σ)).makeDirectory path) s =
    match (tree s).makeDirectory path with
    | .ok t => (.ok (), withTree s t)
    | .error fault => (.error fault, s) := by
  have hget : after (getThe FileTree) s = (tree s, s) := rfl
  simp only [access, after_bind, hget]
  cases (tree s).makeDirectory path <;> rfl

/-! ### Making directories -/

theorem after_unlessDirectory (fault : FileFault) :
    after (do if ← (access (m := StateM σ)).isDirectory path then return .ok ()
              else return .error fault) s
      = ((if (tree s).isDirectory path then .ok () else .error fault : Except FileFault Unit), s) := by
  rw [after_bind, after_isDirectory]
  cases (tree s).isDirectory path <;> rfl

theorem after_unlessDirectory_of_isDirectory {path : String} {s : σ}
    (h : (tree s).isDirectory path = true) (fault : FileFault) :
    after (do if ← (access (m := StateM σ)).isDirectory path then return .ok ()
              else return .error fault) s = ((.ok (), s) : Except FileFault Unit × σ) := by
  rw [after_unlessDirectory, h]
  rfl

theorem after_attempt : ∃ r t, Grows (tree s) t ∧
    after (FileAccess.makeDirectoriesFrom.attempt (access (m := StateM σ)) path) s
      = (r, withTree s t) := by
  rw [FileAccess.makeDirectoriesFrom.attempt]
  split
  · exact ⟨.ok (), tree s, .refl _, by simp⟩
  · rw [after_bind, after_makeDirectory]
    cases h : (tree s).makeDirectory path with
    | ok t => exact ⟨.ok (), t, grows_makeDirectory h, rfl⟩
    | error fault =>
        refine ⟨if (tree s).isDirectory path then .ok () else .error fault, tree s, .refl _, ?_⟩
        rw [HasTree.withTree_tree]
        exact after_unlessDirectory path s fault

/-- Making directories lets a tree grow, whatever comes of it. -/
theorem after_makeDirectoriesFrom (above : List String) : ∃ r t, Grows (tree s) t ∧
    after ((access (m := StateM σ)).makeDirectoriesFrom path above) s = (r, withTree s t) := by
  induction above generalizing path s with
  | nil => exact after_attempt path s
  | cons parent above ih =>
      rw [FileAccess.makeDirectoriesFrom]
      split
      · exact ⟨.ok (), tree s, .refl _, by simp⟩
      · rw [after_bind, after_makeDirectory]
        cases h : (tree s).makeDirectory path with
        | ok t => exact ⟨.ok (), t, grows_makeDirectory h, rfl⟩
        | error fault =>
            have hcheck (fault : FileFault) : ∃ r t, Grows (tree s) t ∧
                after (do if ← (access (m := StateM σ)).isDirectory path then return .ok ()
                          else return .error fault) s
                  = ((r : Except FileFault Unit), withTree s t) :=
              ⟨_, tree s, .refl _, by rw [after_unlessDirectory, HasTree.withTree_tree]⟩
            cases fault with
            | notFound =>
                obtain ⟨r, t, hgrows, hmade⟩ := ih parent s
                simp only [after_bind, hmade]
                cases r with
                | error fault => exact ⟨.error fault, t, hgrows, rfl⟩
                | ok _ =>
                    obtain ⟨r, t', hgrows', hattempt⟩ := after_attempt path (withTree s t)
                    rw [HasTree.tree_withTree] at hgrows'
                    refine ⟨r, t', hgrows.trans hgrows', ?_⟩
                    simpa using hattempt
            | _ => exact hcheck _

/-- Nothing is made where a path leads to a directory. -/
theorem after_makeDirectories {place : List String} (h : (tree s).resolve path = .ok place)
    (hdir : (tree s).isDirectoryAt place = true) :
    after ((access (m := StateM σ)).makeDirectories path) s = (.ok (), s) := by
  have hthere : (tree s).isDirectory path = true := isDirectory_iff.2 ⟨place, h, hdir⟩
  have hattempt : after (FileAccess.makeDirectoriesFrom.attempt (access (m := StateM σ)) path) s
      = (.ok (), s) := by
    rw [FileAccess.makeDirectoriesFrom.attempt]
    split
    · rfl
    · rw [after_bind, after_makeDirectory, makeDirectory_of_resolve h]
      exact after_unlessDirectory_of_isDirectory hthere _
  rw [FileAccess.makeDirectories]
  cases Path.ancestors path with
  | nil => exact hattempt
  | cons parent above =>
      rw [FileAccess.makeDirectoriesFrom]
      split
      · rfl
      · rw [after_bind, after_makeDirectory, makeDirectory_of_resolve h]
        exact after_unlessDirectory_of_isDirectory hthere _

theorem after_makeDirectories_empty :
    after ((access (m := StateM σ)).makeDirectories "") s = (.ok (), s) :=
  rfl

/-! ### Writing -/

theorem after_writeDeep : ∃ t, Grows (tree s) t ∧
    ((∃ fault, after ((access (m := StateM σ)).writeDeep path bytes) s = (.error fault, withTree s t)) ∨
      ∃ t', t.write path bytes = .ok t' ∧
        after ((access (m := StateM σ)).writeDeep path bytes) s = (.ok (), withTree s t')) := by
  have hwrite {grown : FileTree} (hgrows : Grows (tree s) grown) : ∃ t, Grows (tree s) t ∧
      ((∃ fault, after ((access (m := StateM σ)).write path bytes) (withTree s grown)
          = (.error fault, withTree s t)) ∨
        ∃ t', t.write path bytes = .ok t' ∧
          after ((access (m := StateM σ)).write path bytes) (withTree s grown)
            = (.ok (), withTree s t')) := by
    refine ⟨grown, hgrows, ?_⟩
    rw [after_write, HasTree.tree_withTree]
    cases h : grown.write path bytes with
    | error fault => exact .inl ⟨fault, rfl⟩
    | ok t' => exact .inr ⟨t', rfl, by simp⟩
  rw [FileAccess.writeDeep]
  split
  · simpa using hwrite (.refl _)
  · rename_i parent _
    obtain ⟨r, t, hgrows, hmade⟩ := after_makeDirectoriesFrom parent s (Path.ancestors parent)
    rw [after_bind, FileAccess.makeDirectories, hmade]
    cases r with
    | error fault => exact ⟨t, hgrows, .inl ⟨fault, rfl⟩⟩
    | ok _ =>
        exact hwrite hgrows

/-- Writing a file, with the directories it is in, changes no other place that anything stands at. -/
theorem writeDeep_cases {r : Except FileFault Unit} {s' : σ}
    (h : after ((access (m := StateM σ)).writeDeep path bytes) s = (r, s')) :
    ∃ t, s' = withTree s t ∧ KeepsBut [placeOf (tree s).here path] (tree s) t ∧
      (r = .ok () → t.at? (placeOf (tree s).here path) = some (.file bytes)) := by
  obtain ⟨t, hgrows, ⟨fault, hfault⟩ | ⟨t', hwrite, hok⟩⟩ := after_writeDeep path bytes s
  · rw [h] at hfault
    cases hfault
    exact ⟨t, rfl, hgrows.keepsBut _, fun hr => by cases hr⟩
  · rw [h] at hok
    cases hok
    obtain ⟨rfl, hdir, hroot⟩ := write_eq_ok hwrite
    rw [hgrows.here] at hdir hroot ⊢
    refine ⟨_, rfl, ?_, fun _ => at?_put_self t hroot _⟩
    exact (hgrows.keepsBut []).trans (keepsBut_put hdir _)

end FileTree

end StaticPage
