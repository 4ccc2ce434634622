import StaticPage.Proofs.Files.Spellings
import StaticPage.Proofs.Files.Worlds

/-!
# Files that are written again

A tree evolves while directories are made and files are written: paths lead where they led, and what stands
at a place is still of its kind. A file that was written is `Placed`. It is read by its path as long as its
place is left alone, and it can be written again by its path whatever has happened elsewhere, without a
directory to be made.
-/

namespace StaticPage.FileTree

/-- From one tree to another, what stands anywhere stays, but files at some places may have changed. -/
structure Evolves (changed : List (List String)) (t t' : FileTree) : Prop extends
    KeepsBut changed t t' where
  files {place : List String} {bytes : ByteArray} (h : t.at? place = some (.file bytes)) :
    ∃ bytes, t'.at? place = some (.file bytes)
  sound (h : t.Sound) : t'.Sound

variable {t t' t'' : FileTree} {changed changed' : List (List String)} {place q : List String}
  {path name : String} {bytes : ByteArray}

theorem Grows.evolves (h : Grows t t') (changed : List (List String)) : Evolves changed t t' where
  toKeepsBut := h.keepsBut changed
  files hat := ⟨_, h.keeps hat⟩
  sound := h.sound

theorem Evolves.refl (changed : List (List String)) (t : FileTree) : Evolves changed t t :=
  (Grows.refl t).evolves changed

theorem Evolves.trans (h : Evolves changed t t') (h' : Evolves changed t' t'') : Evolves changed t t'' where
  here := h'.here.trans h.here
  keeps hplace hat := h'.keeps hplace (h.keeps hplace hat)
  only hplace hat := h.only hplace (h'.only hplace hat)
  directories hdir := h'.directories (h.directories hdir)
  files hat := by
    obtain ⟨bytes, hat⟩ := h.files hat
    exact h'.files hat
  sound ht := h'.sound (h.sound ht)

theorem Evolves.mono (h : Evolves changed t t') (hsub : changed ⊆ changed') : Evolves changed' t t' where
  here := h.here
  keeps hplace hat := h.keeps (fun hmem => hplace (hsub hmem)) hat
  only hplace hat := h.only (fun hmem => hplace (hsub hmem)) hat
  directories := h.directories
  files := h.files
  sound := h.sound

theorem evolves_write (h : t.write path bytes = .ok t') : Evolves [placeOf t.here path] t t' := by
  have hsound (ht : t.Sound) : t'.Sound := sound_write ht h
  obtain ⟨rfl, hdir, hroot⟩ := write_eq_ok h
  refine ⟨keepsBut_put hdir _, fun {place bytes'} hat => ?_, hsound⟩
  by_cases hplace : place = placeOf t.here path
  · exact ⟨bytes, hplace ▸ at?_put_self t hroot _⟩
  · exact ⟨bytes', (at?_put_of_ne t hplace _).trans hat⟩

/-! ### Paths in a later tree -/

namespace Evolves

variable (h : Evolves changed t t')

include h

theorem isSome (hat : (t.at? place).isSome = true) : (t'.at? place).isSome = true := by
  obtain ⟨entry, hentry⟩ := Option.isSome_iff_exists.1 hat
  cases entry with
  | directory => exact isSome_of_isDirectoryAt (h.directories (isDirectoryAt_iff.2 hentry))
  | file bytes =>
      obtain ⟨bytes', hfile⟩ := h.files hentry
      rw [hfile]
      rfl

theorem isDirectoryAt_eq (hat : (t.at? place).isSome = true) :
    t'.isDirectoryAt place = t.isDirectoryAt place := by
  obtain ⟨entry, hentry⟩ := Option.isSome_iff_exists.1 hat
  cases entry with
  | directory =>
      have hdir := isDirectoryAt_iff.2 hentry
      rw [hdir, h.directories hdir]
  | file bytes =>
      obtain ⟨bytes', hfile⟩ := h.files hentry
      rw [isDirectoryAt, isDirectoryAt, hentry, hfile]

theorem step_eq_ok (hstep : t.step place name = .ok q) : t'.step place name = .ok q :=
  step_elsewhere hstep (h.directories (FileTree.step_eq_ok hstep).1) fun hname =>
    h.isSome (isSome_of_step hname hstep).2

theorem foldlM_eq_ok {names : List String} (hfold : names.foldlM t.step place = .ok q) :
    names.foldlM t'.step place = .ok q := by
  induction names generalizing place with
  | nil => exact hfold
  | cons name rest ih =>
      rw [List.foldlM_cons] at hfold ⊢
      obtain ⟨next, hstep, hfold⟩ := except_bind_eq_ok.1 hfold
      exact except_bind_eq_ok.2 ⟨next, h.step_eq_ok hstep, ih hfold⟩

theorem origin_eq (path : String) : t'.origin path = t.origin path := by
  rw [origin, origin, h.here]

theorem resolve_eq_ok (hresolve : t.resolve path = .ok place) : t'.resolve path = .ok place := by
  obtain ⟨⟨⟩, hcheck, hfold⟩ := except_bind_eq_ok.1 hresolve
  refine except_bind_eq_ok.2 ⟨(), hcheck, ?_⟩
  rw [h.origin_eq]
  exact h.foldlM_eq_ok hfold

theorem isDirectory (hdir : t.isDirectory path = true) : t'.isDirectory path = true := by
  rw [isDirectory_iff] at hdir ⊢
  obtain ⟨place, hresolve, hdir⟩ := hdir
  exact ⟨place, h.resolve_eq_ok hresolve, h.directories hdir⟩

end Evolves

theorem read_eq_ok_iff : t.read path = .ok bytes ↔
    t.resolve path = .ok (placeOf t.here path) ∧ t.at? (placeOf t.here path) = some (.file bytes) := by
  constructor
  · intro h
    obtain ⟨place, hresolve, h⟩ := except_bind_eq_ok.1 h
    obtain rfl := resolve_eq_ok hresolve
    split at h
    · rename_i hat
      cases h
      exact ⟨hresolve, hat⟩
    · cases h
  · rintro ⟨hresolve, hat⟩
    refine except_bind_eq_ok.2 ⟨_, hresolve, ?_⟩
    rw [hat]
    rfl

theorem Evolves.read_eq_ok (h : Evolves changed t t') (hread : t.read path = .ok bytes)
    (hplace : placeOf t.here path ∉ changed) : t'.read path = .ok bytes := by
  obtain ⟨hresolve, hat⟩ := read_eq_ok_iff.1 hread
  rw [read_eq_ok_iff, h.here]
  exact ⟨h.resolve_eq_ok hresolve, h.keeps hplace hat⟩

/-! ### Files that are there -/

/-- A file with some bytes stands where a path leads to. Its directory is there, and the path ends in its
name. -/
structure Placed (t : FileTree) (path : String) (bytes : ByteArray) : Prop where
  file : t.at? (placeOf t.here path) = some (.file bytes)
  last : ∃ above name, t.resolveLast path = .ok (above, name, false) ∧ isPlainName name = true ∧
    name.utf8ByteSize ≤ nameLimit
  parent {parent : String} (h : Path.parent? path = some parent) :
    parent = "" ∨ t.isDirectory parent = true

theorem Evolves.resolveLast_eq_ok (h : Evolves changed t t') {slash : Bool}
    (hlast : t.resolveLast path = .ok (place, name, slash)) :
    t'.resolveLast path = .ok (place, name, slash) := by
  obtain ⟨hcheck, hfold, hdir, hname, hslash⟩ := resolveLast_eq_ok_iff.1 hlast
  rw [resolveLast_eq_ok_iff, h.origin_eq]
  exact ⟨hcheck, h.foldlM_eq_ok hfold, h.directories hdir, hname, hslash⟩

theorem foldlM_replicate (hdir : t.isDirectoryAt place = true) (n : Nat) :
    (List.replicate n "").foldlM t.step place = .ok place := by
  have hstep : t.step place "" = .ok place := by
    rw [step, if_neg (by simp [hdir]), if_pos (.inl rfl)]
  induction n with
  | zero => rfl
  | succ n ih =>
      rw [List.replicate_succ, List.foldlM_cons]
      exact except_bind_eq_ok.2 ⟨place, hstep, ih⟩

/-- A path whose last name is there leads to it. Behind a slash it has to be a directory. -/
theorem resolve_of_resolveLast {slash : Bool} (hlast : t.resolveLast path = .ok (place, name, slash))
    (hname : isPlainName name = true) (hshort : name.utf8ByteSize ≤ nameLimit)
    (hthere : (t.at? (place ++ [name])).isSome = true)
    (hdirectory : slash = true → t.isDirectoryAt (place ++ [name]) = true) :
    t.resolve path = .ok (place ++ [name]) := by
  obtain ⟨hcheck, hfold, hdir, hhead, hslash⟩ := resolveLast_eq_ok_iff.1 hlast
  obtain ⟨n, hsteps⟩ := exists_stepsOf path
  have hempty : (List.replicate n "").foldlM t.step (place ++ [name]) = .ok (place ++ [name]) := by
    cases slash with
    | true => exact foldlM_replicate (hdirectory rfl) n
    | false =>
        obtain rfl : n = 0 := by
          have hlength := congrArg List.length hsteps
          simp only [decide_eq_false_iff_not, List.length_reverse] at hslash
          simp only [List.length_append, List.length_reverse, List.length_replicate] at hlength
          omega
        rfl
  cases hnamed : namedSteps path with
  | nil =>
      rw [hnamed] at hhead
      subst hhead
      cases hname
  | cons last rest =>
      rw [hnamed] at hfold hhead hsteps
      subst hhead
      have hstep : t.step place last = .ok (place ++ [last]) :=
        (step_of_isPlainName hname hdir hshort).trans (if_pos hthere)
      refine except_bind_eq_ok.2 ⟨(), hcheck, ?_⟩
      rw [hsteps, List.foldlM_append, List.reverse_cons, List.foldlM_append]
      refine except_bind_eq_ok.2 ⟨_, except_bind_eq_ok.2 ⟨place, hfold, ?_⟩, hempty⟩
      exact except_bind_eq_ok.2 ⟨_, hstep, rfl⟩

theorem isDirectory_of_makeDirectory (h : t.makeDirectory path = .ok t') : t'.isDirectory path = true := by
  have hevolves := (grows_makeDirectory h).evolves []
  obtain ⟨above, name, slash, hlast, hname, hshort⟩ := resolveLast_of_makeDirectory h
  have hplace := resolveLast_eq_ok hlast hname
  have hdir : t'.isDirectoryAt (above ++ [name]) = true := by
    obtain ⟨rfl, -⟩ := makeDirectory_eq_ok h
    rw [← hplace, isDirectoryAt_iff]
    exact at?_put_self t (by simp) _
  have hresolve := resolve_of_resolveLast (hevolves.resolveLast_eq_ok hlast) hname hshort
    (isSome_of_isDirectoryAt hdir) fun _ => hdir
  exact isDirectory_iff.2 ⟨_, hresolve, hdir⟩

namespace Placed

variable (h : t.Placed path bytes)

include h

theorem read : t.read path = .ok bytes := by
  obtain ⟨above, name, hlast, hname, hshort⟩ := h.last
  have hplace := FileTree.resolveLast_eq_ok hlast hname
  refine read_eq_ok_iff.2 ⟨?_, h.file⟩
  rw [← hplace]
  refine resolve_of_resolveLast hlast hname hshort ?_ (by simp)
  rw [hplace, h.file]
  rfl

theorem exists_later (hevolves : Evolves changed t t') : ∃ bytes, t'.Placed path bytes := by
  obtain ⟨above, name, hlast, hname⟩ := h.last
  obtain ⟨bytes, hfile⟩ := hevolves.files h.file
  refine ⟨bytes, ?_, ⟨above, name, hevolves.resolveLast_eq_ok hlast, hname⟩, fun hparent => ?_⟩
  · rw [hevolves.here]
    exact hfile
  · exact (h.parent hparent).imp_right hevolves.isDirectory

theorem later (hevolves : Evolves changed t t') (hplace : placeOf t.here path ∉ changed) :
    t'.Placed path bytes := by
  obtain ⟨bytes', hplaced⟩ := h.exists_later hevolves
  have hfile := hplaced.file
  rw [hevolves.here, hevolves.keeps hplace h.file] at hfile
  cases hfile
  exact hplaced

theorem write (new : ByteArray) :
    t.write path new = .ok (t.put (placeOf t.here path) (.file new)) := by
  obtain ⟨above, name, hlast, hname, hshort⟩ := h.last
  have hplace := FileTree.resolveLast_eq_ok hlast hname
  have hdir : t.isDirectoryAt (above ++ [name]) = false := by
    rw [isDirectoryAt, hplace, h.file]
  rw [← hplace, FileTree.write, hlast]
  simp [bind, Except.bind, hname, Nat.not_lt.2 hshort, hdir]
  rfl

end Placed

theorem placed_of_write (h : t.write path bytes = .ok t')
    (hparent : ∀ {parent : String}, Path.parent? path = some parent →
      parent = "" ∨ t.isDirectory parent = true) : t'.Placed path bytes := by
  have hevolves := evolves_write h
  obtain ⟨above, name, hlast, hname, hshort⟩ := resolveLast_of_write h
  obtain ⟨rfl, -, hroot⟩ := write_eq_ok h
  exact ⟨at?_put_self t hroot _, ⟨above, name, hevolves.resolveLast_eq_ok hlast, hname, hshort⟩,
    fun hp => (hparent hp).imp_right hevolves.isDirectory⟩

/-! ### In a world -/

variable {σ : Type} [HasTree σ] {s s' : σ} {r : Except FileFault Unit}

theorem grows_makeDirectories (h : after ((access (m := StateM σ)).makeDirectories path) s = (r, s')) :
    ∃ t, s' = withTree s t ∧ Grows (tree s) t := by
  obtain ⟨r, t, hgrows, hmade⟩ := after_makeDirectoriesFrom path s (Path.ancestors path)
  rw [FileAccess.makeDirectories, hmade] at h
  cases h
  exact ⟨t, rfl, hgrows⟩

theorem isDirectory_of_unlessDirectory {fault : FileFault}
    (h : after (do if ← (access (m := StateM σ)).isDirectory path then return .ok ()
                   else return .error fault) s = ((.ok (), s') : Except FileFault Unit × σ)) :
    (tree s').isDirectory path = true := by
  rw [after_unlessDirectory] at h
  split at h
  · rename_i hdir
    cases h
    exact hdir
  · cases h

theorem isDirectory_of_attempt
    (h : after (FileAccess.makeDirectoriesFrom.attempt (access (m := StateM σ)) path) s = (.ok (), s')) :
    path = "" ∨ (tree s').isDirectory path = true := by
  rw [FileAccess.makeDirectoriesFrom.attempt] at h
  split at h
  · rename_i hempty
    exact .inl hempty
  · rw [after_bind, after_makeDirectory] at h
    cases hmake : (tree s).makeDirectory path with
    | ok t =>
        rw [hmake] at h
        cases h
        rw [HasTree.tree_withTree]
        exact .inr (isDirectory_of_makeDirectory hmake)
    | error fault =>
        rw [hmake] at h
        exact .inr (isDirectory_of_unlessDirectory h)

theorem isDirectory_of_makeDirectories
    (h : after ((access (m := StateM σ)).makeDirectories path) s = (.ok (), s')) :
    path = "" ∨ (tree s').isDirectory path = true := by
  rw [FileAccess.makeDirectories] at h
  cases habove : Path.ancestors path with
  | nil =>
      rw [habove] at h
      exact isDirectory_of_attempt h
  | cons parent above =>
      rw [habove, FileAccess.makeDirectoriesFrom] at h
      split at h
      · rename_i hempty
        exact .inl hempty
      · rw [after_bind, after_makeDirectory] at h
        cases hmake : (tree s).makeDirectory path with
        | ok t =>
            rw [hmake] at h
            cases h
            rw [HasTree.tree_withTree]
            exact .inr (isDirectory_of_makeDirectory hmake)
        | error fault =>
            rw [hmake] at h
            cases fault with
            | notFound =>
                dsimp only at h
                rw [after_bind] at h
                split at h
                · cases h
                · exact isDirectory_of_attempt h
            | _ => exact .inr (isDirectory_of_unlessDirectory h)

theorem makeDirectories_again (h : path = "" ∨ (tree s).isDirectory path = true) :
    after ((access (m := StateM σ)).makeDirectories path) s = (.ok (), s) := by
  rcases h with rfl | hdir
  · exact after_makeDirectories_empty s
  · obtain ⟨place, hresolve, hdir⟩ := isDirectory_iff.1 hdir
    exact after_makeDirectories path s hresolve hdir

/-- Writing a file, with the directories it is in, changes a tree at its place only, and puts it there. -/
theorem evolves_writeDeep (h : after ((access (m := StateM σ)).writeDeep path bytes) s = (r, s')) :
    ∃ t, s' = withTree s t ∧ Evolves [placeOf (tree s).here path] (tree s) t ∧
      (r = .ok () → t.Placed path bytes) := by
  have hwrite {grown : FileTree} (hgrows : Grows (tree s) grown)
      (hparent : ∀ {parent : String}, Path.parent? path = some parent →
        parent = "" ∨ grown.isDirectory parent = true)
      (h : after ((access (m := StateM σ)).write path bytes) (withTree s grown) = (r, s')) :
      ∃ t, s' = withTree s t ∧ Evolves [placeOf (tree s).here path] (tree s) t ∧
        (r = .ok () → t.Placed path bytes) := by
    have hgrown := hgrows.evolves [placeOf (tree s).here path]
    rw [after_write, HasTree.tree_withTree] at h
    cases hwritten : grown.write path bytes with
    | error fault =>
        rw [hwritten] at h
        cases h
        exact ⟨grown, rfl, hgrown, fun hr => by cases hr⟩
    | ok t =>
        rw [hwritten] at h
        cases h
        have hevolves := evolves_write hwritten
        rw [hgrows.here] at hevolves
        exact ⟨t, by simp, hgrown.trans hevolves, fun _ => placed_of_write hwritten hparent⟩
  rw [FileAccess.writeDeep] at h
  split at h
  · rename_i hnone
    refine hwrite (.refl _) (fun hp => ?_) (by simpa using h)
    rw [hnone] at hp
    cases hp
  · rename_i parent hsome
    rcases hmade : after ((access (m := StateM σ)).makeDirectories parent) s with ⟨r₁, s₁⟩
    obtain ⟨grown, rfl, hgrows⟩ := grows_makeDirectories hmade
    rw [after_bind, hmade] at h
    cases r₁ with
    | error fault =>
        cases h
        exact ⟨grown, rfl, hgrows.evolves _, fun hr => by cases hr⟩
    | ok made =>
        refine hwrite hgrows (fun hp => ?_) h
        rw [hsome] at hp
        cases hp
        simpa using isDirectory_of_makeDirectories hmade

theorem Placed.after_writeDeep (h : (tree s).Placed path bytes) (new : ByteArray) :
    after ((access (m := StateM σ)).writeDeep path new) s
      = (.ok (), withTree s ((tree s).put (placeOf (tree s).here path) (.file new))) := by
  have hwrite : after ((access (m := StateM σ)).write path new) s
      = (.ok (), withTree s ((tree s).put (placeOf (tree s).here path) (.file new))) := by
    rw [after_write, h.write new]
  rw [FileAccess.writeDeep]
  split
  · exact hwrite
  · rename_i parent hparent
    rw [after_bind, makeDirectories_again (h.parent hparent)]
    exact hwrite

theorem Placed.writeDeep (h : (tree s).Placed path bytes) (new : ByteArray) :
    ∃ t, after ((access (m := StateM σ)).writeDeep path new) s = (.ok (), withTree s t) ∧
      Evolves [placeOf (tree s).here path] (tree s) t ∧ t.Placed path new := by
  have hwritten := h.after_writeDeep new
  obtain ⟨t, heq, hevolves, hplaced⟩ := evolves_writeDeep hwritten
  refine ⟨t, ?_, hevolves, hplaced rfl⟩
  rw [hwritten, heq]

end StaticPage.FileTree
