import StaticPage.Proofs.Files.Spellings
import StaticPage.Proofs.Files.Worlds
import StaticPage.Storage.Directory

/-!
# Plain names in a data directory

A target that is a plain file name stands for one file of the data directory, whatever the path of the
directory looks like. Loading and saving under such a target are `load_name` and `save_name`: they read
and put what stands at the place of the directory, under the name, and do nothing else.
-/

namespace StaticPage

open FileTree

namespace DataDirectory

/-- A data directory is there, at a place. The empty path is that of the place where paths begin. -/
structure StandsAt (d : DataDirectory) (t : FileTree) (place : List String) : Prop where
  found : if d.root = "" then place = t.here else t.resolve d.root = .ok place
  directory : t.isDirectoryAt place = true

/-- A name that a file of the data directory can have. -/
structure Accepts (d : DataDirectory) (name : String) : Prop extends Path.IsFileName name where
  path : (d.pathOf name).utf8ByteSize < pathLimit

variable {d : DataDirectory} {t t' : FileTree} {place : List String} {name : String}

/-! ### The place of a name -/

/-- The path of a name leads into the directory, and there to the name. -/
theorem exists_front (h : d.StandsAt t place) (hname : d.Accepts name) :
    checkPath (d.pathOf name) = .ok () ∧ ∃ front, stepsOf (d.pathOf name) = front ++ [name] ∧
      front.foldlM t.step (t.origin (d.pathOf name)) = .ok place := by
  have hne : d.pathOf name ≠ "" := Path.join_ne_empty hname.slash hname.segment.ne_nil
  by_cases hroot : d.root = ""
  · have hpath : d.pathOf name = name := by rw [pathOf, hroot, Path.join_empty hname.slash]
    have hplace : place = t.here := by simpa [hroot] using h.found
    refine ⟨Path.checkPath_eq_ok_iff.2 ⟨?_, hne, hname.path⟩, [], ?_, ?_⟩
    · rw [hpath]
      exact hname.nul
    · rw [hpath, stepsOf_of_not_mem hname.slash]
      rfl
    · rw [hpath, origin, if_neg (Path.head?_ne_slash hname.slash), hplace]
      rfl
  · have hfound := h.found
    rw [if_neg hroot] at hfound
    obtain ⟨⟨⟩, hcheck, hfold⟩ := except_bind_eq_ok.1 hfound
    obtain ⟨hnul, -, -⟩ := Path.checkPath_eq_ok_iff.1 hcheck
    obtain ⟨front, hsteps, hfront⟩ := exists_stepsOf_join hname.slash hroot
    refine ⟨Path.checkPath_eq_ok_iff.2 ⟨?_, hne, hname.path⟩, front, hsteps, ?_⟩
    · rw [pathOf, Path.toList_join hname.slash]
      split <;> simp [hnul, hname.nul]
    · rw [origin, pathOf, Path.head?_join hname.slash hroot]
      apply foldlM_of_essential h.directory
      rw [← essential_of_front hfront]
      exact foldlM_essential hfold

theorem resolve_name (h : d.StandsAt t place) (hname : d.Accepts name) :
    t.resolve (d.pathOf name) = if (t.at? (place ++ [name])).isSome then .ok (place ++ [name])
      else .error .notFound := by
  obtain ⟨hcheck, front, hsteps, hfold⟩ := exists_front h hname
  have hstep := step_of_isPlainName hname.plain h.directory hname.short
  rw [← hstep, resolve, hcheck, hsteps, List.foldlM_append, hfold]
  exact bind_pure (m := Except FileFault) _

theorem resolveLast_name (h : d.StandsAt t place) (hname : d.Accepts name) :
    t.resolveLast (d.pathOf name) = .ok (place, name, false) := by
  obtain ⟨hcheck, front, hsteps, hfold⟩ := exists_front h hname
  have hne : (name == "") = false := by
    rw [beq_eq_false_iff_ne]
    rintro rfl
    exact hname.segment.ne_nil rfl
  have hnamed : namedSteps (d.pathOf name) = name :: front.reverse := by
    rw [namedSteps, hsteps, List.reverse_append, List.reverse_singleton, List.singleton_append,
      List.dropWhile_cons_of_neg (by simp [hne])]
  rw [resolveLast_eq_ok_iff, hnamed, hsteps]
  refine ⟨hcheck, by simpa using hfold, h.directory, rfl, by simp⟩

theorem placeOf_name (h : d.StandsAt t place) (hname : d.Accepts name) :
    placeOf t.here (d.pathOf name) = place ++ [name] :=
  (resolveLast_eq_ok (resolveLast_name h hname) hname.plain).symm

theorem read_name (h : d.StandsAt t place) (hname : d.Accepts name) :
    t.read (d.pathOf name) = match t.at? (place ++ [name]) with
      | some (.file bytes) => .ok bytes
      | some .directory => .error .isDirectory
      | none => .error .notFound := by
  unfold FileTree.read
  rw [resolve_name h hname]
  cases hat : t.at? (place ++ [name]) with
  | none => rfl
  | some entry =>
      simp only [Option.isSome_some, if_true, bind, Except.bind]
      rw [hat]
      cases entry <;> rfl

theorem write_name (h : d.StandsAt t place) (hname : d.Accepts name)
    (hdir : t.isDirectoryAt (place ++ [name]) = false) (bytes : ByteArray) :
    t.write (d.pathOf name) bytes = .ok (t.put (place ++ [name]) (.file bytes)) := by
  have hshort : ¬ nameLimit < name.utf8ByteSize := Nat.not_lt.2 hname.short
  rw [write, resolveLast_name h hname]
  simp [bind, Except.bind, hname.plain, hshort, hdir]
  rfl

/-! ### A directory that stays -/

theorem step_keeps {changed : List (List String)} {start next : List String}
    (hkeeps : KeepsBut changed t t')
    (hstep : t.step start name = .ok next) (hnext : t.isDirectoryAt next = true) :
    t'.step start name = .ok next := by
  refine step_elsewhere hstep (hkeeps.directories (step_eq_ok hstep).1) fun hname => ?_
  rw [← stepPlace_of_isPlainName hname start, ← (step_eq_ok hstep).2]
  exact isSome_of_isDirectoryAt (hkeeps.directories hnext)

theorem foldlM_keeps {changed : List (List String)} {start names : List String}
    (hkeeps : KeepsBut changed t t') (hdir : t.isDirectoryAt place = true)
    (h : names.foldlM t.step start = .ok place) : names.foldlM t'.step start = .ok place := by
  induction names generalizing start with
  | nil => exact h
  | cons name rest ih =>
      rw [List.foldlM_cons] at h ⊢
      obtain ⟨next, hstep, h⟩ := except_bind_eq_ok.1 h
      have hnext : t.isDirectoryAt next = true := isDirectoryAt_of_foldlM h hdir
      exact except_bind_eq_ok.2 ⟨next, step_keeps hkeeps hstep hnext, ih h⟩

theorem StandsAt.keeps (h : d.StandsAt t place) {changed : List (List String)}
    (hkeeps : KeepsBut changed t t') : d.StandsAt t' place := by
  refine ⟨?_, hkeeps.directories h.directory⟩
  have hfound := h.found
  by_cases hroot : d.root = ""
  · rw [if_pos hroot] at hfound ⊢
    rw [hkeeps.here, hfound]
  · rw [if_neg hroot] at hfound ⊢
    obtain ⟨⟨⟩, hcheck, hfold⟩ := except_bind_eq_ok.1 hfound
    have horigin : t'.origin d.root = t.origin d.root := by rw [origin, origin, hkeeps.here]
    exact except_bind_eq_ok.2 ⟨(), hcheck, horigin ▸ foldlM_keeps hkeeps h.directory hfold⟩

/-! ### Loading and saving -/

variable {σ : Type} [HasTree σ] {s : σ}

theorem exists_after_load (d : DataDirectory) (target : String) (s : σ) :
    ∃ r, after (d.load (FileTree.access (m := StateM σ)) target) s = (r, s) := by
  rw [load, after_bind, after_read]
  dsimp only
  split
  · exact ⟨_, rfl⟩
  · exact ⟨_, rfl⟩
  · exact ⟨_, rfl⟩

theorem load_name (h : d.StandsAt (tree s) place) (hname : d.Accepts name) :
    after (d.load (FileTree.access (m := StateM σ)) name) s =
      (match (tree s).at? (place ++ [name]) with
        | some (.file bytes) => .ok (some bytes)
        | some .directory => .error .isDirectory
        | none => .ok none, s) := by
  rw [load, after_bind, after_read, read_name h hname]
  cases hat : (tree s).at? (place ++ [name]) with
  | none => rfl
  | some entry => cases entry <;> rfl

theorem load_of_file (h : d.StandsAt (tree s) place) (hname : d.Accepts name) {bytes : ByteArray}
    (hat : (tree s).at? (place ++ [name]) = some (.file bytes)) :
    after (d.load (FileTree.access (m := StateM σ)) name) s = (.ok (some bytes), s) := by
  rw [load_name h hname, hat]

theorem load_of_none (h : d.StandsAt (tree s) place) (hname : d.Accepts name)
    (hat : (tree s).at? (place ++ [name]) = none) :
    after (d.load (FileTree.access (m := StateM σ)) name) s = (.ok none, s) := by
  rw [load_name h hname, hat]

theorem save_name (h : d.StandsAt (tree s) place) (hname : d.Accepts name)
    (hdir : (tree s).isDirectoryAt (place ++ [name]) = false) (bytes : ByteArray) :
    after (d.save (FileTree.access (m := StateM σ)) name bytes) s
      = (.ok (), withTree s ((tree s).put (place ++ [name]) (.file bytes))) := by
  have hmade : after ((FileTree.access (m := StateM σ)).makeDirectories (Path.respell d.root)) s
      = (.ok (), s) := by
    by_cases hroot : d.root = ""
    · rw [hroot]
      exact after_makeDirectories_empty s
    · have hfound := h.found
      rw [if_neg hroot] at hfound
      exact after_makeDirectories _ s (Path.resolve_respell hfound h.directory) h.directory
  have hparent : Path.parent? (d.pathOf name) = some (Path.respell d.root) :=
    Path.parent?_join hname.segment
  rw [save, FileAccess.writeDeep, hparent]
  simp only
  rw [after_bind, hmade]
  simp only
  rw [after_write, write_name h hname hdir]

end DataDirectory

end StaticPage
