import StaticPage.Proofs.Files.Findings
import StaticPage.Proofs.Files.Rewrites

/-!
# Trees of the same shape

Where a path leads, and whether a file can be written there or a directory made, depends on what kind of thing
stands at each place and not on the bytes in files. `Alike` says of two trees that they have the same shape:
in both, operations succeed or fail in the same way and leave trees of the same shape again. Trees that are
`AlikeBut` for some files have the other files with the same bytes as well.
-/

namespace StaticPage.FileTree

/-- Two trees with the same places, the same of which are directories. -/
structure Alike (t t' : FileTree) : Prop where
  here : t'.here = t.here
  keys : Dictionary.keys t'.entries = Dictionary.keys t.entries
  directory (place : List String) : t'.isDirectoryAt place = t.isDirectoryAt place

/-- Two trees of the same shape which differ at most in the bytes of some files. -/
structure AlikeBut (changed : List (List String)) (t t' : FileTree) : Prop extends Alike t t' where
  same {place : List String} (h : place ∉ changed) : t'.at? place = t.at? place

variable {t t' t'' : FileTree} {changed changed' : List (List String)} {place : List String} {path : String}
  {bytes : ByteArray}

theorem Alike.refl (t : FileTree) : Alike t t :=
  ⟨rfl, rfl, fun _ => rfl⟩

theorem Alike.trans (h : Alike t t') (h' : Alike t' t'') : Alike t t'' where
  here := h'.here.trans h.here
  keys := h'.keys.trans h.keys
  directory place := (h'.directory place).trans (h.directory place)

theorem AlikeBut.refl (changed : List (List String)) (t : FileTree) : AlikeBut changed t t :=
  ⟨.refl t, fun _ => rfl⟩

theorem AlikeBut.trans (h : AlikeBut changed t t') (h' : AlikeBut changed t' t'') : AlikeBut changed t t'' :=
  ⟨h.toAlike.trans h'.toAlike, fun hplace => (h'.same hplace).trans (h.same hplace)⟩

theorem AlikeBut.mono (h : AlikeBut changed t t') (hsub : changed ⊆ changed') : AlikeBut changed' t t' :=
  ⟨h.toAlike, fun hplace => h.same fun hmem => hplace (hsub hmem)⟩

/-! ### Paths -/

namespace Alike

variable (h : Alike t t')

include h

theorem isSome_at? (place : List String) : (t'.at? place).isSome = (t.at? place).isSome := by
  by_cases hroot : place = []
  · subst hroot
    rfl
  · rw [Bool.eq_iff_iff, isSome_at?_iff hroot, isSome_at?_iff hroot, h.keys]

theorem step : t'.step = t.step := by
  funext place name
  rw [FileTree.step, FileTree.step, h.directory, h.isSome_at?]

theorem origin (path : String) : t'.origin path = t.origin path := by
  rw [FileTree.origin, FileTree.origin, h.here]

theorem resolve (path : String) : t'.resolve path = t.resolve path := by
  rw [FileTree.resolve, FileTree.resolve, h.step, h.origin]

theorem resolveLast (path : String) : t'.resolveLast path = t.resolveLast path := by
  unfold FileTree.resolveLast
  simp only [h.step, h.origin, h.directory]

theorem isDirectory (path : String) : t'.isDirectory path = t.isDirectory path := by
  unfold FileTree.isDirectory
  simp only [h.resolve, h.directory]

theorem isThere (path : String) : t'.isThere path = t.isThere path := by
  rw [FileTree.isThere, FileTree.isThere, h.resolve]

theorem names (path : String) : t'.names path = t.names path := by
  cases hresolve : t.resolve path with
  | error fault => rw [FileTree.names, FileTree.names, h.resolve, hresolve]
  | ok place => rw [names_eq hresolve, names_eq ((h.resolve path).trans hresolve), h.keys]

theorem found (p : Glob.Pattern) : t'.found p = t.found p := by
  have hplaced (path : String) : t'.placed path = t.placed path := by rw [placed, placed, h.isDirectory]
  have hordered (path : String) : t'.ordered path = t.ordered path := by rw [ordered, ordered, h.names]
  have hsearch (only : Bool) (fuel : Nat) :
      (∀ parts, ∀ place, t'.finds only parts place fuel = t.finds only parts place fuel) ∧
        ∀ parts, ∀ name place, t'.visits only parts place fuel name = t.visits only parts place fuel name := by
    refine search_induction
      (P := fun fuel parts => ∀ place, t'.finds only parts place fuel = t.finds only parts place fuel)
      (Q := fun fuel parts => ∀ name place,
        t'.visits only parts place fuel name = t.visits only parts place fuel name)
      ?zero ?nil ?named ?wild ?matched ?below fuel
    case zero => exact fun parts => ⟨fun place => rfl, fun name place => rfl⟩
    case nil =>
      intro fuel
      exact ⟨fun place => by rw [finds_nil, finds_nil], fun name place => by rw [visits_nil, visits_nil]⟩
    case named =>
      intro fuel text rest hfind place
      rw [finds_name, finds_name, h.isThere, hplaced, hfind]
    case wild =>
      intro fuel p rest hp hfind hvisit place
      rw [finds_other _ _ _ _ _ hp, finds_other _ _ _ _ _ hp, hordered]
      simp only [hplaced, hfind, hvisit]
    case matched =>
      intro fuel p rest hp hfind name place
      rw [visits_other _ _ _ _ _ _ hp, visits_other _ _ _ _ _ _ hp, hfind]
    case below =>
      intro fuel rest hfind name place
      rw [visits_directories, visits_directories]
      simp only [hfind]
  change t'.finds p.directoriesOnly p.parts (t'.placed _) _ = t.finds p.directoriesOnly p.parts (t.placed _) _
  rw [hplaced, (hsearch _ _).1]

/-! ### New entries -/

theorem put (place : List String) {entry entry' : FileEntry} (hkind : entry' = .directory ↔ entry = .directory) :
    Alike (t.put place entry) (t'.put place entry') where
  here := h.here
  keys := by
    change Dictionary.keys (Dictionary.set place entry' t'.entries) =
      Dictionary.keys (Dictionary.set place entry t.entries)
    rw [Dictionary.keys_set, Dictionary.keys_set, h.keys]
  directory q := by
    by_cases hroot : q = []
    · subst hroot
      rfl
    · by_cases hq : q = place
      · subst hq
        rw [Bool.eq_iff_iff, isDirectoryAt_iff, isDirectoryAt_iff, at?_put_self _ hroot, at?_put_self _ hroot,
          Option.some.injEq, Option.some.injEq]
        exact hkind
      · rw [isDirectoryAt_put_of_ne _ hq, isDirectoryAt_put_of_ne _ hq, h.directory]

end Alike

theorem alikeBut_put_file (hfile : t.at? place = some (.file bytes)) (new : ByteArray) :
    AlikeBut [place] t (t.put place (.file new)) := by
  have hroot : place ≠ [] := by
    rintro rfl
    cases hfile
  have hdirectory : t.isDirectoryAt place = false := by rw [isDirectoryAt, hfile]
  have hkey : place ∈ Dictionary.keys t.entries := (isSome_at?_iff hroot).1 (by rw [hfile]; rfl)
  refine ⟨⟨rfl, ?_, fun q => ?_⟩, fun {q} hq => at?_put_of_ne t (by simpa using hq) _⟩
  · change Dictionary.keys (Dictionary.set place _ t.entries) = _
    rw [Dictionary.keys_set, if_pos (List.contains_iff_mem.2 hkey)]
  · by_cases hq : q = place
    · rw [hq, isDirectoryAt_put_file t hroot, hdirectory]
    · exact isDirectoryAt_put_of_ne t hq _

theorem AlikeBut.read (h : AlikeBut changed t t') (hplace : placeOf t.here path ∉ changed) :
    t'.read path = t.read path := by
  unfold FileTree.read
  rw [h.resolve]
  cases hresolve : t.resolve path with
  | error fault => rfl
  | ok q =>
      obtain rfl := resolve_eq_ok hresolve
      have hsame := h.same hplace
      dsimp only [bind, Except.bind]
      rw [hsame]

def directoryPlace (t : FileTree) (path : String) : Except FileFault (List String) := do
  let (place, name, _) ← t.resolveLast path
  if !isPlainName name then throw .alreadyExists
  if nameLimit < name.utf8ByteSize then throw .nameTooLong
  if (t.at? (place ++ [name])).isSome then throw .alreadyExists
  return place ++ [name]

def filePlace (t : FileTree) (path : String) : Except FileFault (List String) := do
  let (place, name, slash) ← t.resolveLast path
  if slash ∨ !isPlainName name then throw .isDirectory
  if nameLimit < name.utf8ByteSize then throw .nameTooLong
  if t.isDirectoryAt (place ++ [name]) then throw .isDirectory
  return place ++ [name]

theorem makeDirectory_eq (t : FileTree) (path : String) :
    t.makeDirectory path = (t.directoryPlace path).map (t.put · .directory) := by
  unfold makeDirectory directoryPlace
  rcases t.resolveLast path with fault | ⟨place, name, slash⟩
  · rfl
  · dsimp only [bind, Except.bind]
    split_ifs <;> rfl

theorem write_eq (t : FileTree) (path : String) (bytes : ByteArray) :
    t.write path bytes = (t.filePlace path).map (t.put · (.file bytes)) := by
  unfold write filePlace
  rcases t.resolveLast path with fault | ⟨place, name, slash⟩
  · rfl
  · dsimp only [bind, Except.bind]
    split_ifs <;> rfl

theorem Alike.directoryPlace (h : Alike t t') (path : String) : t'.directoryPlace path = t.directoryPlace path := by
  unfold FileTree.directoryPlace
  simp only [h.resolveLast, h.isSome_at?]

theorem Alike.filePlace (h : Alike t t') (path : String) : t'.filePlace path = t.filePlace path := by
  unfold FileTree.filePlace
  simp only [h.resolveLast, h.directory]

/-! ### Runs in step -/

variable {σ α β : Type} [HasTree σ] {Q : FileTree → FileTree → Prop}

/-- A relation between trees of the same shape that is kept by new directories. -/
structure Shaped (Q : FileTree → FileTree → Prop) : Prop where
  alike {t t' : FileTree} (h : Q t t') : Alike t t'
  put {t t' : FileTree} (h : Q t t') (place : List String) : Q (t.put place .directory) (t'.put place .directory)

theorem shaped_eq : Shaped Eq where
  alike h := h ▸ .refl _
  put h place := congrArg (·.put place .directory) h

theorem shaped_alike : Shaped Alike where
  alike := id
  put h place := h.put place Iff.rfl

/-- From worlds with related trees, a computation brings the same result, and leaves related trees. -/
def InStep (Q : FileTree → FileTree → Prop) (x : StateM σ α) : Prop :=
  ∀ s s', Q (tree s) (tree s') → (after x s').1 = (after x s).1 ∧ Q (tree (after x s).2) (tree (after x s').2)

theorem inStep_pure (a : α) : InStep Q (pure a : StateM σ α) :=
  fun _ _ h => ⟨rfl, h⟩

theorem InStep.bind {x : StateM σ α} {f : α → StateM σ β} (hx : InStep Q x) (hf : ∀ a, InStep Q (f a)) :
    InStep Q (x >>= f) := by
  intro s s' h
  obtain ⟨hresult, htrees⟩ := hx s s' h
  rw [after_bind, after_bind, hresult]
  exact hf _ _ _ htrees

section

variable (hQ : Shaped Q)

include hQ

theorem inStep_makeDirectory (path : String) : InStep Q ((access (m := StateM σ)).makeDirectory path) := by
  intro s s' h
  rw [after_makeDirectory, after_makeDirectory, makeDirectory_eq, makeDirectory_eq,
    (hQ.alike h).directoryPlace]
  cases (tree s).directoryPlace path with
  | error fault => exact ⟨rfl, h⟩
  | ok place =>
      refine ⟨rfl, ?_⟩
      dsimp only [Except.map]
      rw [HasTree.tree_withTree, HasTree.tree_withTree]
      exact hQ.put h place

theorem inStep_unlessDirectory (path : String) (fault : FileFault) : InStep Q (do
    if ← (access (m := StateM σ)).isDirectory path then return (.ok () : Except FileFault Unit)
    else return .error fault) := by
  intro s s' h
  rw [after_unlessDirectory, after_unlessDirectory, (hQ.alike h).isDirectory]
  exact ⟨rfl, h⟩

theorem inStep_attempt (path : String) :
    InStep Q (FileAccess.makeDirectoriesFrom.attempt (access (m := StateM σ)) path) := by
  unfold FileAccess.makeDirectoriesFrom.attempt
  split
  · exact inStep_pure _
  · apply (inStep_makeDirectory hQ path).bind
    intro r
    cases r with
    | ok made => exact inStep_pure _
    | error fault => exact inStep_unlessDirectory hQ path fault

theorem inStep_makeDirectoriesFrom (path : String) (above : List String) :
    InStep Q ((access (m := StateM σ)).makeDirectoriesFrom path above) := by
  induction above generalizing path with
  | nil => exact inStep_attempt hQ path
  | cons parent above ih =>
      rw [FileAccess.makeDirectoriesFrom]
      split
      · exact inStep_pure _
      · apply (inStep_makeDirectory hQ path).bind
        intro r
        rcases r with fault | made
        · cases fault with
          | notFound =>
              apply (ih parent).bind
              intro r
              cases r with
              | error fault => exact inStep_pure _
              | ok made => exact inStep_attempt hQ path
          | _ => exact inStep_unlessDirectory hQ path _
        · exact inStep_pure _

theorem inStep_makeDirectories (path : String) :
    InStep Q ((access (m := StateM σ)).makeDirectories path) :=
  inStep_makeDirectoriesFrom hQ path _

end

theorem inStep_write (path : String) {s s' s₁ : σ} {bytes : ByteArray} (bytes' : ByteArray)
    (h : Alike (tree s) (tree s'))
    (hwrite : after ((access (m := StateM σ)).write path bytes) s = (.ok (), s₁)) :
    ∃ s₁', after ((access (m := StateM σ)).write path bytes') s' = (.ok (), s₁') ∧
      Alike (tree s₁) (tree s₁') := by
  rw [after_write, write_eq] at hwrite
  rw [after_write, write_eq, h.filePlace]
  cases hplace : (tree s).filePlace path with
  | error fault =>
      rw [hplace] at hwrite
      cases hwrite
  | ok place =>
      rw [hplace] at hwrite
      cases hwrite
      refine ⟨_, rfl, ?_⟩
      rw [HasTree.tree_withTree, HasTree.tree_withTree]
      exact h.put place (by simp)

/-- Where a file can be written in one tree, one can be written in a tree of the same shape. -/
theorem inStep_writeDeep {path : String} {s s' s₁ : σ} {bytes : ByteArray} (bytes' : ByteArray)
    (h : Alike (tree s) (tree s'))
    (hwrite : after ((access (m := StateM σ)).writeDeep path bytes) s = (.ok (), s₁)) :
    ∃ s₁', after ((access (m := StateM σ)).writeDeep path bytes') s' = (.ok (), s₁') ∧
      Alike (tree s₁) (tree s₁') := by
  rw [FileAccess.writeDeep] at hwrite ⊢
  split at hwrite
  · exact inStep_write path bytes' h hwrite
  · rename_i parent hparent
    obtain ⟨hresult, htrees⟩ := inStep_makeDirectories shaped_alike parent s s' h
    rw [after_bind] at hwrite ⊢
    rw [hresult]
    cases hmade : (after ((access (m := StateM σ)).makeDirectories parent) s).1 with
    | error fault =>
        rw [hmade] at hwrite
        cases hwrite
    | ok made =>
        rw [hmade] at hwrite
        exact inStep_write path bytes' htrees hwrite

end StaticPage.FileTree
