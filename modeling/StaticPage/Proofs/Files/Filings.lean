import StaticPage.Proofs.Files.Footprints

/-!
# Filings

What may be asked of whatever holds files is in `Governs`. A `Filing` says which file a path names in a world
and what is in it, and `Changes` that of all files only those of some paths may be other ones. A file tree
is a way to hold files: `governs_access`.
-/

namespace StaticPage

open FileTree

variable {σ φ : Type}

/-- How worlds hold files: which file a path names, and what is in a file. -/
structure Filing (σ φ : Type) where
  fileOf : σ → String → φ
  bytes : σ → φ → Option ByteArray

namespace Filing

variable (filing : Filing σ φ) {s s' s'' : σ} {path : String} {paths paths' : List String}

/-- From one world to another, paths name the files they named, and none is new, gone or changed but those
of some paths. -/
structure Changes (paths : List String) (s s' : σ) : Prop where
  fileOf : filing.fileOf s' = filing.fileOf s
  bytes {file : φ} (h : ∀ path ∈ paths, file ≠ filing.fileOf s path) : filing.bytes s' file = filing.bytes s file

variable {filing}

theorem Changes.refl (paths : List String) (s : σ) : filing.Changes paths s s :=
  ⟨rfl, fun _ => rfl⟩

theorem Changes.trans (h : filing.Changes paths s s') (h' : filing.Changes paths s' s'') :
    filing.Changes paths s s'' where
  fileOf := h'.fileOf.trans h.fileOf
  bytes hfile := (h'.bytes (h.fileOf ▸ hfile)).trans (h.bytes hfile)

instance : IsPreorder σ (filing.Changes paths) where
  refl := .refl paths
  trans _ _ _ := .trans

theorem Changes.mono (h : filing.Changes paths s s') (hsub : paths ⊆ paths') : filing.Changes paths' s s' where
  fileOf := h.fileOf
  bytes hfile := h.bytes fun path hpath => hfile path (hsub hpath)

theorem Changes.bytes_eq (h : filing.Changes [] s s') : filing.bytes s' = filing.bytes s := by
  funext file
  exact h.bytes (by simp)

variable (filing)

/-- Files are read and directories made without a change to any file, and writing changes the file of its
path only: it has the new bytes then or, if writing fails, those it had. -/
structure Governs (fs : FileAccess (StateM σ)) : Prop where
  reads : fs.Reads (filing.Changes [])
  makeDirectory (path : String) : Stays (filing.Changes []) (fs.makeDirectory path)
  write (path : String) (bytes : ByteArray) : Stays (filing.Changes [path]) (fs.write path bytes)
  written {path : String} {bytes : ByteArray} {s s' : σ} (h : after (fs.write path bytes) s = (.ok (), s')) :
    filing.bytes s' (filing.fileOf s path) = some bytes
  failed {path : String} {bytes : ByteArray} {s s' : σ} {fault : FileFault}
    (h : after (fs.write path bytes) s = (.error fault, s')) : filing.Changes [] s s'

variable {filing} {fs : FileAccess (StateM σ)} {bytes : ByteArray}

theorem Governs.writeDeep (hfs : filing.Governs fs) (path : String) (bytes : ByteArray) :
    Stays (filing.Changes [path]) (fs.writeDeep path bytes) := by
  have hsub (s s' : σ) (h : filing.Changes [] s s') : filing.Changes [path] s s' := h.mono (List.nil_subset _)
  exact stays_writeDeep (hfs.reads.mono hsub) (fun path => (hfs.makeDirectory path).mono hsub)
    (hfs.write path bytes)

/-- A file is written with the directories it is in, or no file has changed. -/
theorem Governs.writeDeep_cases (hfs : filing.Governs fs) {r : Except FileFault Unit}
    (h : after (fs.writeDeep path bytes) s = (r, s')) :
    (∃ fault, r = .error fault ∧ filing.Changes [] s s') ∨
      r = .ok () ∧ filing.bytes s' (filing.fileOf s path) = some bytes := by
  have hwrite {s₁ : σ} (hmade : filing.Changes [] s s₁) (h : after (fs.write path bytes) s₁ = (r, s')) :
      (∃ fault, r = .error fault ∧ filing.Changes [] s s') ∨
        r = .ok () ∧ filing.bytes s' (filing.fileOf s path) = some bytes := by
    cases r with
    | error fault => exact .inl ⟨fault, rfl, hmade.trans (hfs.failed h)⟩
    | ok written =>
        rw [← hmade.fileOf]
        exact .inr ⟨rfl, hfs.written h⟩
  rw [FileAccess.writeDeep] at h
  split at h
  · exact hwrite (.refl [] s) h
  · rename_i parent hparent
    have hmade := stays_makeDirectories hfs.reads hfs.makeDirectory parent s
    rcases hrun : after (fs.makeDirectories parent) s with ⟨made, s₁⟩
    rw [hrun] at hmade
    rw [after_bind, hrun] at h
    cases made with
    | error fault =>
        cases h
        exact .inl ⟨fault, rfl, hmade⟩
    | ok made => exact hwrite hmade h

end Filing

/-! ### File trees -/

def FileTree.filing (σ : Type) [HasTree σ] : Filing σ (List String) where
  fileOf s path := placeOf (tree s).here path
  bytes s place :=
    match (tree s).at? place with
    | some (.file bytes) => some bytes
    | _ => none

section

variable [HasTree σ] {s s' : σ} {place : List String} {bytes : ByteArray} {path : String}

theorem FileTree.filing_bytes_eq_some :
    (filing σ).bytes s place = some bytes ↔ (tree s).at? place = some (.file bytes) := by
  unfold filing
  dsimp only
  split
  · rename_i found hat
    rw [hat, Option.some.injEq, Option.some.injEq, FileEntry.file.injEq]
  · rename_i hnone
    constructor
    · intro h
      cases h
    · intro h
      exact absurd h (hnone bytes)

theorem FileTree.KeepsBut.changes {paths : List String}
    (h : KeepsBut (paths.map (placeOf (tree s).here)) (tree s) (tree s')) :
    (FileTree.filing σ).Changes paths s s' where
  fileOf := by
    funext path
    exact congrArg (placeOf · path) h.here
  bytes {place} hplace := by
    have hchanged : place ∉ paths.map (placeOf (tree s).here) := by
      intro hmem
      obtain ⟨path, hpath, rfl⟩ := List.mem_map.1 hmem
      exact hplace path hpath rfl
    ext bytes
    rw [FileTree.filing_bytes_eq_some, FileTree.filing_bytes_eq_some]
    exact ⟨h.only hchanged, h.keeps hchanged⟩

theorem governs_access : (FileTree.filing σ).Governs (FileTree.access (m := StateM σ)) where
  reads := ⟨fun _ s => refl s, fun _ s => refl s, fun _ s => refl s, fun _ s => refl s⟩
  makeDirectory path s := by
    rw [after_makeDirectory]
    cases hmade : (tree s).makeDirectory path with
    | error fault => exact refl s
    | ok t =>
        have hgrows := (grows_makeDirectory hmade).keepsBut []
        exact FileTree.KeepsBut.changes (by simpa using hgrows)
  write path bytes s := by
    rw [after_write]
    cases hwritten : (tree s).write path bytes with
    | error fault => exact refl s
    | ok t =>
        have hkeeps := (evolves_write hwritten).toKeepsBut
        exact FileTree.KeepsBut.changes (by simpa using hkeeps)
  written {path bytes s s'} h := by
    rw [after_write] at h
    cases hwritten : (tree s).write path bytes with
    | error fault =>
        rw [hwritten] at h
        cases h
    | ok t =>
        rw [hwritten] at h
        cases h
        obtain ⟨rfl, -, hroot⟩ := write_eq_ok hwritten
        rw [FileTree.filing_bytes_eq_some, HasTree.tree_withTree]
        exact at?_put_self _ hroot _
  failed {path bytes s s' fault} h := by
    rw [after_write] at h
    cases hwritten : (tree s).write path bytes with
    | error fault =>
        rw [hwritten] at h
        cases h
        exact refl s
    | ok t =>
        rw [hwritten] at h
        cases h

end

end StaticPage
