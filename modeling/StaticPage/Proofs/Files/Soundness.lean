import Mathlib.Data.List.Induction
import StaticPage.Proofs.Files.Places
import StaticPage.Proofs.Text.Cutting

/-!
# Sound trees

A tree is sound if whatever is in it is in a directory, under a name that a path can have. Every tree that
files and directories are put into by their paths is sound if the first one is: `sound_write` and
`sound_makeDirectory`. In a sound tree a path that can be followed leads to something.
-/

namespace StaticPage

/-- A name that can stand between the slashes of a path and leads to a place of its own. -/
structure Path.IsSegment (name : String) : Prop where
  plain : FileTree.isPlainName name = true
  slash : '/' ∉ name.toList

namespace FileTree

variable {t t' : FileTree} {place q above : List String} {path name : String}

/-- No place is taken twice, and every place that is taken is that of a name in a directory. -/
structure Sound (t : FileTree) : Prop where
  nodup : (Dictionary.keys t.entries).Nodup
  inside {place : List String} (h : place ∈ Dictionary.keys t.entries) :
    ∃ above name, place = above ++ [name] ∧ Path.IsSegment name ∧ t.isDirectoryAt above = true
  here : t.isDirectoryAt t.here = true

/-! ### What is there -/

theorem at?_of_ne_nil (t : FileTree) (h : place ≠ []) : t.at? place = t.entries.lookup place := by
  rw [at?, if_neg (by simpa using h)]

theorem isSome_at?_iff (h : place ≠ []) :
    (t.at? place).isSome = true ↔ place ∈ Dictionary.keys t.entries := by
  rw [at?_of_ne_nil t h, Option.isSome_iff_ne_none, Ne, Dictionary.lookup_eq_none_iff, not_not]

theorem isSome_of_isDirectoryAt (h : t.isDirectoryAt place = true) : (t.at? place).isSome = true := by
  rw [isDirectoryAt_iff.1 h]
  rfl

theorem Sound.parent (h : t.Sound) (hthere : (t.at? (above ++ [name])).isSome = true) :
    Path.IsSegment name ∧ t.isDirectoryAt above = true := by
  obtain ⟨above', name', heq, hname, hdir⟩ := h.inside ((isSome_at?_iff (by simp)).1 hthere)
  obtain ⟨rfl, hnames⟩ := List.append_inj' heq rfl
  cases hnames
  exact ⟨hname, hdir⟩

theorem Sound.isSome_dropLast (h : t.Sound) (hthere : (t.at? place).isSome = true) :
    (t.at? place.dropLast).isSome = true := by
  rcases List.eq_nil_or_concat' place with rfl | ⟨above, name, rfl⟩
  · exact hthere
  · rw [List.dropLast_concat]
    exact isSome_of_isDirectoryAt (h.parent hthere).2

theorem Sound.isSome_of_append {names : List String} (h : t.Sound)
    (hthere : (t.at? (place ++ names)).isSome = true) : (t.at? place).isSome = true := by
  induction names using List.reverseRecOn with
  | nil => simpa using hthere
  | append_singleton names name ih =>
      rw [← List.append_assoc] at hthere
      exact ih (isSome_of_isDirectoryAt (h.parent hthere).2)

theorem Sound.isSome_of_step_eq_ok (h : t.Sound) (hstep : t.step place name = .ok q) :
    (t.at? q).isSome = true := by
  obtain ⟨hdir, rfl⟩ := step_eq_ok hstep
  by_cases hname : isPlainName name = true
  · rw [stepPlace_of_isPlainName hname]
    exact (isSome_of_step hname hstep).2
  · rw [isPlainName, Bool.not_eq_true', Bool.not_eq_false] at hname
    have hthere := isSome_of_isDirectoryAt hdir
    unfold stepPlace
    split
    · exact hthere
    · split
      · exact h.isSome_dropLast hthere
      · simp_all

theorem Sound.isDirectoryAt_origin (h : t.Sound) (path : String) :
    t.isDirectoryAt (t.origin path) = true := by
  unfold origin
  split
  · rfl
  · exact h.here

/-! ### What is put there -/

/-- The last name of a path, if it can be made. -/
theorem isSegment_of_resolveLast {slash : Bool} (h : t.resolveLast path = .ok (place, name, slash))
    (hname : isPlainName name = true) : Path.IsSegment name := by
  obtain ⟨-, -, -, hlast, -⟩ := resolveLast_eq_ok_iff.1 h
  refine ⟨hname, ?_⟩
  cases hnamed : namedSteps path with
  | nil =>
      rw [hnamed] at hlast
      subst hlast
      cases hname
  | cons last rest =>
      rw [hnamed] at hlast
      have hmem : name ∈ namedSteps path := by
        rw [hnamed, ← hlast]
        exact List.mem_cons_self
      have hstep : name ∈ stepsOf path :=
        List.mem_reverse.1 ((List.dropWhile_sublist _).subset hmem)
      obtain ⟨s, hs, rfl⟩ := List.mem_map.1 hstep
      rw [String.toList_ofList]
      exact Text.not_mem_of_mem_splitOn hs

/-- A tree stays sound if a name is put into a directory, and not in the place of another one. -/
theorem Sound.put (h : t.Sound) (hname : Path.IsSegment name) (habove : t.isDirectoryAt above = true)
    {entry : FileEntry} (hentry : t.isDirectoryAt (above ++ [name]) = true → entry = .directory) :
    (t.put (above ++ [name]) entry).Sound := by
  have hdirectories {q : List String} (hq : t.isDirectoryAt q = true) :
      (t.put (above ++ [name]) entry).isDirectoryAt q = true := by
    by_cases heq : q = above ++ [name]
    · subst heq
      rw [isDirectoryAt_iff, at?_put_self t (by simp), hentry hq]
    · rwa [isDirectoryAt_put_of_ne t heq]
  refine ⟨Dictionary.nodup_keys_set h.nodup entry, fun {place} hplace => ?_, hdirectories h.here⟩
  have hkeys : place ∈ Dictionary.keys t.entries ∨ place = above ++ [name] := by
    have hset : place ∈ Dictionary.keys (Dictionary.set (above ++ [name]) entry t.entries) := hplace
    rw [Dictionary.keys_set] at hset
    split at hset
    · exact .inl hset
    · simpa using hset
  rcases hkeys with hold | rfl
  · obtain ⟨above', name', heq, hname', hdir⟩ := h.inside hold
    exact ⟨above', name', heq, hname', hdirectories hdir⟩
  · exact ⟨above, name, rfl, hname, hdirectories habove⟩

theorem resolveLast_of_write {bytes : ByteArray} (h : t.write path bytes = .ok t') :
    ∃ above name, t.resolveLast path = .ok (above, name, false) ∧ isPlainName name = true ∧
      name.utf8ByteSize ≤ nameLimit := by
  obtain ⟨⟨above, name, slash⟩, hlast, h⟩ := except_bind_eq_ok.1 h
  dsimp only at h
  split at h
  · cases h
  · rename_i hplain
    rw [not_or, Bool.not_eq_true', Bool.not_eq_false, Bool.not_eq_true] at hplain
    split at h
    · cases h
    · rename_i hshort
      obtain ⟨rfl, hname⟩ := hplain
      exact ⟨above, name, hlast, hname, Nat.not_lt.1 hshort⟩

theorem resolveLast_of_makeDirectory (h : t.makeDirectory path = .ok t') :
    ∃ above name slash, t.resolveLast path = .ok (above, name, slash) ∧ isPlainName name = true ∧
      name.utf8ByteSize ≤ nameLimit := by
  obtain ⟨⟨above, name, slash⟩, hlast, h⟩ := except_bind_eq_ok.1 h
  dsimp only at h
  split at h
  · cases h
  · rename_i hname
    rw [Bool.not_eq_true', Bool.not_eq_false] at hname
    split at h
    · cases h
    · rename_i hshort
      exact ⟨above, name, slash, hlast, hname, Nat.not_lt.1 hshort⟩

theorem sound_write {bytes : ByteArray} (h : t.Sound) (hwrite : t.write path bytes = .ok t') :
    t'.Sound := by
  obtain ⟨rfl, hdir, -⟩ := write_eq_ok hwrite
  obtain ⟨above, name, hlast, hname, -⟩ := resolveLast_of_write hwrite
  rw [← resolveLast_eq_ok hlast hname] at hdir ⊢
  refine h.put (isSegment_of_resolveLast hlast hname) (resolveLast_eq_ok_iff.1 hlast).2.2.1 fun h => ?_
  rw [hdir] at h
  cases h

theorem sound_makeDirectory (h : t.Sound) (hmake : t.makeDirectory path = .ok t') : t'.Sound := by
  obtain ⟨rfl, -⟩ := makeDirectory_eq_ok hmake
  obtain ⟨above, name, slash, hlast, hname, -⟩ := resolveLast_of_makeDirectory hmake
  rw [← resolveLast_eq_ok hlast hname]
  exact h.put (isSegment_of_resolveLast hlast hname) (resolveLast_eq_ok_iff.1 hlast).2.2.1 fun _ => rfl

end FileTree

end StaticPage
