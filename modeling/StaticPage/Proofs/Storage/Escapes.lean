import Mathlib.Data.Finset.Preimage
import Mathlib.Data.Fintype.EquivFin
import StaticPage.Proofs.Files.Confinement
import StaticPage.Proofs.Files.Passages
import StaticPage.Proofs.Storage.FileNames

/-!
# Targets that escape

Some targets are never kept: their paths end in no name, or in one that is too long, or lead through the
file itself. A target that is kept anywhere and is not confined can be kept outside of the data directory:
`exists_escape` finds a directory so deep, in directories of a name that the target does not have, that the
steps of the target lead out of it by the way that they took where it was kept.
-/

namespace StaticPage

open FileTree

variable {t t' : FileTree} {start place front names : List String} {path target name fresh : String} {n : Nat}

/-! ### A tree of directories only -/

namespace FileTree

theorem mem_keys_startingAt {q : List String} :
    q ∈ Dictionary.keys (startingAt place).entries ↔ ∃ i < place.length, place.take (i + 1) = q := by
  simp [startingAt, Dictionary.keys]

theorem at?_startingAt_ne_file (place q : List String) (bytes : ByteArray) :
    (startingAt place).at? q ≠ some (.file bytes) := by
  intro h
  by_cases hq : q = []
  · subst hq
    cases h
  · rw [at?_of_ne_nil _ hq] at h
    have hmem := List.lookup_eq_some_iff.1 h
    obtain ⟨front, back, hentries, -⟩ := hmem
    have hentry : (q, FileEntry.file bytes) ∈ (startingAt place).entries := by simp [hentries]
    simp [startingAt] at hentry

theorem isDirectoryAt_startingAt (h : names <+: place) : (startingAt place).isDirectoryAt names = true := by
  by_cases hnames : names = []
  · subst hnames
    rfl
  · have hpos : 0 < names.length := List.length_pos_iff.2 hnames
    have hkey : names ∈ Dictionary.keys (startingAt place).entries := by
      refine mem_keys_startingAt.2 ⟨names.length - 1, ?_, ?_⟩
      · have hle := h.length_le
        omega
      · rw [Nat.sub_add_cancel hpos]
        exact (List.prefix_iff_eq_take.1 h).symm
    exact isDirectoryAt_of_clear ((isSome_at?_iff hnames).2 hkey) (at?_startingAt_ne_file place names)

theorem prefix_of_isSome_startingAt {q : List String} (h : ((startingAt place).at? q).isSome = true) :
    q <+: place := by
  by_cases hq : q = []
  · subst hq
    exact List.nil_prefix
  · obtain ⟨i, -, rfl⟩ := mem_keys_startingAt.1 ((isSome_at?_iff hq).1 h)
    exact List.take_prefix _ _

theorem sound_startingAt (h : ∀ name ∈ place, Path.IsSegment name) : (startingAt place).Sound where
  nodup := by
    have hkeys : Dictionary.keys (startingAt place).entries
        = (List.range place.length).map fun i => place.take (i + 1) := by
      simp [startingAt, Dictionary.keys]
    rw [hkeys]
    refine List.Nodup.map_on (fun i hi j hj heq => ?_) List.nodup_range
    have hlength := congrArg List.length heq
    rw [List.mem_range] at hi hj
    simp only [List.length_take] at hlength
    omega
  inside {q} hq := by
    obtain ⟨i, hi, rfl⟩ := mem_keys_startingAt.1 hq
    refine ⟨place.take i, place[i], List.take_succ_eq_append_getElem hi, h _ (List.getElem_mem hi), ?_⟩
    exact isDirectoryAt_startingAt (List.take_prefix _ _)
  here := isDirectoryAt_startingAt List.prefix_rfl

/-! ### Paths to a file -/

theorem mem_scanl_iff {q : List String} :
    q ∈ names.scanl stepPlace start ↔ ∃ before, before <+: names ∧ before.foldl stepPlace start = q := by
  induction names generalizing start with
  | nil => simp [eq_comm]
  | cons name rest ih =>
      rw [List.scanl_cons, List.mem_cons, ih]
      constructor
      · rintro (rfl | ⟨before, hbefore, rfl⟩)
        · exact ⟨[], List.nil_prefix, rfl⟩
        · exact ⟨name :: before, List.cons_prefix_cons.2 ⟨rfl, hbefore⟩, rfl⟩
      · rintro ⟨before, hbefore, rfl⟩
        cases before with
        | nil => exact .inl rfl
        | cons first before =>
            obtain ⟨rfl, hrest⟩ := List.cons_prefix_cons.1 hbefore
            exact .inr ⟨before, hrest, rfl⟩

theorem toList_subset_of_mem_stepsOf (h : name ∈ stepsOf path) : name.toList ⊆ path.toList := by
  obtain ⟨s, hs, rfl⟩ := List.mem_map.1 h
  rw [String.toList_ofList]
  exact Text.subset_of_mem_splitOn hs

/-- A path whose last step is a name has that name behind another path. -/
theorem exists_join_of_stepsOf (h : stepsOf path = front ++ [name]) (hslash : '/' ∉ name.toList) :
    ∃ root, path = Path.join root name := by
  have hpath : path.toList = ['/'].intercalate ((front ++ [name]).map String.toList) := by
    have hpieces : (stepsOf path).map String.toList = path.toList.splitOn '/' := by simp [stepsOf]
    rw [← h, hpieces, List.intercalate_splitOn]
  cases front with
  | nil =>
      refine ⟨"", ?_⟩
      rw [← String.toList_inj, Path.join_empty hslash, hpath]
      simp
  | cons first rest =>
      rw [List.cons_append, List.map_cons, Path.intercalate_cons, List.map_append, List.flatMap_append] at hpath
      refine ⟨String.ofList (first.toList ++ (rest.map String.toList).flatMap ('/' :: ·) ++ ['/']), ?_⟩
      rw [← String.toList_inj, Path.toList_join hslash, if_pos (.inr (by simp)), hpath]
      simp

/-- Steps that can be taken are not too long, and come by directories if they lead to one. -/
theorem of_foldlM_step {q : List String} (hfold : names.foldlM t.step start = .ok q)
    (hdir : t.isDirectoryAt q = true) : (∀ name ∈ names, name.utf8ByteSize ≤ nameLimit) ∧
      ∀ place ∈ names.scanl stepPlace start, t.isDirectoryAt place = true := by
  induction names generalizing start with
  | nil =>
      cases hfold
      simpa using hdir
  | cons name rest ih =>
      rw [List.foldlM_cons] at hfold
      obtain ⟨next, hstep, hrest⟩ := except_bind_eq_ok.1 hfold
      obtain ⟨hstart, rfl⟩ := step_eq_ok hstep
      have hshort : name.utf8ByteSize ≤ nameLimit := by
        by_cases hname : isPlainName name = true
        · exact (isSome_of_step hname hstep).1
        · simp only [isPlainName, Bool.not_eq_true', Bool.not_eq_false, Bool.or_eq_true, beq_iff_eq] at hname
          rcases hname with (rfl | rfl) | rfl <;> decide
      rw [List.scanl_cons, List.forall_mem_cons, List.forall_mem_cons]
      exact ⟨⟨hshort, (ih hrest).1⟩, hstart, (ih hrest).2⟩

end FileTree

/-- The steps of a path end in a name that a file can have, and do not come by where they lead to. -/
structure Path.LeadsToFile (path : String) (start front : List String) (name : String) : Prop where
  steps : stepsOf path = front ++ [name]
  check : checkPath path = .ok ()
  fileName : IsFileName name
  short : ∀ step ∈ front, step.utf8ByteSize ≤ nameLimit
  apart : (stepsOf path).foldl stepPlace start ∉ front.scanl stepPlace start

theorem Path.exists_leadsToFile {bytes : ByteArray} (h : t.write path bytes = .ok t') :
    ∃ front name, LeadsToFile path (t.origin path) front name := by
  obtain ⟨above, name, hlast, hplain, hshort⟩ := resolveLast_of_write h
  obtain ⟨hcheck, hfold, hdir, hname, hslash⟩ := resolveLast_eq_ok_iff.1 hlast
  obtain ⟨n, hsteps⟩ := exists_stepsOf path
  obtain ⟨rest, hnamed⟩ : ∃ rest, namedSteps path = name :: rest := by
    cases hnamed : namedSteps path with
    | nil =>
        rw [hnamed] at hname
        subst hname
        cases hplain
    | cons last rest =>
        rw [hnamed] at hname
        exact ⟨rest, by rw [← hname]; rfl⟩
  obtain rfl : n = 0 := by
    have hlength := congrArg List.length hsteps
    simp only [List.length_append, List.length_reverse, List.length_replicate] at hlength
    simp only [List.length_reverse, decide_eq_false_iff_not] at hslash
    omega
  rw [hnamed, List.replicate_zero, List.append_nil, List.reverse_cons] at hsteps
  rw [hnamed, List.tail_cons] at hfold
  obtain ⟨hshorts, hdirs⟩ := of_foldlM_step hfold hdir
  have hnul : '\x00' ∉ name.toList := fun hmem =>
    (checkPath_eq_ok_iff.1 hcheck).1 (toList_subset_of_mem_stepsOf (hsteps ▸ by simp) hmem)
  refine ⟨rest.reverse, name, hsteps, hcheck, ?_, hshorts, fun hmem => ?_⟩
  · exact ⟨hplain, (isSegment_of_resolveLast hlast hplain).slash, hnul, hshort⟩
  · have hfile := (write_eq_ok h).2.1
    rw [placeOf] at hfile
    have hthere := hdirs _ hmem
    rw [origin, hfile] at hthere
    cases hthere

theorem Path.sublist_join_right (root path : String) : List.Sublist path.toList (join root path).toList := by
  unfold join
  split
  · exact .refl _
  · split <;> simp

/-- Behind some root of some tree, the file of a target can be written. -/
def Keepable (target : String) : Prop :=
  ∃ (d : DataDirectory) (t t' : FileTree) (bytes : ByteArray), t.write (d.pathOf target) bytes = .ok t'

/-- What a target needs to be kept behind a root, it has by itself. -/
theorem Keepable.exists_leadsToFile (h : Keepable target) :
    ∃ here root front name, Path.LeadsToFile target (startOf here root target) front name := by
  obtain ⟨d, t, t', bytes, hwrite⟩ := h
  obtain ⟨front, name, hpath⟩ := Path.exists_leadsToFile hwrite
  obtain ⟨before, hsteps, hbefore⟩ := exists_stepsOf_join_path t.here d.root target
  have hne : stepsOf target ≠ [] := by simp [stepsOf]
  obtain ⟨inner, last, htarget⟩ := (List.eq_nil_or_concat' (stepsOf target)).resolve_left hne
  have hends : front ++ [name] = (before ++ inner) ++ [last] := by
    rw [← hpath.steps, DataDirectory.pathOf, hsteps, htarget, List.append_assoc]
  obtain ⟨rfl, hlast⟩ := List.append_inj' hends rfl
  obtain rfl : name = last := List.head_eq_of_cons_eq hlast
  refine ⟨t.here, d.root, inner, name, htarget, ?_, hpath.fileName, ?_, ?_⟩
  · have hempty : target ≠ "" := by
      rintro rfl
      have hname : name ∈ stepsOf "" := by rw [htarget]; simp
      have hsteps : stepsOf "" = [""] := rfl
      rw [hsteps, List.mem_singleton] at hname
      exact hpath.fileName.segment.ne_nil (by rw [hname]; rfl)
    exact Path.checkPath_of_sublist hempty (Path.sublist_join_right d.root target) hpath.check
  · exact fun step hstep => hpath.short step (List.mem_append_right _ hstep)
  · have hapart := hpath.apart
    rw [DataDirectory.pathOf, hsteps, List.foldl_append, origin, hbefore] at hapart
    intro hmem
    apply hapart
    rw [mem_scanl_append, hbefore]
    exact .inr hmem

namespace Path.LeadsToFile

/-- The file is apart from the way to it also from a deep directory with a name that is not on the way. -/
theorem deep (h : LeadsToFile path start front name) (hfresh : fresh ∉ stepsOf path)
    (hn : (stepsOf path).length ≤ n) : LeadsToFile path (List.replicate n fresh) front name where
  __ := h
  apart := by
    intro hmem
    obtain ⟨before, hbefore, hplace⟩ := mem_scanl_iff.1 hmem
    have hsub : before <+: stepsOf path := by
      rw [h.steps]
      exact hbefore.trans (List.prefix_append _ _)
    have hup (names : List String) (hnames : names <+: stepsOf path) : (Way.ofSteps names).up ≤ n := by
      have hle := Way.up_ofSteps_le names
      have hlength := hnames.length_le
      omega
    have hdown (names : List String) (hnames : names <+: stepsOf path) : fresh ∉ (Way.ofSteps names).down :=
      Way.not_mem_down_ofSteps fun hmem => hfresh (hnames.subset hmem)
    rw [Way.foldl_stepPlace, Way.foldl_stepPlace] at hplace
    -- one place means one way here, and one way leads to one place wherever it begins
    have hway : Way.ofSteps before = Way.ofSteps (stepsOf path) :=
      Way.eq_of_place (hup _ hsub) (hup _ List.prefix_rfl) (hdown _ hsub) (hdown _ List.prefix_rfl) hplace
    refine h.apart (mem_scanl_iff.2 ⟨before, hbefore, ?_⟩)
    rw [Way.foldl_stepPlace, Way.foldl_stepPlace, hway]

/-- In a tree of directories only, where nothing is at the place of the file, it can be written. -/
theorem written {σ : Type} [HasTree σ] {s : σ} (h : LeadsToFile path ((tree s).origin path) front name)
    (ht : (tree s).Sound) (hclear : ∀ q bytes, (tree s).at? q ≠ some (.file bytes))
    (hfree : (tree s).at? (placeOf (tree s).here path) = none) (bytes : ByteArray) :
    (after ((access (m := StateM σ)).writeDeep path bytes) s).1 = .ok () := by
  obtain ⟨root, rfl⟩ := exists_join_of_stepsOf h.steps h.fileName.slash
  obtain ⟨front', hsteps, -, hplace, htrail⟩ := exists_way (tree s).here root h.fileName.slash
  obtain rfl : front' = front := (List.append_inj' (hsteps.symm.trans h.steps) rfl).1
  have hpassable : (tree s).Passable (Path.join root name) := by
    refine ⟨fun step hstep => ?_, fun q _ => hclear q⟩
    rw [h.steps, List.mem_append, List.mem_singleton] at hstep
    rcases hstep with hfront | rfl
    · exact h.short step hfront
    · exact h.fileName.short
  have hfile : placeOf (tree s).here root ++ [name] = placeOf (tree s).here (Path.join root name) := by
    rw [placeOf_join _ _ h.fileName.slash, stepPlace_of_isPlainName h.fileName.plain]
  have hapart : placeOf (tree s).here root ++ [name] ∉ trail (tree s).here root := by
    rw [← htrail, hfile]
    exact h.apart
  have hdir : (tree s).isDirectoryAt (placeOf (tree s).here root ++ [name]) = false := by
    rw [hfile, isDirectoryAt, hfree]
  obtain ⟨t, -, hwritten⟩ := after_writeDeep_join ht (hpassable.of_join h.fileName.slash) h.fileName h.check
    hapart hdir bytes
  rw [hwritten]

end Path.LeadsToFile

/-! ### Escapes -/

/-- A data directory is there, and the file of a target can be written outside of it, where nothing is yet. -/
structure Escapes (target : String) (d : DataDirectory) (t : FileTree) (place : List String) : Prop where
  sound : t.Sound
  stands : d.StandsAt t place
  outside : ¬ place <+: placeOf t.here (d.pathOf target)
  free : t.at? (placeOf t.here (d.pathOf target)) = none
  written {σ : Type} [HasTree σ] {s : σ} (h : tree s = t) (bytes : ByteArray) :
    (after ((access (m := StateM σ)).writeDeep (d.pathOf target) bytes) s).1 = .ok ()

theorem exists_fresh (path : String) : ∃ fresh, Path.IsSegment fresh ∧ fresh ∉ stepsOf path := by
  let name (n : ℕ) : String := String.ofList ('x' :: List.replicate n 'x')
  have hname : Function.Injective name := by
    intro n n' h
    have hlength := congrArg (fun s : String => s.toList.length) h
    simpa [name] using hlength
  obtain ⟨n, hn⟩ := Infinite.exists_notMem_finset ((stepsOf path).toFinset.preimage name hname.injOn)
  rw [Finset.mem_preimage, List.mem_toFinset] at hn
  refine ⟨name n, ⟨?_, ?_⟩, hn⟩
  · simp [name, isPlainName, ← String.toList_inj]
  · simp [name]

/-- Steps that go up, or begin at the root, lead out of a deep directory. -/
theorem not_below_of_not_confined (hconfined : ¬ Path.Confined target) (hfresh : fresh ∉ stepsOf target)
    (hn : (stepsOf target).length < n) :
    ¬ List.replicate n fresh <+: placeOf (List.replicate n fresh) target := by
  have hdown : fresh ∉ (Way.ofSteps (stepsOf target)).down := Way.not_mem_down_ofSteps hfresh
  rw [placeOf]
  split
  · rw [Way.foldl_stepPlace, Way.place, List.take_nil, List.nil_append]
    intro hbelow
    exact hdown (hbelow.subset (List.mem_replicate.2 ⟨by omega, rfl⟩))
  · rename_i hrelative
    have hclimbs : 0 < (Way.ofSteps (stepsOf target)).up := by
      apply Nat.pos_of_ne_zero
      intro hzero
      exact hconfined ⟨hrelative, (Way.staysInside_iff (stepsOf target) ⟨0, []⟩).2 hzero⟩
    rw [Way.foldl_stepPlace]
    exact Way.not_below hclimbs ((Way.up_ofSteps_le _).trans hn.le) hdown

/-- A target that can be kept and is not confined escapes from some data directory. -/
theorem exists_escape (hkeepable : Keepable target) (hconfined : ¬ Path.Confined target) :
    ∃ d t place, Escapes target d t place := by
  obtain ⟨here, root, front, name, h⟩ := hkeepable.exists_leadsToFile
  obtain ⟨fresh, hsegment, hfresh⟩ := exists_fresh target
  -- deeper than the target has steps, so that no way up reaches the root of the tree
  let base := List.replicate ((stepsOf target).length + 1) fresh
  have hsegments : ∀ step ∈ base, Path.IsSegment step := fun step hstep =>
    List.eq_of_mem_replicate hstep ▸ hsegment
  have hsound : (startingAt base).Sound := sound_startingAt hsegments
  have hpath : DataDirectory.pathOf ⟨""⟩ target = target := by
    rw [DataDirectory.pathOf, Path.join]
    split
    · rfl
    · rw [if_pos (.inl rfl), String.empty_append]
  have hleads : Path.LeadsToFile target ((startingAt base).origin target) front name := by
    rw [origin]
    split
    · rename_i habsolute
      rwa [startOf, if_pos habsolute] at h
    · exact h.deep hfresh (Nat.le_succ _)
  have hfree : (startingAt base).at? (placeOf base target) = none := by
    by_contra hthere
    have hbelow := prefix_of_isSome_startingAt (Option.isSome_iff_ne_none.2 hthere)
    have hname : name ∈ placeOf base target := by
      rw [placeOf, h.steps, List.foldl_append, List.foldl_cons, List.foldl_nil,
        stepPlace_of_isPlainName h.fileName.plain]
      simp
    have heq : name = fresh := List.eq_of_mem_replicate (hbelow.subset hname)
    exact hfresh (heq ▸ h.steps ▸ by simp)
  refine ⟨⟨""⟩, startingAt base, base, ⟨hsound, ⟨?_, hsound.here⟩, ?_, ?_, ?_⟩⟩
  · rw [if_pos rfl]
    rfl
  · rw [hpath]
    exact not_below_of_not_confined hconfined hfresh (Nat.lt_succ_self _)
  · rw [hpath]
    exact hfree
  · intro σ _ s htree bytes
    rw [hpath]
    refine Path.LeadsToFile.written (htree ▸ hleads) (htree ▸ hsound) ?_ ?_ bytes
    · rw [htree]
      exact at?_startingAt_ne_file base
    · rw [htree]
      exact hfree

end StaticPage
