import StaticPage.Proofs.Files.Chains

/-!
# Paths that directories can be made for

A path is passable if no file stands at any place that it comes by. What happens to such a path depends on one
thing only: whether all places of its trail are there. If they are, it can be followed; if not, nothing is
found, and the directories that are missing can be made, `after_makeDirectories_respell`. So a file behind a
passable path can always be written, and nothing changes but that file and the directories on the way,
`after_writeDeep_join`.
-/

namespace StaticPage.FileTree

variable {t t' : FileTree} {here place q : List String} {path root name : String} {names : List String}

/-- Nothing but directories is on the way of a path, and its steps are not too long. -/
structure Passable (t : FileTree) (path : String) : Prop where
  short : ∀ name ∈ stepsOf path, name.utf8ByteSize ≤ nameLimit
  clear : ∀ q ∈ trail t.here path, ∀ bytes, t.at? q ≠ some (.file bytes)

/-! ### Following a path -/

/-- A step from a directory of a sound tree can be taken if it leads to something. -/
theorem Sound.step_eq (ht : t.Sound) (hdir : t.isDirectoryAt place = true)
    (hshort : name.utf8ByteSize ≤ nameLimit) : t.step place name =
      if (t.at? (stepPlace place name)).isSome then .ok (stepPlace place name) else .error .notFound := by
  have hthere := isSome_of_isDirectoryAt hdir
  by_cases hname : isPlainName name = true
  · rw [stepPlace_of_isPlainName hname, step_of_isPlainName hname hdir hshort]
  · simp only [isPlainName, Bool.not_eq_true', Bool.not_eq_false, Bool.or_eq_true, beq_iff_eq] at hname
    rw [step, stepPlace, if_neg (by simp [hdir])]
    rcases hname with hstay | rfl
    · rw [if_pos hstay, if_pos hstay, if_pos hthere]
    · have hup : (t.at? place.dropLast).isSome = true := ht.isSome_dropLast hthere
      simp [hup]

theorem isDirectoryAt_of_clear (hthere : (t.at? place).isSome = true)
    (hclear : ∀ bytes, t.at? place ≠ some (.file bytes)) : t.isDirectoryAt place = true := by
  obtain ⟨entry, hentry⟩ := Option.isSome_iff_exists.1 hthere
  cases entry with
  | file bytes => exact absurd hentry (hclear bytes)
  | directory => exact isDirectoryAt_iff.2 hentry

/-- Steps by which no file stands can be taken if all their places are there. -/
theorem Sound.foldlM_eq (ht : t.Sound) (hdir : t.isDirectoryAt place = true)
    (hshort : ∀ name ∈ names, name.utf8ByteSize ≤ nameLimit)
    (hclear : ∀ q ∈ names.scanl stepPlace place, ∀ bytes, t.at? q ≠ some (.file bytes)) :
    names.foldlM t.step place =
      if (names.scanl stepPlace place).all fun q => (t.at? q).isSome then .ok (names.foldl stepPlace place)
      else .error .notFound := by
  have hthere := isSome_of_isDirectoryAt hdir
  induction names generalizing place with
  | nil => simp [hthere, pure, Except.pure]
  | cons name rest ih =>
      rw [List.forall_mem_cons] at hshort
      rw [List.scanl_cons, List.forall_mem_cons] at hclear
      rw [List.foldlM_cons, ht.step_eq hdir hshort.1, List.scanl_cons, List.all_cons, hthere,
        Bool.true_and, List.foldl_cons]
      by_cases hnext : (t.at? (stepPlace place name)).isSome = true
      · have hnextdir := isDirectoryAt_of_clear hnext (hclear.2 _ (mem_scanl_start rest _))
        rw [if_pos hnext]
        exact ih hnextdir hshort.2 hclear.2 hnext
      · have hmissing : ¬ ((rest.scanl stepPlace (stepPlace place name)).all fun q =>
            (t.at? q).isSome) = true :=
          fun hall => hnext (List.all_eq_true.1 hall _ (mem_scanl_start rest _))
        rw [if_neg hnext, if_neg hmissing]
        rfl

theorem hasTrail_empty (ht : t.Sound) : t.hasTrail "" = true := by
  have htrail : trail t.here "" = [t.here, t.here] := rfl
  rw [hasTrail_iff, htrail]
  simpa using isSome_of_isDirectoryAt ht.here

theorem hasTrail_congr (h : ∀ q, q ∈ trail t.here path ↔ q ∈ trail t.here root) :
    t.hasTrail path = t.hasTrail root := by
  rw [Bool.eq_iff_iff, hasTrail_iff, hasTrail_iff]
  simp only [h]

theorem hasTrail_join_iff (hslash : '/' ∉ name.toList) : t.hasTrail (Path.join root name) = true ↔
    t.hasTrail root = true ∧ (t.at? (stepPlace (placeOf t.here root) name)).isSome = true := by
  rw [hasTrail_iff, hasTrail_iff]
  simp only [mem_trail_join hslash, or_imp, forall_and, forall_eq]

namespace Passable

theorem keepsBut {changed : List (List String)} (h : t.Passable path) (hkeeps : KeepsBut changed t t')
    (hchanged : ∀ q ∈ changed, q ∉ trail t.here path) : t'.Passable path where
  short := h.short
  clear q hq bytes hat := by
    rw [hkeeps.here] at hq
    exact h.clear q hq bytes (hkeeps.only (fun hmem => hchanged q hmem hq) hat)

theorem grows (h : t.Passable path) (hgrows : Grows t t') : t'.Passable path :=
  h.keepsBut (hgrows.keepsBut []) (by simp)

theorem isDirectoryAt (h : t.Passable path) (htrail : t.hasTrail path = true) :
    t.isDirectoryAt (placeOf t.here path) = true :=
  have hlast := placeOf_mem_trail t.here path
  isDirectoryAt_of_clear (hasTrail_iff.1 htrail _ hlast) (h.clear _ hlast)

theorem respell (h : t.Passable path) : t.Passable (Path.respell path) := by
  refine ⟨fun name hname => ?_, fun q hq => h.clear q (mem_trail_respell.1 hq)⟩
  by_cases hpath : path = ""
  · subst hpath
    exact h.short name hname
  · by_cases hstay : (name == "" || name == ".") = true
    · simp only [Bool.or_eq_true, beq_iff_eq] at hstay
      rcases hstay with rfl | rfl <;> decide
    · have hessential : name ∈ essential (stepsOf (Path.respell path)) :=
        List.mem_filter.2 ⟨hname, by simp [hstay]⟩
      rw [Path.essential_stepsOf_respell hpath] at hessential
      exact h.short name (List.mem_of_mem_filter hessential)

theorem of_join (hslash : '/' ∉ name.toList) (h : t.Passable (Path.join root name)) : t.Passable root := by
  refine ⟨fun other hother => ?_, fun q hq => h.clear q ((mem_trail_join hslash).2 (.inl hq))⟩
  by_cases hroot : root = ""
  · subst hroot
    have hsteps : stepsOf "" = [""] := rfl
    rw [hsteps, List.mem_singleton] at hother
    subst hother
    exact Nat.zero_le _
  · obtain ⟨front, hsteps, hroots⟩ := exists_stepsOf_join hslash hroot
    have hfront (hmem : other ∈ front) : other.utf8ByteSize ≤ nameLimit :=
      h.short other (hsteps ▸ List.mem_append_left _ hmem)
    rcases hroots with hroots | hroots
    · exact hfront (hroots ▸ hother)
    · rw [hroots, List.mem_append, List.mem_singleton] at hother
      rcases hother with hmem | rfl
      · exact hfront hmem
      · exact Nat.zero_le _

variable (ht : t.Sound) (h : t.Passable path)

include ht h

theorem resolve_eq (hcheck : checkPath path = .ok ()) : t.resolve path =
    if t.hasTrail path then .ok (placeOf t.here path) else .error .notFound := by
  have hfold := ht.foldlM_eq (ht.isDirectoryAt_origin path) h.short h.clear
  rw [resolve, hcheck]
  exact hfold

theorem isDirectory (hcheck : checkPath path = .ok ()) (htrail : t.hasTrail path = true) :
    t.isDirectory path = true := by
  have hresolve := h.resolve_eq ht hcheck
  rw [if_pos htrail] at hresolve
  exact isDirectory_iff.2 ⟨_, hresolve, h.isDirectoryAt htrail⟩

/-- The last step behind a passable path is looked up where the path leads. -/
theorem resolveLast_join (hname : Path.IsStep name) (hcheck : checkPath (Path.join path name) = .ok ()) :
    t.resolveLast (Path.join path name) =
      if t.hasTrail path then .ok (placeOf t.here path, name, false) else .error .notFound := by
  obtain ⟨front, hsteps, hmem, hplace, htrail⟩ := exists_way t.here path hname.slash
  have hnamed : namedSteps (Path.join path name) = name :: front.reverse := by
    rw [namedSteps, hsteps, List.reverse_append, List.reverse_singleton, List.singleton_append,
      List.dropWhile_cons_of_neg (by simp [hname.ne_empty])]
  have hfold := ht.foldlM_eq (ht.isDirectoryAt_origin (Path.join path name))
    (fun name hname => h.short name (hmem name hname)) fun q hq => h.clear q ((htrail q).1 hq)
  have hall : ((front.scanl stepPlace (t.origin (Path.join path name))).all fun q => (t.at? q).isSome)
      = t.hasTrail path := by
    rw [Bool.eq_iff_iff, List.all_eq_true, hasTrail_iff]
    exact forall_congr' fun q => imp_congr_left (htrail q)
  rw [hall] at hfold
  by_cases hthere : t.hasTrail path = true
  · rw [if_pos hthere] at hfold ⊢
    rw [resolveLast_eq_ok_iff, hnamed, hsteps]
    refine ⟨hcheck, ?_, h.isDirectoryAt hthere, rfl, by simp⟩
    rw [List.tail_cons, List.reverse_reverse, hfold]
    exact congrArg Except.ok hplace
  · rw [if_neg hthere] at hfold ⊢
    rw [resolveLast_eq, hcheck, hnamed, List.tail_cons, List.reverse_reverse, hfold]
    rfl

end Passable

/-! ### Names behind a path -/

theorem placeOf_under (here : List String) (root : String) (hnames : ∀ name ∈ names, Path.IsSegment name) :
    placeOf here (Path.under root names) = placeOf here root ++ names := by
  induction names using List.reverseRecOn with
  | nil => simp
  | append_singleton names name ih =>
      rw [List.forall_mem_append, List.forall_mem_singleton] at hnames
      rw [Path.under_concat, placeOf_join _ _ hnames.2.slash, stepPlace_of_isPlainName hnames.2.plain,
        ih hnames.1, List.append_assoc]

theorem mem_trail_under (hnames : ∀ name ∈ names, Path.IsSegment name) :
    q ∈ trail here (Path.under root names) ↔
      q ∈ trail here root ∨ ∃ above, above <+: names ∧ q = placeOf here root ++ above := by
  induction names using List.reverseRecOn with
  | nil =>
      have hlast (h : q = placeOf here root) : q ∈ trail here root := h ▸ placeOf_mem_trail here root
      simpa using hlast
  | append_singleton names name ih =>
      rw [List.forall_mem_append, List.forall_mem_singleton] at hnames
      rw [Path.under_concat, mem_trail_join hnames.2.slash, ih hnames.1, placeOf_under _ _ hnames.1,
        stepPlace_of_isPlainName hnames.2.plain, or_assoc, List.append_assoc]
      simp only [List.prefix_concat_iff, or_and_right, exists_or, exists_eq_left, or_comm]

theorem mem_stepsOf_under (hnames : ∀ name ∈ names, Path.IsSegment name)
    (h : name ∈ stepsOf (Path.under root names)) : name ∈ stepsOf root ∨ name ∈ names := by
  induction names using List.reverseRecOn with
  | nil => exact .inl h
  | append_singleton names last ih =>
      rw [List.forall_mem_append, List.forall_mem_singleton] at hnames
      obtain ⟨front, hsteps, hfront, -⟩ := exists_way [] (Path.under root names) hnames.2.slash
      rw [Path.under_concat, hsteps, List.mem_append] at h
      rw [List.mem_append, ← or_assoc]
      exact h.imp_left fun h => ih hnames.1 (hfront name h)

/-- A passable path stays so behind names that no file stands at. -/
theorem Passable.under (h : t.Passable root) (hnames : ∀ name ∈ names, Path.IsFileName name)
    (hclear : ∀ above, above <+: names →
      ∀ bytes, t.at? (placeOf t.here root ++ above) ≠ some (.file bytes)) :
    t.Passable (Path.under root names) := by
  have hsegments (name : String) (hname : name ∈ names) : Path.IsSegment name := (hnames name hname).segment
  refine ⟨fun name hname => ?_, fun q hq => ?_⟩
  · rcases mem_stepsOf_under hsegments hname with hroot | hmem
    · exact h.short name hroot
    · exact (hnames name hmem).short
  · rcases (mem_trail_under hsegments).1 hq with hroot | ⟨above, habove, rfl⟩
    · exact h.clear q hroot
    · exact hclear above habove

/-! ### Making directories -/

theorem isPlainName_of_missing (ht : t.Sound) (hdir : t.isDirectoryAt place = true)
    (hname : Path.IsStep name) (hmissing : ¬ (t.at? (stepPlace place name)).isSome = true) :
    isPlainName name = true := by
  apply hname.isPlainName
  rintro rfl
  exact hmissing (ht.isSome_dropLast (isSome_of_isDirectoryAt hdir))

theorem makeDirectory_join (ht : t.Sound) (hname : Path.IsStep name)
    (h : t.Passable (Path.join root name)) (hcheck : checkPath (Path.join root name) = .ok ()) :
    t.makeDirectory (Path.join root name) =
      if t.hasTrail (Path.join root name) then .error .alreadyExists
      else if t.hasTrail root then .ok (t.put (placeOf t.here (Path.join root name)) .directory)
      else .error .notFound := by
  have hroot : t.Passable root := h.of_join hname.slash
  have hlast := hroot.resolveLast_join ht hname hcheck
  by_cases hall : t.hasTrail (Path.join root name) = true
  · rw [if_pos hall]
    exact makeDirectory_of_resolve ((h.resolve_eq ht hcheck).trans (if_pos hall))
  · rw [if_neg hall]
    by_cases hthere : t.hasTrail root = true
    · have hmissing : ¬ (t.at? (stepPlace (placeOf t.here root) name)).isSome = true :=
        fun hnext => hall ((hasTrail_join_iff hname.slash).2 ⟨hthere, hnext⟩)
      have hplain := isPlainName_of_missing ht (hroot.isDirectoryAt hthere) hname hmissing
      have hshort : name.utf8ByteSize ≤ nameLimit := by
        obtain ⟨front, hsteps, -⟩ := exists_way t.here root hname.slash
        exact h.short name (hsteps ▸ List.mem_append_right _ (List.mem_singleton_self name))
      rw [if_pos hthere] at hlast ⊢
      rw [placeOf_join _ _ hname.slash]
      rw [stepPlace_of_isPlainName hplain] at hmissing ⊢
      rw [makeDirectory, hlast]
      simp [bind, Except.bind, hplain, Nat.not_lt.2 hshort, hmissing]
      rfl
    · rw [if_neg hthere] at hlast ⊢
      rw [makeDirectory, hlast]
      rfl

/-- From one tree to another, what stands anywhere but at some places is the same. -/
def SameBut (changed : List (List String)) (t t' : FileTree) : Prop :=
  ∀ q ∉ changed, t'.at? q = t.at? q

theorem SameBut.refl (changed : List (List String)) (t : FileTree) : SameBut changed t t :=
  fun _ _ => rfl

theorem SameBut.trans {changed : List (List String)} {t'' : FileTree} (h : SameBut changed t t')
    (h' : SameBut changed t' t'') : SameBut changed t t'' :=
  fun q hq => (h' q hq).trans (h q hq)

theorem SameBut.mono {changed changed' : List (List String)} (h : SameBut changed t t')
    (hsub : changed ⊆ changed') : SameBut changed' t t' :=
  fun q hq => h q fun hmem => hq (hsub hmem)

theorem sameBut_put {changed : List (List String)} (hplace : place ∈ changed) (entry : FileEntry) :
    SameBut changed t (t.put place entry) :=
  fun _ hq => at?_put_of_ne t (ne_of_mem_of_not_mem hplace hq).symm entry

theorem trail_subset_join (here : List String) (root : String) (hslash : '/' ∉ name.toList) :
    trail here root ⊆ trail here (Path.join root name) :=
  fun _ hq => (mem_trail_join hslash).2 (.inl hq)

variable {σ : Type} [HasTree σ] {s : σ}

/-- Behind a directory that is there, one more is made or is there already. -/
theorem after_attempt_join (ht : (tree s).Sound) (hname : Path.IsStep name)
    (h : (tree s).Passable (Path.join root name)) (hcheck : checkPath (Path.join root name) = .ok ())
    (hthere : (tree s).hasTrail root = true) :
    ∃ t, SameBut (trail (tree s).here (Path.join root name)) (tree s) t ∧
      after (FileAccess.makeDirectoriesFrom.attempt (access (m := StateM σ)) (Path.join root name)) s
        = (.ok (), withTree s t) := by
  rw [FileAccess.makeDirectoriesFrom.attempt, if_neg hname.join_ne_empty, after_bind,
    after_makeDirectory, makeDirectory_join ht hname h hcheck]
  by_cases hall : (tree s).hasTrail (Path.join root name) = true
  · refine ⟨tree s, .refl _ _, ?_⟩
    rw [if_pos hall, HasTree.withTree_tree]
    exact after_unlessDirectory_of_isDirectory (h.isDirectory ht hcheck hall) _
  · rw [if_neg hall, if_pos hthere]
    exact ⟨_, sameBut_put (placeOf_mem_trail _ _) _, rfl⟩

theorem isDirectory_front (ht : t.Sound) (h : t.Passable (Path.front path)) :
    Path.front path = "" ∨ t.isDirectory (Path.front path) = true := by
  rcases Path.front_cases path with hfront | hfront | hfront
  · exact .inl hfront
  · rw [hfront] at h ⊢
    have htrail : trail t.here "/" = [[], [], []] := rfl
    refine .inr (h.isDirectory ht (by decide) ?_)
    rw [hasTrail_iff, htrail]
    simp [at?]
  · rw [hfront] at h ⊢
    have htrail : trail t.here "." = [t.here, t.here] := rfl
    refine .inr (h.isDirectory ht (by decide) ?_)
    rw [hasTrail_iff, htrail]
    simpa using isSome_of_isDirectoryAt ht.here

theorem hasTrail_of_made (ht : t.Sound)
    (hmade : after ((access (m := StateM σ)).makeDirectories path) s = (.ok (), withTree s t)) :
    t.hasTrail path = true := by
  have hdir := isDirectory_of_makeDirectories hmade
  rw [HasTree.tree_withTree] at hdir
  rcases hdir with rfl | hdir
  · exact hasTrail_empty ht
  · obtain ⟨place, hresolve, -⟩ := isDirectory_iff.1 hdir
    exact ht.hasTrail_of_resolve hresolve

theorem grows_of_made
    (hmade : after ((access (m := StateM σ)).makeDirectories path) s = (.ok (), withTree s t)) :
    Grows (tree s) t := by
  obtain ⟨t', heq, hgrows⟩ := grows_makeDirectories hmade
  exact HasTree.withTree_injective s heq ▸ hgrows

/-- The directories of a passable chain can be made, and nothing else changes. -/
theorem after_makeDirectories_under (ht : (tree s).Sound) (hnames : ∀ name ∈ names, Path.IsStep name)
    (h : (tree s).Passable (Path.under (Path.front path) names))
    (hcheck : Path.under (Path.front path) names ≠ "" →
      checkPath (Path.under (Path.front path) names) = .ok ()) :
    ∃ t, SameBut (trail (tree s).here (Path.under (Path.front path) names)) (tree s) t ∧
      after ((access (m := StateM σ)).makeDirectories (Path.under (Path.front path) names)) s
        = (.ok (), withTree s t) := by
  induction names using List.reverseRecOn with
  | nil =>
      refine ⟨tree s, .refl _ _, ?_⟩
      rw [HasTree.withTree_tree]
      exact makeDirectories_again (isDirectory_front ht h)
  | append_singleton names name ih =>
      rw [List.forall_mem_append, List.forall_mem_singleton] at hnames
      obtain ⟨hnames, hname⟩ := hnames
      rw [Path.under_concat] at h hcheck ⊢
      specialize hcheck hname.join_ne_empty
      generalize hroot : Path.under (Path.front path) names = root at h hcheck ih ⊢
      have hrespell : Path.respell root = root := by
        rw [← hroot]
        exact Path.respell_under_front path hnames
      have hmore := trail_subset_join (tree s).here root hname.slash
      rw [FileAccess.makeDirectories, Path.ancestors_join hname, hrespell, FileAccess.makeDirectoriesFrom,
        if_neg hname.join_ne_empty, after_bind, after_makeDirectory,
        makeDirectory_join ht hname h hcheck]
      by_cases hall : (tree s).hasTrail (Path.join root name) = true
      · refine ⟨tree s, .refl _ _, ?_⟩
        rw [if_pos hall, HasTree.withTree_tree]
        exact after_unlessDirectory_of_isDirectory (h.isDirectory ht hcheck hall) _
      · rw [if_neg hall]
        by_cases hthere : (tree s).hasTrail root = true
        · rw [if_pos hthere]
          exact ⟨_, sameBut_put (placeOf_mem_trail _ _) _, rfl⟩
        · -- the directory before the last step is missing: it is made first
          obtain ⟨t, hsame, hmade⟩ := ih hnames (h.of_join hname.slash) fun hne =>
            Path.checkPath_of_sublist hne (Path.sublist_join hname.slash) hcheck
          have hgrows := grows_of_made hmade
          obtain ⟨t', hsame', hattempt⟩ := after_attempt_join (s := withTree s t)
            (by simpa using hgrows.sound ht) hname (by simpa using h.grows hgrows) hcheck
            (by simpa using hasTrail_of_made (hgrows.sound ht) hmade)
          rw [HasTree.tree_withTree, hgrows.here] at hsame'
          refine ⟨t', (hsame.mono hmore).trans hsame', ?_⟩
          rw [FileAccess.makeDirectories] at hmade
          rw [if_neg hthere]
          dsimp only
          rw [after_bind, hmade]
          dsimp only
          rw [hattempt, HasTree.withTree_withTree]

/-- The directories of a passable path can be made. -/
theorem after_makeDirectories_respell (ht : (tree s).Sound) (h : (tree s).Passable path)
    (hcheck : path ≠ "" → checkPath path = .ok ()) :
    ∃ t, SameBut (trail (tree s).here path) (tree s) t ∧ Grows (tree s) t ∧ t.hasTrail path = true ∧
      after ((access (m := StateM σ)).makeDirectories (Path.respell path)) s = (.ok (), withTree s t) := by
  have hrespell : (tree s).Passable (Path.respell path) := h.respell
  have hcheck' (hne : Path.respell path ≠ "") : checkPath (Path.respell path) = .ok () := by
    have hpath : path ≠ "" := by
      rintro rfl
      exact hne rfl
    exact Path.checkPath_of_sublist hne (Path.respell_sublist path) (hcheck hpath)
  have hmade : ∃ t, SameBut (trail (tree s).here (Path.respell path)) (tree s) t ∧
      after ((access (m := StateM σ)).makeDirectories (Path.respell path)) s = (.ok (), withTree s t) := by
    rw [Path.respell_eq] at hrespell hcheck' ⊢
    exact after_makeDirectories_under ht (fun _ hname => Path.isStep_of_mem_essential hname) hrespell hcheck'
  obtain ⟨t, hsame, hmade⟩ := hmade
  have hgrows := grows_of_made hmade
  refine ⟨t, hsame.mono fun q hq => mem_trail_respell.1 hq, hgrows, ?_, hmade⟩
  rw [← hasTrail_of_made (hgrows.sound ht) hmade]
  exact hasTrail_congr fun q => mem_trail_respell.symm

/-- A file behind a passable path is written, and nothing changes but it and the directories on the way. -/
theorem after_writeDeep_join (ht : (tree s).Sound) (h : (tree s).Passable root)
    (hname : Path.IsFileName name) (hcheck : checkPath (Path.join root name) = .ok ())
    (hplace : placeOf (tree s).here root ++ [name] ∉ trail (tree s).here root)
    (hdir : (tree s).isDirectoryAt (placeOf (tree s).here root ++ [name]) = false) (bytes : ByteArray) :
    ∃ t, SameBut ((placeOf (tree s).here root ++ [name]) :: trail (tree s).here root) (tree s) t ∧
      after ((access (m := StateM σ)).writeDeep (Path.join root name) bytes) s = (.ok (), withTree s t) := by
  obtain ⟨t, hsame, hgrows, hthere, hmade⟩ := after_makeDirectories_respell ht h fun hne =>
    Path.checkPath_of_sublist hne (Path.sublist_join hname.slash) hcheck
  have hlast := (h.grows hgrows).resolveLast_join (hgrows.sound ht) hname.segment.isStep hcheck
  rw [if_pos hthere, hgrows.here] at hlast
  have hstays : t.isDirectoryAt (placeOf (tree s).here root ++ [name]) = false := by
    rw [← hdir, isDirectoryAt, isDirectoryAt, hsame _ hplace]
  have hwrite : t.write (Path.join root name) bytes
      = .ok (t.put (placeOf (tree s).here root ++ [name]) (.file bytes)) := by
    rw [write, hlast]
    simp [bind, Except.bind, hname.plain, Nat.not_lt.2 hname.short, hstays]
    rfl
  refine ⟨t.put (placeOf (tree s).here root ++ [name]) (.file bytes), ?_, ?_⟩
  · exact (hsame.mono (List.subset_cons_self _ _)).trans (sameBut_put List.mem_cons_self _)
  · rw [FileAccess.writeDeep, Path.parent?_join hname.segment]
    dsimp only
    rw [after_bind, hmade]
    dsimp only
    rw [after_write, HasTree.tree_withTree, hwrite]
    simp

end StaticPage.FileTree
