import StaticPage.Proofs.Files.Rewrites

/-!
# The places on the way of a path

The trail of a path is every place that its steps come by. A path can be followed only if something stands
at each of them, and where this is so already in an earlier tree, the path leads the same way in a later
one: `Evolves.resolve_eq`. A name behind a path makes its trail longer by one place, `mem_trail_join`.
-/

namespace StaticPage.FileTree

variable {t t' : FileTree} {changed : List (List String)} {here place q : List String}
  {path name : String}

/-- The places that the steps of a path come by, from where it begins to where it leads. -/
def trail (here : List String) (path : String) : List (List String) :=
  (stepsOf path).scanl stepPlace (if path.toList.head? = some '/' then [] else here)

/-- Something stands at every place that the steps of a path come by. -/
def hasTrail (t : FileTree) (path : String) : Bool :=
  (trail t.here path).all fun place => (t.at? place).isSome

theorem hasTrail_iff :
    t.hasTrail path = true ↔ ∀ place ∈ trail t.here path, (t.at? place).isSome = true :=
  List.all_eq_true

/-! ### Following a path -/

theorem mem_scanl_start (names : List String) (place : List String) :
    place ∈ names.scanl stepPlace place := by
  cases names with
  | nil => exact List.mem_singleton_self place
  | cons name rest =>
      rw [List.scanl_cons]
      exact List.mem_cons_self

theorem mem_scanl_append {front back : List String} :
    q ∈ (front ++ back).scanl stepPlace place ↔
      q ∈ front.scanl stepPlace place ∨ q ∈ back.scanl stepPlace (front.foldl stepPlace place) := by
  induction front generalizing place with
  | nil =>
      simp only [List.nil_append, List.scanl_nil, List.foldl_nil, List.mem_singleton]
      refine ⟨.inr, ?_⟩
      rintro (rfl | h)
      · exact mem_scanl_start back q
      · exact h
  | cons name rest ih =>
      simp only [List.cons_append, List.scanl_cons, List.mem_cons, List.foldl_cons, ih, or_assoc]

theorem foldl_mem_scanl (names : List String) (place : List String) :
    names.foldl stepPlace place ∈ names.scanl stepPlace place := by
  induction names generalizing place with
  | nil => exact List.mem_singleton_self place
  | cons name rest ih =>
      rw [List.scanl_cons]
      exact List.mem_cons_of_mem _ (ih _)

theorem placeOf_mem_trail (here : List String) (path : String) : placeOf here path ∈ trail here path :=
  foldl_mem_scanl _ _

/-- A path that can be followed in a sound tree has its trail there. -/
theorem Sound.hasTrail_of_resolve (ht : t.Sound) (h : t.resolve path = .ok place) :
    t.hasTrail path = true := by
  have hfollowed {names : List String} {start : List String} (hstart : (t.at? start).isSome = true)
      (hfold : names.foldlM t.step start = .ok place) :
      ∀ q ∈ names.scanl stepPlace start, (t.at? q).isSome = true := by
    induction names generalizing start with
    | nil => simpa using hstart
    | cons name rest ih =>
        rw [List.foldlM_cons] at hfold
        obtain ⟨next, hstep, hfold⟩ := except_bind_eq_ok.1 hfold
        rw [List.scanl_cons, List.forall_mem_cons, ← (step_eq_ok hstep).2]
        exact ⟨hstart, ih (ht.isSome_of_step_eq_ok hstep) hfold⟩
  obtain ⟨⟨⟩, -, hfold⟩ := except_bind_eq_ok.1 h
  exact hasTrail_iff.2 (hfollowed (isSome_of_isDirectoryAt (ht.isDirectoryAt_origin path)) hfold)

namespace Evolves

variable (h : Evolves changed t t')

include h

theorem step_eq (hplace : (t.at? place).isSome = true)
    (hnext : (t.at? (stepPlace place name)).isSome = true) : t'.step place name = t.step place name := by
  by_cases hname : isPlainName name = true
  · rw [stepPlace_of_isPlainName hname] at hnext
    rw [step, step, h.isDirectoryAt_eq hplace, hnext, h.isSome hnext]
  · simp only [isPlainName, Bool.not_eq_true', Bool.not_eq_false, Bool.or_eq_true, beq_iff_eq] at hname
    rw [step, step, h.isDirectoryAt_eq hplace]
    rcases hname with hname | rfl
    · rw [if_pos hname, if_pos hname]
    · rfl

theorem hasTrail (htrail : t.hasTrail path = true) : t'.hasTrail path = true := by
  rw [hasTrail_iff, h.here]
  exact fun q hq => h.isSome (hasTrail_iff.1 htrail q hq)

/-- A path whose trail is there already leads the same way in a later tree. -/
theorem resolve_eq (htrail : t.hasTrail path = true) : t'.resolve path = t.resolve path := by
  have hfollowed {names : List String} {start : List String}
      (hthere : ∀ q ∈ names.scanl stepPlace start, (t.at? q).isSome = true) :
      names.foldlM t'.step start = names.foldlM t.step start := by
    induction names generalizing start with
    | nil => rfl
    | cons name rest ih =>
        rw [List.scanl_cons, List.forall_mem_cons] at hthere
        have hnext := hthere.2 _ (mem_scanl_start rest _)
        rw [List.foldlM_cons, List.foldlM_cons, h.step_eq hthere.1 hnext]
        cases hstep : t.step start name with
        | error fault => rfl
        | ok next =>
            rw [← (FileTree.step_eq_ok hstep).2] at hthere
            exact ih hthere.2
  have hsteps : (stepsOf path).foldlM t'.step (t.origin path) = (stepsOf path).foldlM t.step (t.origin path) :=
    hfollowed (hasTrail_iff.1 htrail)
  rw [resolve, resolve, h.origin_eq, hsteps]

theorem isThere_eq (htrail : t.hasTrail path = true) : t'.isThere path = t.isThere path := by
  rw [isThere, isThere, h.resolve_eq htrail]

theorem isDirectory_eq (htrail : t.hasTrail path = true) : t'.isDirectory path = t.isDirectory path := by
  have hlast : (t.at? (placeOf t.here path)).isSome = true :=
    hasTrail_iff.1 htrail _ (placeOf_mem_trail _ _)
  unfold FileTree.isDirectory
  rw [h.resolve_eq htrail]
  split
  · rename_i place hresolve
    obtain rfl := FileTree.resolve_eq_ok hresolve
    exact h.isDirectoryAt_eq hlast
  · rfl

end Evolves

/-! ### A path spelled anew -/

theorem mem_scanl_essential {names : List String} :
    q ∈ (essential names).scanl stepPlace place ↔ q ∈ names.scanl stepPlace place := by
  induction names generalizing place with
  | nil => rfl
  | cons name rest ih =>
      rw [List.scanl_cons, List.mem_cons]
      by_cases hstay : (name == "" || name == ".") = true
      · have hplace : stepPlace place name = place := if_pos (by simpa using hstay)
        have hstart (h : q = place) : q ∈ rest.scanl stepPlace place := h ▸ mem_scanl_start rest place
        rw [essential, List.filter_cons_of_neg (by simp [hstay]), ← essential, ih, hplace,
          or_iff_right_of_imp hstart]
      · rw [essential, List.filter_cons_of_pos (by simp [hstay]), ← essential, List.scanl_cons,
          List.mem_cons, ih]

theorem mem_trail_respell : q ∈ trail here (Path.respell path) ↔ q ∈ trail here path := by
  by_cases hpath : path = ""
  · subst hpath
    rfl
  · rw [trail, trail, ← mem_scanl_essential, Path.essential_stepsOf_respell hpath, mem_scanl_essential]
    simp only [Path.head?_respell hpath]

/-! ### A name behind a path -/

variable {root : String}

/-- The steps before a name behind a path come by the trail of the path and lead where it leads. -/
theorem exists_way (here : List String) (root : String) (hslash : '/' ∉ name.toList) :
    ∃ front, stepsOf (Path.join root name) = front ++ [name] ∧ (∀ other ∈ front, other ∈ stepsOf root) ∧
      front.foldl stepPlace (if (Path.join root name).toList.head? = some '/' then [] else here)
        = placeOf here root ∧
      ∀ q, q ∈ front.scanl stepPlace
        (if (Path.join root name).toList.head? = some '/' then [] else here) ↔ q ∈ trail here root := by
  by_cases hroot : root = ""
  · subst hroot
    have htrail : trail here "" = [here, here] := rfl
    rw [Path.join_empty hslash, if_neg (Path.head?_ne_slash hslash), htrail]
    exact ⟨[], stepsOf_of_not_mem hslash, by simp, rfl, by simp⟩
  · obtain ⟨front, hsteps, hroots⟩ := exists_stepsOf_join hslash hroot
    refine ⟨front, hsteps, ?_⟩
    rw [Path.head?_join hslash hroot, placeOf, trail]
    generalize (if root.toList.head? = some '/' then [] else here) = start
    rcases hroots with hroots | hroots
    · rw [hroots]
      exact ⟨fun _ h => h, rfl, fun _ => .rfl⟩
    · rw [hroots, List.foldl_append]
      refine ⟨fun _ h => List.mem_append_left _ h, rfl, fun q => ?_⟩
      have hempty (place : List String) : stepPlace place "" = place := rfl
      have hlast (h : q = front.foldl stepPlace start) : q ∈ front.scanl stepPlace start :=
        h ▸ foldl_mem_scanl front start
      rw [mem_scanl_append]
      simp only [List.scanl_cons, List.scanl_nil, hempty, List.mem_cons, List.not_mem_nil, or_false,
        or_self]
      rw [or_iff_left_of_imp hlast]

theorem placeOf_join (here : List String) (root : String) (hslash : '/' ∉ name.toList) :
    placeOf here (Path.join root name) = stepPlace (placeOf here root) name := by
  obtain ⟨front, hsteps, -, hplace, -⟩ := exists_way here root hslash
  rw [placeOf, hsteps, List.foldl_append, hplace]
  rfl

theorem mem_trail_join (hslash : '/' ∉ name.toList) : q ∈ trail here (Path.join root name) ↔
    q ∈ trail here root ∨ q = stepPlace (placeOf here root) name := by
  obtain ⟨front, hsteps, -, hplace, htrail⟩ := exists_way here root hslash
  have hlast (h : q = placeOf here root) : q ∈ trail here root := h ▸ placeOf_mem_trail here root
  rw [trail, hsteps, mem_scanl_append, htrail, hplace]
  simp only [List.scanl_cons, List.scanl_nil, List.mem_cons, List.not_mem_nil, or_false]
  rw [← or_assoc, or_iff_left_of_imp hlast]

end StaticPage.FileTree
