import StaticPage.Proofs.Files.Trails

/-!
# Paths as chains of steps

A path that is spelled anew is a chain: a front, which is the root, a dot or nothing, and one step behind the
other. So an argument about all directories that a path is in goes by induction on its steps, with
`ancestors_join` for the steps before the last one.
-/

namespace StaticPage.Path

open FileTree

variable {root name path : String} {names : List String}

/-- A text that stands between slashes and leads away from a place: a name, or two dots. -/
structure IsStep (name : String) : Prop where
  slash : '/' ∉ name.toList
  moves : isComponent name.toList = true

/-- The path that leads from a directory on by some steps. -/
def under (root : String) (names : List String) : String :=
  names.foldl join root

@[simp] theorem under_nil (root : String) : under root [] = root := rfl

@[simp] theorem under_cons (root name : String) (names : List String) :
    under root (name :: names) = under (join root name) names := rfl

theorem under_concat (root : String) (names : List String) (name : String) :
    under root (names ++ [name]) = join (under root names) name :=
  List.foldl_append

/-! ### Steps -/

theorem IsSegment.isStep (h : IsSegment name) : IsStep name := by
  have hcomponent := h.ofText?
  refine ⟨h.slash, decide_eq_true fun hskip => ?_⟩
  rw [Component.ofText?, if_pos hskip] at hcomponent
  cases hcomponent

theorem IsStep.ne_nil (h : IsStep name) : name.toList ≠ [] := by
  intro hnil
  have hmoves := h.moves
  rw [hnil] at hmoves
  cases hmoves

theorem IsStep.ne_empty (h : IsStep name) : name ≠ "" := by
  rintro rfl
  exact h.ne_nil rfl

theorem IsStep.isPlainName (h : IsStep name) (hup : name ≠ "..") : isPlainName name = true := by
  have hdot : name ≠ "." := by
    rintro rfl
    have hmoves := h.moves
    revert hmoves
    decide
  simp [FileTree.isPlainName, h.ne_empty, hdot, hup]

theorem IsStep.exists_ofText? (h : IsStep name) :
    ∃ c, Component.ofText? name.toList = some c ∧ c ≠ .root := by
  have hmoves : ¬(name.toList.isEmpty = true ∨ name.toList = ['.']) := of_decide_eq_true h.moves
  rw [Component.ofText?, if_neg hmoves]
  split
  · exact ⟨.parent, rfl, by simp⟩
  · exact ⟨.name name.toList, rfl, by simp⟩

theorem IsStep.essential (h : IsStep name) : essential [name] = [name] := by
  have hsingle := essential_map_ofList [name.toList]
  rw [List.filter_cons_of_pos h.moves] at hsingle
  simpa using hsingle

theorem isStep_of_mem_essential (h : name ∈ FileTree.essential (stepsOf path)) : IsStep name := by
  change name ∈ FileTree.essential ((pieces path).map String.ofList) at h
  rw [essential_map_ofList, List.mem_map] at h
  obtain ⟨s, hs, rfl⟩ := h
  rw [List.mem_filter] at hs
  exact ⟨by simpa using Text.not_mem_of_mem_splitOn hs.1, by simpa using hs.2⟩

/-! ### The text of a chain -/

theorem getLast?_join (hname : IsStep name) : (join root name).toList.getLast? ≠ some '/' := by
  have hlast : name.toList.getLast? ≠ some '/' := fun h => hname.slash (List.mem_of_getLast? h)
  rw [toList_join hname.slash]
  split
  · rwa [List.getLast?_append_of_ne_nil _ hname.ne_nil]
  · rwa [List.getLast?_append_of_ne_nil _ (by simp), List.getLast?_cons_of_ne_nil hname.ne_nil]

theorem IsStep.join_ne_empty (h : IsStep name) : join root name ≠ "" :=
  Path.join_ne_empty h.slash h.ne_nil

theorem toList_under (hroot : root ≠ "") (hlast : root.toList.getLast? ≠ some '/')
    (hnames : ∀ name ∈ names, IsStep name) :
    (under root names).toList = root.toList ++ names.flatMap ('/' :: ·.toList) := by
  induction names generalizing root with
  | nil => simp
  | cons name rest ih =>
      rw [List.forall_mem_cons] at hnames
      rw [under_cons, ih hnames.1.join_ne_empty (getLast?_join hnames.1) hnames.2,
        toList_join hnames.1.slash, if_neg (by simp [hroot, hlast]), List.flatMap_cons, List.append_assoc]

theorem toList_under_join (hname : IsStep name) (hnames : ∀ name ∈ names, IsStep name) :
    (under (join root name) names).toList
      = (join root name).toList ++ names.flatMap ('/' :: ·.toList) :=
  toList_under hname.join_ne_empty (getLast?_join hname) hnames

theorem toList_under_empty (hnames : ∀ name ∈ names, IsStep name) :
    (under "" names).toList = ['/'].intercalate (names.map String.toList) := by
  cases names with
  | nil => rfl
  | cons name rest =>
      rw [List.forall_mem_cons] at hnames
      rw [under_cons, toList_under_join hnames.1 hnames.2, join_empty hnames.1.slash, List.map_cons,
        intercalate_cons, List.flatMap_map]

/-- The front of a path: the root, a dot or nothing. -/
def front (path : String) : String :=
  if path.toList.head? = some '/' then "/" else if (pieces path).head? = some ['.'] then "." else ""

/-- A path that is spelled anew has its front and its steps. -/
theorem respell_eq (path : String) : respell path = under (front path) (FileTree.essential (stepsOf path)) := by
  have hsteps : ∀ name ∈ FileTree.essential (stepsOf path), IsStep name :=
    fun _ h => isStep_of_mem_essential h
  have htexts : (pieces path).filter isComponent
      = (FileTree.essential (stepsOf path)).map String.toList := by
    change _ = (FileTree.essential ((pieces path).map String.ofList)).map String.toList
    rw [essential_map_ofList, List.map_map]
    simp
  rw [← String.toList_inj, toList_respell, keptPieces, htexts, front]
  generalize FileTree.essential (stepsOf path) = names at hsteps
  split
  · cases names with
    | nil => rfl
    | cons name rest =>
        rw [List.forall_mem_cons] at hsteps
        rw [under_cons, toList_under_join hsteps.1 hsteps.2, toList_join hsteps.1.slash,
          if_pos (.inr rfl), List.map_cons, intercalate_cons, List.flatMap_map]
        rfl
  · split
    · rw [toList_under (by decide) (by decide) hsteps, intercalate_cons, List.flatMap_map]
      rfl
    · rw [toList_under_empty hsteps]

theorem front_cases (path : String) : front path = "" ∨ front path = "/" ∨ front path = "." := by
  unfold front
  split
  · exact .inr (.inl rfl)
  · split
    · exact .inr (.inr rfl)
    · exact .inl rfl

/-! ### Joining -/

theorem essential_stepsOf_join (hname : IsStep name) : FileTree.essential (stepsOf (join root name))
    = FileTree.essential (stepsOf root) ++ [name] := by
  have hsingle := hname.essential
  rw [FileTree.essential] at hsingle
  by_cases hroot : root = ""
  · subst hroot
    rw [join_empty hname.slash, stepsOf_of_not_mem hname.slash, FileTree.essential, hsingle]
    rfl
  · obtain ⟨before, hsteps, hroots⟩ := exists_stepsOf_join hname.slash hroot
    rw [essential_of_front hroots, hsteps, FileTree.essential, List.filter_append, hsingle]
    rfl

theorem front_join (hname : IsStep name) : front (join root name) = front root := by
  by_cases hroot : root = ""
  · subst hroot
    have hdot : name.toList ≠ ['.'] := by
      intro h
      have hmoves := hname.moves
      rw [h] at hmoves
      cases hmoves
    rw [join_empty hname.slash, front, pieces_of_not_mem hname.slash, if_neg (head?_ne_slash hname.slash),
      if_neg (by simpa using hdot)]
    rfl
  · rw [front, front, head?_join hname.slash hroot, head?_pieces_join hname.slash hroot]

theorem respell_join (hname : IsStep name) : respell (join root name) = join (respell root) name := by
  rw [respell_eq, front_join hname, essential_stepsOf_join hname, under_concat, ← respell_eq]

theorem respell_under_front (path : String) (hnames : ∀ name ∈ names, IsStep name) :
    respell (under (front path) names) = under (front path) names := by
  induction names using List.reverseRecOn with
  | nil => rcases front_cases path with h | h | h <;> rw [under_nil, h] <;> rfl
  | append_singleton names name ih =>
      rw [List.forall_mem_append, List.forall_mem_singleton] at hnames
      rw [under_concat, respell_join hnames.2, ih hnames.1]

theorem ancestors_join (hname : IsStep name) :
    ancestors (join root name) = respell root :: ancestors root := by
  obtain ⟨c, hcomponent, hc⟩ := hname.exists_ofText?
  have hcomponents : components (join root name) = components root ++ [c] :=
    components_join_of_ofText? hname.slash hcomponent
  have hchain : remainders (components root ++ [c]).reverse
      = (components root).reverse :: remainders (components root).reverse := by
    rw [List.reverse_append]
    rfl
  unfold ancestors
  simp only [hcomponents, hchain]
  cases hroots : components root with
  | nil => simp [remainders, respell, hroots, hc]
  | cons first rest =>
      have hmore : remainders (first :: rest).reverse ≠ [] := by
        rw [List.reverse_cons]
        cases rest.reverse <;> simp [remainders]
      rw [List.cons_append, List.head?_cons, List.head?_cons]
      split
      · rw [List.dropLast_cons_of_ne_nil hmore, List.map_cons, List.reverse_reverse, respell, hroots]
      · rw [List.map_cons, List.reverse_reverse, respell, hroots]

theorem join_under (hnames : ∀ name ∈ names, IsStep name) (hne : names ≠ []) :
    join root (under "" names) = under root names := by
  cases names with
  | nil => exact absurd rfl hne
  | cons name rest =>
      rw [List.forall_mem_cons] at hnames
      have htext : (under "" (name :: rest)).toList = name.toList ++ rest.flatMap ('/' :: ·.toList) := by
        rw [under_cons, toList_under_join hnames.1 hnames.2, join_empty hnames.1.slash]
      have hrel : (under "" (name :: rest)).toList.head? ≠ some '/' := by
        rw [htext, List.head?_append_of_ne_nil _ hnames.1.ne_nil]
        exact head?_ne_slash hnames.1.slash
      rw [← String.toList_inj, under_cons root, toList_under_join hnames.1 hnames.2, join, if_neg hrel,
        join, if_neg (head?_ne_slash hnames.1.slash)]
      split
      · rw [String.toList_append, String.toList_append, htext, List.append_assoc]
      · rw [String.toList_append, String.toList_append, String.toList_append, String.toList_append, htext]
        simp only [List.append_assoc]

/-- A path of steps is the chain of its steps. -/
theorem eq_under_stepsOf (h : ∀ name ∈ stepsOf path, IsStep name) : path = under "" (stepsOf path) := by
  have hpieces : (stepsOf path).map String.toList = pieces path := by
    rw [stepsOf, List.map_map]
    simp [pieces]
  rw [← String.toList_inj, toList_under_empty h, hpieces]
  exact (List.intercalate_splitOn '/').symm

theorem stepsOf_injective : Function.Injective stepsOf := by
  intro path other h
  have hpieces : pieces path = pieces other :=
    List.map_injective_iff.2 (fun _ _ => String.ofList_inj.1) h
  rw [← String.toList_inj]
  calc path.toList = ['/'].intercalate (pieces path) := (List.intercalate_splitOn '/').symm
    _ = ['/'].intercalate (pieces other) := by rw [hpieces]
    _ = other.toList := List.intercalate_splitOn '/'

end StaticPage.Path
