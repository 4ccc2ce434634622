import Mathlib.Data.List.TakeWhile
import StaticPage.Dictionary
import StaticPage.Files.Tree

/-!
# Where paths lead

A path that leads somewhere leads to `placeOf`, which is read off its names alone: the tree only decides
whether the path can be followed. An operation that succeeds therefore changes a known place and no
other, `write_eq_ok` and `makeDirectory_eq_ok`, and what stands at a place can be followed through a run
without following paths.
-/

namespace StaticPage

theorem except_bind_eq_ok {ε α β : Type} {x : Except ε α} {f : α → Except ε β} {b : β} :
    x >>= f = .ok b ↔ ∃ a, x = .ok a ∧ f a = .ok b := by
  constructor
  · intro h
    cases x with
    | error e => cases h
    | ok a => exact ⟨a, rfl, h⟩
  · rintro ⟨a, rfl, h⟩
    exact h

namespace FileTree

variable {t t' : FileTree} {place q : List String} {path name : String}

/-! ### What stands at a place -/

theorem at?_put_self (t : FileTree) (hplace : place ≠ []) (entry : FileEntry) :
    (t.put place entry).at? place = some entry := by
  simp [at?, put, hplace]

theorem at?_put_of_ne (t : FileTree) (h : q ≠ place) (entry : FileEntry) :
    (t.put place entry).at? q = t.at? q := by
  simp [at?, put, Dictionary.lookup_set_of_ne h]

theorem isDirectoryAt_iff : t.isDirectoryAt place = true ↔ t.at? place = some .directory := by
  unfold isDirectoryAt
  split <;> simp_all

theorem isDirectoryAt_put_file (t : FileTree) (hplace : place ≠ []) (bytes : ByteArray) :
    (t.put place (.file bytes)).isDirectoryAt place = false := by
  rw [isDirectoryAt, at?_put_self t hplace]

theorem isDirectoryAt_put_of_ne (t : FileTree) (h : q ≠ place) (entry : FileEntry) :
    (t.put place entry).isDirectoryAt q = t.isDirectoryAt q := by
  rw [isDirectoryAt, at?_put_of_ne t h, isDirectoryAt]

/-! ### Steps -/

/-- The place that a step leads to, if it leads anywhere. -/
def stepPlace (place : List String) (name : String) : List String :=
  if name = "" ∨ name = "." then place
  else if name = ".." then place.dropLast
  else place ++ [name]

/-- The place that a path leads to, if it leads anywhere. -/
def placeOf (here : List String) (path : String) : List String :=
  (stepsOf path).foldl stepPlace (if path.toList.head? = some '/' then [] else here)

theorem stepPlace_of_isPlainName (h : isPlainName name = true) (place : List String) :
    stepPlace place name = place ++ [name] := by
  simp only [isPlainName, Bool.not_eq_true', Bool.or_eq_false_iff, beq_eq_false_iff_ne] at h
  rw [stepPlace, if_neg (by simp [h.1.1, h.1.2]), if_neg h.2]

theorem step_eq_ok (h : t.step place name = .ok q) :
    t.isDirectoryAt place = true ∧ q = stepPlace place name := by
  unfold step at h
  split at h
  · cases h
  · rename_i hdir
    refine ⟨by simpa using hdir, ?_⟩
    unfold stepPlace
    split at h
    · rename_i hstay
      cases h
      rw [if_pos hstay]
    · rename_i hstay
      rw [if_neg hstay]
      split at h
      · rename_i hup
        cases h
        rw [if_pos hup]
      · rename_i hup
        rw [if_neg hup]
        split at h
        · cases h
        · split at h <;> cases h
          rfl

theorem foldlM_step_eq_ok {names : List String} (h : names.foldlM t.step place = .ok q) :
    q = names.foldl stepPlace place := by
  induction names generalizing place with
  | nil =>
      cases h
      rfl
  | cons name rest ih =>
      rw [List.foldlM_cons] at h
      obtain ⟨next, hstep, h⟩ := except_bind_eq_ok.1 h
      rw [List.foldl_cons, ← (step_eq_ok hstep).2]
      exact ih h

theorem resolve_eq_ok (h : t.resolve path = .ok place) : place = placeOf t.here path := by
  obtain ⟨⟨⟩, -, hfold⟩ := except_bind_eq_ok.1 h
  exact foldlM_step_eq_ok hfold

/-- The steps of a path up to its last name, that name first. -/
def namedSteps (path : String) : List String :=
  (stepsOf path).reverse.dropWhile (· == "")

/-- Behind the last name of a path there are only empty steps. -/
theorem exists_stepsOf (path : String) :
    ∃ n, stepsOf path = (namedSteps path).reverse ++ List.replicate n "" := by
  refine ⟨((stepsOf path).reverse.takeWhile (· == "")).length, ?_⟩
  have hempty : ((stepsOf path).reverse.takeWhile (· == "")).reverse
      = List.replicate ((stepsOf path).reverse.takeWhile (· == "")).length "" := by
    rw [List.eq_replicate_iff]
    exact ⟨by simp, fun b hb => by simpa using List.mem_takeWhile_imp (List.mem_reverse.1 hb)⟩
  rw [← hempty, namedSteps, ← List.reverse_append, List.takeWhile_append_dropWhile,
    List.reverse_reverse]

theorem foldl_stepPlace_replicate (place : List String) (n : Nat) :
    (List.replicate n "").foldl stepPlace place = place := by
  induction n with
  | zero => rfl
  | succ n ih => exact ih

theorem placeOf_eq (here : List String) (path : String) : placeOf here path =
    (namedSteps path).reverse.foldl stepPlace (if path.toList.head? = some '/' then [] else here) := by
  obtain ⟨n, hsteps⟩ := exists_stepsOf path
  rw [placeOf, hsteps, List.foldl_append, foldl_stepPlace_replicate]

theorem resolveLast_eq (t : FileTree) (path : String) : t.resolveLast path = (do
    checkPath path
    let place ← (namedSteps path).tail.reverse.foldlM t.step (t.origin path)
    if !t.isDirectoryAt place then throw .notDirectory
    return (place, (namedSteps path).headD "",
      (namedSteps path).length < (stepsOf path).reverse.length)) :=
  rfl

/-- A path is followed up to its last name, whose directory must be there. -/
theorem resolveLast_eq_ok_iff {slash : Bool} : t.resolveLast path = .ok (place, name, slash) ↔
    checkPath path = .ok () ∧
      (namedSteps path).tail.reverse.foldlM t.step (t.origin path) = .ok place ∧
      t.isDirectoryAt place = true ∧ (namedSteps path).headD "" = name ∧
      decide ((namedSteps path).length < (stepsOf path).reverse.length) = slash := by
  simp only [resolveLast_eq, except_bind_eq_ok]
  constructor
  · rintro ⟨_, hcheck, above, hfold, h⟩
    split at h
    · cases h
    · rename_i hdir
      cases h
      exact ⟨hcheck, hfold, by simpa using hdir, rfl, rfl⟩
  · rintro ⟨hcheck, hfold, hdir, rfl, rfl⟩
    refine ⟨(), hcheck, place, hfold, ?_⟩
    rw [hdir]
    rfl

theorem resolveLast_eq_ok {slash : Bool} (h : t.resolveLast path = .ok (place, name, slash))
    (hname : isPlainName name = true) : place ++ [name] = placeOf t.here path := by
  obtain ⟨-, hfold, -, hlast, -⟩ := resolveLast_eq_ok_iff.1 h
  rw [placeOf_eq]
  cases hnamed : namedSteps path with
  | nil =>
      rw [hnamed] at hlast
      subst hlast
      cases hname
  | cons last rest =>
      rw [hnamed] at hfold hlast
      subst hlast
      rw [List.reverse_cons, List.foldl_append, List.foldl_cons, List.foldl_nil,
        foldlM_step_eq_ok hfold]
      exact (stepPlace_of_isPlainName hname _).symm

theorem isDirectory_iff : t.isDirectory path = true ↔
    ∃ place, t.resolve path = .ok place ∧ t.isDirectoryAt place = true := by
  unfold isDirectory
  cases t.resolve path <;> simp

/-! ### Operations -/

theorem write_eq_ok {bytes : ByteArray} (h : t.write path bytes = .ok t') :
    t' = t.put (placeOf t.here path) (.file bytes) ∧ t.isDirectoryAt (placeOf t.here path) = false ∧
      placeOf t.here path ≠ [] := by
  obtain ⟨⟨place, name, slash⟩, hlast, h⟩ := except_bind_eq_ok.1 h
  dsimp only at h
  split at h
  · cases h
  · rename_i hplain
    rw [not_or, Bool.not_eq_true', Bool.not_eq_false] at hplain
    split at h
    · cases h
    · split at h
      · cases h
      · rename_i hdir
        cases h
        rw [← resolveLast_eq_ok hlast hplain.2]
        exact ⟨rfl, by simpa using hdir, by simp⟩

theorem makeDirectory_eq_ok (h : t.makeDirectory path = .ok t') :
    t' = t.put (placeOf t.here path) .directory ∧ t.at? (placeOf t.here path) = none := by
  obtain ⟨⟨place, name, slash⟩, hlast, h⟩ := except_bind_eq_ok.1 h
  dsimp only at h
  split at h
  · cases h
  · rename_i hplain
    rw [Bool.not_eq_true', Bool.not_eq_false] at hplain
    split at h
    · cases h
    · split at h
      · cases h
      · rename_i hthere
        cases h
        rw [← resolveLast_eq_ok hlast hplain]
        exact ⟨rfl, by simpa using hthere⟩

/-! ### What is there already -/

theorem step_of_isPlainName (hname : isPlainName name = true) (hdir : t.isDirectoryAt place = true)
    (hshort : name.utf8ByteSize ≤ nameLimit) : t.step place name =
      if (t.at? (place ++ [name])).isSome then .ok (place ++ [name]) else .error .notFound := by
  simp only [isPlainName, Bool.not_eq_true', Bool.or_eq_false_iff, beq_eq_false_iff_ne] at hname
  rw [step, if_neg (by simp [hdir]), if_neg (by simp [hname.1.1, hname.1.2]), if_neg hname.2,
    if_neg (Nat.not_lt.2 hshort)]

theorem isSome_of_step (hname : isPlainName name = true) (h : t.step place name = .ok q) :
    name.utf8ByteSize ≤ nameLimit ∧ (t.at? (place ++ [name])).isSome = true := by
  simp only [isPlainName, Bool.not_eq_true', Bool.or_eq_false_iff, beq_eq_false_iff_ne] at hname
  have hdir := (step_eq_ok h).1
  rw [step, if_neg (by simp [hdir]), if_neg (by simp [hname.1.1, hname.1.2]), if_neg hname.2] at h
  split at h
  · cases h
  · rename_i hshort
    split at h
    · rename_i hthere
      exact ⟨Nat.not_lt.1 hshort, hthere⟩
    · cases h

/-- A step can be taken in another tree, if it starts in a directory there and its name is there. -/
theorem step_elsewhere (h : t.step place name = .ok q) (hdir : t'.isDirectoryAt place = true)
    (hthere : isPlainName name = true → (t'.at? (place ++ [name])).isSome = true) :
    t'.step place name = .ok q := by
  obtain ⟨hstart, hplace⟩ := step_eq_ok h
  by_cases hname : isPlainName name = true
  · rw [stepPlace_of_isPlainName hname] at hplace
    subst hplace
    rw [step_of_isPlainName hname hdir (isSome_of_step hname h).1, if_pos (hthere hname)]
  · simp only [isPlainName, Bool.not_eq_true', Bool.not_eq_false, Bool.or_eq_true, beq_iff_eq] at hname
    rw [step] at h ⊢
    rw [if_neg (by simp [hstart])] at h
    rw [if_neg (by simp [hdir])]
    rcases hname with hname | rfl
    · rw [if_pos hname] at h ⊢
      exact h
    · exact h

theorem makeDirectory_of_resolve (h : t.resolve path = .ok q) :
    t.makeDirectory path = .error .alreadyExists := by
  obtain ⟨⟨⟩, hcheck, h⟩ := except_bind_eq_ok.1 h
  obtain ⟨n, hsteps⟩ := exists_stepsOf path
  rw [hsteps, List.foldlM_append] at h
  obtain ⟨named, hnamed, hempty⟩ := except_bind_eq_ok.1 h
  have hlast (place : List String) (hfold :
      (namedSteps path).tail.reverse.foldlM t.step (t.origin path) = .ok place)
      (hdir : t.isDirectoryAt place = true) : ∃ slash, t.resolveLast path
        = .ok (place, (namedSteps path).headD "", slash) :=
    ⟨_, resolveLast_eq_ok_iff.2 ⟨hcheck, hfold, hdir, rfl, rfl⟩⟩
  cases hnames : namedSteps path with
  | nil =>
      have horigin : t.isDirectoryAt (t.origin path) = true := by
        rw [hnames] at hnamed hsteps
        cases hnamed
        cases n with
        | zero =>
            have hne : stepsOf path ≠ [] := by simp [stepsOf]
            exact absurd hsteps hne
        | succ n =>
            obtain ⟨next, hstep, -⟩ := except_bind_eq_ok.1 hempty
            exact (step_eq_ok hstep).1
      obtain ⟨slash, hlast⟩ := hlast (t.origin path) (by rw [hnames]; rfl) horigin
      rw [makeDirectory, hlast, hnames]
      rfl
  | cons last rest =>
      rw [hnames, List.reverse_cons, List.foldlM_append] at hnamed
      obtain ⟨place, hfold, hstep⟩ := except_bind_eq_ok.1 hnamed
      obtain ⟨next, hstep, -⟩ := except_bind_eq_ok.1 hstep
      obtain ⟨slash, hlast⟩ := hlast place (by rw [hnames]; exact hfold) (step_eq_ok hstep).1
      rw [makeDirectory, hlast, hnames]
      dsimp only [bind, Except.bind, List.headD_cons]
      cases hname : isPlainName last with
      | false => rfl
      | true =>
          obtain ⟨hshort, hthere⟩ := isSome_of_step hname hstep
          simp only [Bool.not_true, Bool.false_eq_true, if_false]
          rw [if_neg (Nat.not_lt.2 hshort), if_pos hthere]
          rfl

end FileTree

end StaticPage
