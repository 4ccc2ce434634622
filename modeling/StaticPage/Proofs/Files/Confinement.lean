import StaticPage.Proofs.Files.Trails

/-!
# Confined paths

Steps lead from any directory so many directories up, and from there down by some names: their `Way`, which is
the same wherever they begin, `foldl_stepPlace_place`. A path is confined if it is relative and its way never
goes up. Behind any root such a path leads to a place below that of the root, `Confined.placeOf_join`. From a
deep directory with a name of its own, two ways are the same if they lead to one place, `Way.eq_of_place`, and
every way that goes up leads out, `Way.not_below`.
-/

namespace StaticPage

open FileTree

variable {start inner names : List String} {path name fresh : String} {n : Nat}

namespace Path

/-- Steps that are taken `inner` steps below a place do not climb above that place. -/
def staysInside (inner : List String) : List String → Bool
  | [] => true
  | name :: rest => !(inner.isEmpty && name == "..") && staysInside (stepPlace inner name) rest

/-- A relative path that never climbs above where it begins. -/
structure Confined (path : String) : Prop where
  relative : path.toList.head? ≠ some '/'
  inside : staysInside [] (stepsOf path) = true

instance (path : String) : Decidable (Confined path) :=
  decidable_of_iff (path.toList.head? ≠ some '/' ∧ staysInside [] (stepsOf path) = true)
    ⟨fun h => ⟨h.1, h.2⟩, fun h => ⟨h.relative, h.inside⟩⟩

example : Confined "a/../b.json" ∧ ¬ Confined "../b.json" ∧ ¬ Confined "a/../../b.json" := by
  decide +kernel

end Path

/-! ### Ways -/

/-- So many directories up, and from there down by some names. -/
structure Way where
  up : Nat
  down : List String

namespace Way

variable {w w' : Way}

def step (w : Way) (name : String) : Way :=
  if w.down = [] ∧ name = ".." then ⟨w.up + 1, []⟩ else ⟨w.up, stepPlace w.down name⟩

/-- The place that a way leads to. At the root there is nothing above. -/
def place (w : Way) (start : List String) : List String :=
  start.take (start.length - w.up) ++ w.down

def ofSteps (names : List String) : Way :=
  names.foldl step ⟨0, []⟩

theorem stepPlace_append (h : ¬ (inner = [] ∧ name = "..")) :
    stepPlace (start ++ inner) name = start ++ stepPlace inner name := by
  by_cases hstay : name = "" ∨ name = "."
  · rw [stepPlace, stepPlace, if_pos hstay, if_pos hstay]
  by_cases hup : name = ".."
  · have hinner : inner ≠ [] := fun hnil => h ⟨hnil, hup⟩
    rw [stepPlace, stepPlace, if_neg hstay, if_neg hstay, if_pos hup, if_pos hup,
      List.dropLast_append_of_ne_nil hinner]
  · rw [stepPlace, stepPlace, if_neg hstay, if_neg hstay, if_neg hup, if_neg hup, List.append_assoc]

theorem stepPlace_place (w : Way) (name : String) (start : List String) :
    stepPlace (w.place start) name = (w.step name).place start := by
  rw [step]
  split
  · rename_i hup
    obtain ⟨hdown, rfl⟩ := hup
    have hstep : stepPlace (w.place start) ".." = (w.place start).dropLast := rfl
    have hlength : start.length - w.up - 1 = start.length - (w.up + 1) := by omega
    have hle : start.length - w.up ≤ start.length := Nat.sub_le _ _
    rw [hstep, place, place, hdown, List.append_nil, List.append_nil, List.dropLast_eq_take, List.take_take,
      List.length_take, Nat.min_eq_left hle, hlength, Nat.min_eq_left (Nat.sub_le_sub_left (Nat.le_succ _) _)]
  · rename_i hup
    exact stepPlace_append hup

theorem foldl_stepPlace_place (names : List String) (w : Way) (start : List String) :
    names.foldl stepPlace (w.place start) = (names.foldl step w).place start := by
  induction names generalizing w with
  | nil => rfl
  | cons name rest ih => rw [List.foldl_cons, stepPlace_place, ih, List.foldl_cons]

theorem foldl_stepPlace (names start : List String) :
    names.foldl stepPlace start = (ofSteps names).place start := by
  rw [ofSteps, ← foldl_stepPlace_place]
  simp [place]

theorem up_foldl_bounds (names : List String) (w : Way) :
    w.up ≤ (names.foldl step w).up ∧ (names.foldl step w).up ≤ w.up + names.length := by
  induction names generalizing w with
  | nil => exact ⟨Nat.le_refl _, Nat.le_refl _⟩
  | cons name rest ih =>
      have hstep : w.up ≤ (w.step name).up ∧ (w.step name).up ≤ w.up + 1 := by
        rw [step]
        split <;> simp
      have hrest := ih (w.step name)
      rw [List.foldl_cons, List.length_cons]
      omega

theorem up_ofSteps_le (names : List String) : (ofSteps names).up ≤ names.length := by
  simpa [ofSteps] using (up_foldl_bounds names ⟨0, []⟩).2

theorem not_mem_down_foldl (hdown : fresh ∉ w.down) (hnames : fresh ∉ names) :
    fresh ∉ (names.foldl step w).down := by
  induction names generalizing w with
  | nil => exact hdown
  | cons name rest ih =>
      rw [List.mem_cons, not_or] at hnames
      apply ih _ hnames.2
      unfold step stepPlace
      split
      · exact List.not_mem_nil
      · split
        · exact hdown
        · split
          · exact fun hmem => hdown (List.dropLast_subset _ hmem)
          · simpa [hdown] using hnames.1

theorem not_mem_down_ofSteps (h : fresh ∉ names) : fresh ∉ (ofSteps names).down :=
  not_mem_down_foldl List.not_mem_nil h

/-- Steps stay inside exactly if their way does not go up. -/
theorem staysInside_iff (names : List String) (w : Way) :
    Path.staysInside w.down names = true ↔ (names.foldl step w).up = w.up := by
  induction names generalizing w with
  | nil => simp [Path.staysInside]
  | cons name rest ih =>
      rw [Path.staysInside, List.foldl_cons, step]
      split
      · rename_i hup
        have hle := (up_foldl_bounds rest ⟨w.up + 1, []⟩).1
        have hne : (rest.foldl step ⟨w.up + 1, []⟩).up ≠ w.up := by
          dsimp only at hle
          omega
        simp [hup, hne]
      · rename_i hup
        have hstays : (w.down.isEmpty && name == "..") = false := by simpa using hup
        rw [← ih ⟨w.up, stepPlace w.down name⟩, hstays, Bool.not_false, Bool.true_and]

/-! ### A deep directory -/

/-- From deep enough in directories whose name is on neither of two ways, only one way leads to a place. -/
theorem eq_of_place (hup : w.up ≤ n) (hup' : w'.up ≤ n) (hdown : fresh ∉ w.down) (hdown' : fresh ∉ w'.down)
    (h : w.place (List.replicate n fresh) = w'.place (List.replicate n fresh)) : w = w' := by
  obtain ⟨up, down⟩ := w
  obtain ⟨up', down'⟩ := w'
  have hcount := congrArg (List.count fresh) h
  simp only [place, List.length_replicate, List.take_replicate, List.count_append, List.count_replicate_self,
    List.count_eq_zero_of_not_mem hdown, List.count_eq_zero_of_not_mem hdown'] at hcount
  dsimp only at hup hup'
  obtain rfl : up = up' := by omega
  rw [place, place] at h
  exact congrArg (Way.mk up) (List.append_cancel_left h)

/-- A way that goes up leads out of such a directory. -/
theorem not_below (hpos : 0 < w.up) (hup : w.up ≤ n) (hdown : fresh ∉ w.down) :
    ¬ List.replicate n fresh <+: w.place (List.replicate n fresh) := by
  intro hbelow
  have hcount := hbelow.sublist.count_le fresh
  simp only [place, List.length_replicate, List.take_replicate, List.count_append, List.count_replicate_self,
    List.count_eq_zero_of_not_mem hdown] at hcount
  omega

end Way

/-! ### Paths behind a root -/

namespace FileTree

theorem stepsOf_append (front back : List Char) :
    stepsOf (String.ofList (front ++ '/' :: back)) =
      stepsOf (String.ofList front) ++ stepsOf (String.ofList back) := by
  simp only [stepsOf, String.toList_ofList, List.splitOn_append_cons_self, List.map_append]

/-- The place that the steps of a path behind a root begin at. -/
def startOf (here : List String) (root path : String) : List String :=
  if path.toList.head? = some '/' then [] else placeOf here root

/-- The steps of a path behind a root come after steps that lead to where they begin. -/
theorem exists_stepsOf_join_path (here : List String) (root path : String) :
    ∃ front, stepsOf (Path.join root path) = front ++ stepsOf path ∧
      front.foldl stepPlace (if (Path.join root path).toList.head? = some '/' then [] else here)
        = startOf here root path := by
  by_cases hrelative : path.toList.head? = some '/'
  · have hjoin : Path.join root path = path := if_pos hrelative
    rw [hjoin, startOf, if_pos hrelative, if_pos hrelative]
    exact ⟨[], rfl, rfl⟩
  rw [startOf, if_neg hrelative]
  by_cases hroot : root = ""
  · have hjoin : Path.join root path = path := by
      rw [hroot, Path.join, if_neg hrelative, if_pos (.inl rfl), String.empty_append]
    rw [hjoin, if_neg hrelative, hroot]
    exact ⟨[], rfl, rfl⟩
  have hhead (back : List Char) : (root.toList ++ back).head? = root.toList.head? :=
    List.head?_append_of_ne_nil _ fun hnil => hroot (String.toList_inj.1 hnil)
  by_cases hlast : root.toList.getLast? = some '/'
  · have hjoin : Path.join root path = root ++ path := by
      rw [Path.join, if_neg hrelative, if_pos (.inr hlast)]
    obtain ⟨front, hfront⟩ := List.getLast?_eq_some_iff.1 hlast
    have hroots : stepsOf root = stepsOf (String.ofList front) ++ [""] := by
      rw [← String.ofList_toList (s := root), hfront]
      exact stepsOf_append front []
    have hsteps : stepsOf (root ++ path) = stepsOf (String.ofList front) ++ stepsOf path := by
      rw [← String.ofList_toList (s := root ++ path), String.toList_append, hfront, List.append_assoc]
      simpa using stepsOf_append front path.toList
    rw [hjoin, placeOf, hroots, String.toList_append, hhead, List.foldl_append]
    exact ⟨stepsOf (String.ofList front), hsteps, rfl⟩
  · have hjoin : Path.join root path = root ++ "/" ++ path := by
      rw [Path.join, if_neg hrelative, if_neg (by simp [hroot, hlast])]
    have hsteps : stepsOf (root ++ "/" ++ path) = stepsOf root ++ stepsOf path := by
      rw [← String.ofList_toList (s := root ++ "/" ++ path), String.toList_append, String.toList_append,
        List.append_assoc]
      simpa using stepsOf_append root.toList path.toList
    rw [hjoin, placeOf, String.toList_append, String.toList_append, List.append_assoc, hhead]
    exact ⟨stepsOf root, hsteps, rfl⟩

theorem placeOf_join_path (here : List String) (root path : String) :
    placeOf here (Path.join root path) = (stepsOf path).foldl stepPlace (startOf here root path) := by
  obtain ⟨front, hsteps, hfront⟩ := exists_stepsOf_join_path here root path
  rw [placeOf, hsteps, List.foldl_append, hfront]

end FileTree

theorem Path.Confined.placeOf_join (h : Confined path) (here : List String) (root : String) :
    placeOf here (join root path) = placeOf here root ++ (Way.ofSteps (stepsOf path)).down := by
  have hup : (Way.ofSteps (stepsOf path)).up = 0 := (Way.staysInside_iff (stepsOf path) ⟨0, []⟩).1 h.inside
  rw [placeOf_join_path, startOf, if_neg h.relative, Way.foldl_stepPlace, Way.place, hup]
  simp

end StaticPage
