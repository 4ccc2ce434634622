import Mathlib.Data.List.Sort
import Mathlib.Data.String.Basic
import StaticPage.Files.Glob
import StaticPage.Proofs.Files.Trails

/-!
# What patterns find in later trees

A pattern finds in a tree those of the paths that it finds in a later one whose trails are there already,
in the same order: `found_eq_filter`. The search goes from the outermost directory inwards and never leaves
the trail that it has come by, so that what it meets off the trail gives nothing that is kept.
-/

namespace StaticPage

open Glob

namespace FileTree

def reader (t : FileTree) : FileAccess Id where
  read path := t.read path
  write _ _ := .error .notFound
  makeDirectory _ := .error .notFound
  isDirectory path := t.isDirectory path
  isThere path := t.isThere path
  names path := t.names path

def found (t : FileTree) (p : Pattern) : List String :=
  p.paths t.reader

def placed (t : FileTree) (path : String) : Place :=
  ⟨path, t.isDirectory path⟩

variable {t t' : FileTree} {changed : List (List String)} {place : List String} {path name : String}

@[simp] theorem placed_path (t : FileTree) (path : String) : (t.placed path).path = path := rfl

/-! ### The search in one tree -/

def ordered (t : FileTree) (path : String) : List String :=
  (t.names path).mergeSort fun a b => a ≤ b

section

variable (t) (only : Bool) (parts : List Part) (place : Place) (fuel : Nat) (name : String)

def finds : List String :=
  find t.reader only parts place fuel

def visits : List String :=
  visit t.reader only parts name place fuel

theorem mapM_id {α β : Type} (f : α → Id β) (as : List α) : (as.mapM f : Id (List β)) = as.map f := by
  induction as with
  | nil => rfl
  | cons a as ih =>
      rw [List.mapM_cons, ih]
      rfl

theorem finds_nil : t.finds only [] place (fuel + 1)
    = if only && !place.isDirectory then [] else [place.path] := by
  rw [finds, find]
  rfl

theorem finds_name (s : String) : t.finds only (.name s :: parts) place (fuel + 1)
    = if (if s = "." ∨ s = ".." then place.isDirectory else t.isThere (inside place.path s)) then
        t.finds only parts (t.placed (inside place.path s)) fuel else [] := by
  rw [finds, find]
  split <;> rfl

theorem finds_other {p : Part} (hp : ∀ s, p ≠ .name s) : t.finds only (p :: parts) place (fuel + 1)
    = if place.isDirectory then
        ((dotNames p).flatMap fun name =>
            t.finds only parts (t.placed (Path.join place.path name)) fuel) ++
          (t.ordered place.path).flatMap fun name =>
            t.visits only (p :: parts) (t.placed (inside place.path name)) fuel name
      else [] := by
  rw [finds, find]
  · cases place.isDirectory with
    | false => rfl
    | true =>
        change List.flatten (List.append (List.mapM (m := Id) _ (dotNames p))
          (List.mapM (m := Id) _ (t.ordered place.path))) = _
        rw [mapM_id, mapM_id]
        exact List.flatten_append
  · exact hp

theorem visits_directories : t.visits only (.directories :: parts) place (fuel + 1) name
    = (match parts.dropWhile (· == .directories) with
        | [] => if place.isDirectory then [place.path] else []
        | p :: others => if p.matchesName name then t.finds only others place fuel else []) ++
      if place.isDirectory then
        t.finds only (.directories :: parts.dropWhile (· == .directories)) place fuel else [] := by
  rw [visits, visit]
  cases parts.dropWhile (· == .directories) with
  | nil => cases place.isDirectory <;> rfl
  | cons p others =>
      dsimp only
      cases p.matchesName name <;> cases place.isDirectory <;> rfl

theorem visits_other {p : Part} (hp : p ≠ .directories) :
    t.visits only (p :: parts) place (fuel + 1) name
      = if p.matchesName name then t.finds only parts place fuel else [] := by
  rw [visits, visit]
  · split <;> rfl
  · exact hp

theorem visits_nil : t.visits only [] place (fuel + 1) name = [] := by
  rw [visits, visit]
  rfl

end

/-- What holds of a search by the cases of its steps: of the paths in a directory, `P`, and of those at or
below a place, `Q`. -/
theorem search_induction {P Q : Nat → List Part → Prop} (zero : ∀ parts, P 0 parts ∧ Q 0 parts)
    (nil : ∀ fuel, P (fuel + 1) [] ∧ Q (fuel + 1) [])
    (named : ∀ fuel text rest, P fuel rest → P (fuel + 1) (.name text :: rest))
    (wild : ∀ fuel p rest, (∀ text, p ≠ .name text) → P fuel rest → Q fuel (p :: rest) →
      P (fuel + 1) (p :: rest))
    (matched : ∀ fuel p rest, p ≠ .directories → P fuel rest → Q (fuel + 1) (p :: rest))
    (below : ∀ fuel rest, (∀ parts, P fuel parts) → Q (fuel + 1) (.directories :: rest)) (fuel : Nat) :
    (∀ parts, P fuel parts) ∧ ∀ parts, Q fuel parts := by
  induction fuel with
  | zero => exact ⟨fun parts => (zero parts).1, fun parts => (zero parts).2⟩
  | succ fuel ih =>
      obtain ⟨hfind, hvisit⟩ := ih
      refine ⟨fun parts => ?_, fun parts => ?_⟩
      · match parts with
        | [] => exact (nil fuel).1
        | .name text :: rest => exact named fuel text rest (hfind rest)
        | .wild tokens :: rest => exact wild fuel _ rest (by simp) (hfind rest) (hvisit _)
        | .directories :: rest => exact wild fuel _ rest (by simp) (hfind rest) (hvisit _)
      · match parts with
        | [] => exact (nil fuel).2
        | .name text :: rest => exact matched fuel _ rest (by simp) (hfind rest)
        | .wild tokens :: rest => exact matched fuel _ rest (by simp) (hfind rest)
        | .directories :: rest => exact below fuel rest hfind

/-! ### The search in a world -/

section

variable {σ : Type} [HasTree σ]

theorem after_placeOf (path : String) (s : σ) :
    after (Glob.placeOf (access (m := StateM σ)) path) s = ((tree s).placed path, s) := rfl

theorem after_isThere (path : String) (s : σ) :
    after ((access (m := StateM σ)).isThere path) s = ((tree s).isThere path, s) := rfl

theorem after_sortedNames (path : String) (s : σ) :
    after (sortedNames (access (m := StateM σ)) path) s = ((tree s).ordered path, s) := rfl

section Steps

variable (only : Bool) (s : σ)

/-- The search in a directory of a world finds what the tree of the world holds, and changes nothing. -/
def FindsThere (fuel : Nat) (parts : List Part) : Prop :=
  ∀ place, after (find (access (m := StateM σ)) only parts place fuel) s
    = ((tree s).finds only parts place fuel, s)

/-- The search at and below a place of a world finds what the tree of the world holds, and changes nothing. -/
def VisitsThere (fuel : Nat) (parts : List Part) : Prop :=
  ∀ name place, after (visit (access (m := StateM σ)) only parts name place fuel) s
    = ((tree s).visits only parts place fuel name, s)

variable {only s} {fuel : Nat} {p : Part} {rest : List Part}

theorem findsThere_nil : FindsThere only s (fuel + 1) [] := by
  intro place
  rw [find, finds_nil]
  rfl

theorem visitsThere_nil : VisitsThere only s (fuel + 1) [] := by
  intro name place
  rw [visit, visits_nil]
  rfl

theorem FindsThere.named (h : FindsThere only s fuel rest) (text : String) :
    FindsThere only s (fuel + 1) (.name text :: rest) := by
  intro place
  rw [find, finds_name]
  by_cases hdots : text = "." ∨ text = ".."
  · simp only [if_pos hdots]
    cases place.isDirectory with
    | false => rfl
    | true => exact h _
  · simp only [if_neg hdots]
    rw [after_bind, after_isThere]
    cases (tree s).isThere (inside place.path text) with
    | false => rfl
    | true => exact h _

theorem FindsThere.wild (hp : ∀ text, p ≠ .name text) (hfind : FindsThere only s fuel rest)
    (hvisit : VisitsThere only s fuel (p :: rest)) : FindsThere only s (fuel + 1) (p :: rest) := by
  intro place
  rw [finds_other _ _ _ _ _ hp, find]
  · cases place.isDirectory with
    | false => rfl
    | true =>
        have hdots : after ((dotNames p).mapM fun name => do
            find (access (m := StateM σ)) only rest
              (← Glob.placeOf access (Path.join place.path name)) fuel) s = (_, s) :=
          after_mapM fun name _ => hfind ((tree s).placed (Path.join place.path name))
        have hnames : after (((tree s).ordered place.path).mapM fun name => do
            visit (access (m := StateM σ)) only (p :: rest) name
              (← Glob.placeOf access (inside place.path name)) fuel) s = (_, s) :=
          after_mapM fun name _ => hvisit name ((tree s).placed (inside place.path name))
        rw [if_neg (by simp), if_pos rfl, after_bind, hdots, after_bind, after_sortedNames, after_bind,
          hnames]
        exact congrArg (·, s) List.flatten_append
  · exact hp

theorem VisitsThere.matched (hp : p ≠ .directories) (h : FindsThere only s fuel rest) :
    VisitsThere only s (fuel + 1) (p :: rest) := by
  intro name place
  rw [visits_other _ _ _ _ _ _ hp, visit]
  · cases p.matchesName name with
    | false => rfl
    | true => exact h _
  · exact hp

theorem VisitsThere.below (h : ∀ parts, FindsThere only s fuel parts) (rest : List Part) :
    VisitsThere only s (fuel + 1) (.directories :: rest) := by
  intro name place
  rw [visit, visits_directories]
  generalize rest.dropWhile (· == .directories) = others
  have hbelow (direct : List String) : after (do
      if place.isDirectory then
        return direct ++ (← find (access (m := StateM σ)) only (.directories :: others) place fuel)
      else return direct ++ (← pure [])) s = (direct ++ if place.isDirectory then
        (tree s).finds only (.directories :: others) place fuel else [], s) := by
    cases place.isDirectory with
    | false => rfl
    | true =>
        simp only [if_true]
        rw [after_bind, h]
        rfl
  cases others with
  | nil => exact hbelow _
  | cons p others =>
      dsimp only
      cases p.matchesName name with
      | false => exact hbelow _
      | true =>
          simp only [if_true]
          rw [after_bind, h]
          exact hbelow _

end Steps

theorem searches_there (only : Bool) (s : σ) (fuel : Nat) :
    (∀ parts, FindsThere only s fuel parts) ∧ ∀ parts, VisitsThere only s fuel parts := by
  refine search_induction ?zero ?nil ?named ?wild ?matched ?below fuel
  case zero => exact fun parts => ⟨fun _ => rfl, fun _ _ => rfl⟩
  case nil => exact fun fuel => ⟨findsThere_nil, visitsThere_nil⟩
  case named => exact fun fuel text rest h => h.named text
  case wild => exact fun fuel p rest hp hfind hvisit => hfind.wild hp hvisit
  case matched => exact fun fuel p rest hp h => .matched hp h
  case below => exact fun fuel rest h => .below h rest

theorem after_paths (p : Pattern) (s : σ) :
    after (p.paths (access (m := StateM σ))) s = ((tree s).found p, s) := by
  rw [Pattern.paths, after_bind, after_placeOf]
  exact (searches_there _ s _).1 _ _

end

/-! ### Names in a later tree -/

variable {directory : String}

theorem mem_trail_inside {here q : List String} (hslash : '/' ∉ name.toList) :
    q ∈ trail here (inside directory name) ↔
      q ∈ trail here directory ∨ q = stepPlace (placeOf here directory) name := by
  unfold inside
  split
  · rename_i hdot
    have htrail : q ∈ trail here (Path.join "" name) ↔ _ := mem_trail_join hslash
    rw [Path.join_empty hslash] at htrail
    rw [hdot, htrail]
    rfl
  · exact mem_trail_join hslash

theorem names_eq (h : t.resolve path = .ok place) : t.names path =
    (Dictionary.keys t.entries).filterMap fun p => if p.dropLast = place then p.getLast? else none := by
  rw [names, h, Dictionary.keys, List.filterMap_map]
  rfl

theorem mem_names (h : t.resolve path = .ok place) :
    name ∈ t.names path ↔ (t.at? (place ++ [name])).isSome = true := by
  rw [names_eq h, isSome_at?_iff (by simp), List.mem_filterMap]
  constructor
  · rintro ⟨p, hmem, hlast⟩
    split at hlast
    · rename_i hplace
      rw [← hplace, List.dropLast_append_getLast? name hlast]
      exact hmem
    · cases hlast
  · intro hmem
    exact ⟨_, hmem, by simp⟩

theorem Sound.nodup_names (ht : t.Sound) (h : t.resolve path = .ok place) : (t.names path).Nodup := by
  rw [names_eq h]
  refine List.Nodup.filterMap (fun p p' name hp hp' => ?_) ht.nodup
  have hlast {p : List String} (hp : name ∈ if p.dropLast = place then p.getLast? else none) :
      p = place ++ [name] := by
    split at hp
    · rename_i hplace
      rw [← hplace, List.dropLast_append_getLast? name hp]
    · cases hp
  rw [hlast hp, hlast hp']

/-- A name behind a path has its trail in a tree if the path has and the name leads to something. -/
theorem hasTrail_inside_iff (htrail : t.hasTrail path = true) (hslash : '/' ∉ name.toList) :
    t.hasTrail (inside path name) = true ↔
      (t.at? (stepPlace (placeOf t.here path) name)).isSome = true := by
  rw [hasTrail_iff] at htrail ⊢
  simp only [mem_trail_inside hslash]
  constructor
  · intro h
    exact h _ (.inr rfl)
  · rintro h q (hq | rfl)
    · exact htrail q hq
    · exact h

theorem Sound.hasTrail_of_isThere (ht : t.Sound) (h : t.isThere path = true) : t.hasTrail path = true := by
  unfold isThere at h
  cases hresolve : t.resolve path with
  | error fault =>
      rw [hresolve] at h
      cases h
  | ok place => exact ht.hasTrail_of_resolve hresolve

theorem Evolves.ordered_eq (h : Evolves changed t t') (ht : t.Sound) (htrail : t.hasTrail path = true)
    (hdir : t.isDirectory path = true) :
    t.ordered path = (t'.ordered path).filter fun name => t.hasTrail (inside path name) := by
  obtain ⟨place, hresolve, -⟩ := isDirectory_iff.1 hdir
  have hresolve' : t'.resolve path = .ok place := h.resolve_eq_ok hresolve
  have ht' := h.sound ht
  have hmem (name : String) : name ∈ t.names path ↔
      name ∈ t'.names path ∧ t.hasTrail (inside path name) = true := by
    have hinside (hname : Path.IsSegment name) : t.hasTrail (inside path name) = true ↔
        (t.at? (place ++ [name])).isSome = true := by
      rw [hasTrail_inside_iff htrail hname.slash, stepPlace_of_isPlainName hname.plain,
        ← FileTree.resolve_eq_ok hresolve]
    rw [mem_names hresolve, mem_names hresolve']
    constructor
    · intro hthere
      exact ⟨h.isSome hthere, (hinside (ht.parent hthere).1).2 hthere⟩
    · rintro ⟨hthere, hname⟩
      exact (hinside (ht'.parent hthere).1).1 hname
  refine List.Perm.eq_of_pairwise' (r := (· ≤ ·)) (List.pairwise_mergeSort' _ _)
    ((List.pairwise_mergeSort' _ _).filter _) ?_
  refine (List.perm_ext_iff_of_nodup ?_ ?_).2 fun name => ?_
  · exact (List.mergeSort_perm _ _).nodup_iff.2 (ht.nodup_names hresolve)
  · exact ((List.mergeSort_perm _ _).nodup_iff.2 (ht'.nodup_names hresolve')).filter _
  · rw [List.mem_filter, ordered, ordered, List.mem_mergeSort, List.mem_mergeSort]
    exact hmem name

/-! ### The search in a later tree -/

/-- The names among components can stand between slashes. -/
def Divided (parts : List Part) : Prop :=
  ∀ s, .name s ∈ parts → '/' ∉ s.toList

variable {parts rest : List Part} {p : Part}

theorem Divided.tail (h : Divided (p :: parts)) : Divided parts :=
  fun s hs => h s (List.mem_cons_of_mem _ hs)

theorem Divided.of_subset (h : Divided parts) (hsub : rest ⊆ parts) : Divided rest :=
  fun s hs => h s (hsub hs)

theorem Divided.directories (h : Divided parts) : Divided (.directories :: parts) := by
  intro s hs
  rcases List.mem_cons.1 hs with hs | hs
  · cases hs
  · exact h s hs

theorem dropWhile_subset (parts : List Part) : parts.dropWhile (· == .directories) ⊆ parts :=
  (List.dropWhile_sublist _).subset

theorem eq_dots_of_mem_dotNames (h : name ∈ dotNames p) : name = ".." ∨ name = "." := by
  unfold dotNames at h
  split at h
  · simpa using List.mem_of_mem_filter h
  · cases h

theorem slash_of_mem_dotNames (h : name ∈ dotNames p) : '/' ∉ name.toList := by
  rcases eq_dots_of_mem_dotNames h with rfl | rfl <;> decide

theorem Sound.segment_of_mem_ordered (ht : t.Sound) (h : name ∈ t.ordered path) :
    Path.IsSegment name := by
  rw [ordered, List.mem_mergeSort] at h
  cases hresolve : t.resolve path with
  | error fault =>
      rw [names, hresolve] at h
      cases h
  | ok place => exact (ht.parent ((mem_names hresolve).1 h)).1

section Steps

variable (t) (only : Bool)

/-- What the search in a directory finds is on the way by which the search has come there, or further. -/
def FindsOnward (fuel : Nat) (parts : List Part) : Prop :=
  Divided parts → ∀ place, ∀ path ∈ t.finds only parts place fuel, trail t.here place.path ⊆ trail t.here path

/-- What the search at and below a place finds is on the way by which the search has come there, or
further. -/
def VisitsOnward (fuel : Nat) (parts : List Part) : Prop :=
  Divided parts → ∀ place name, ∀ path ∈ t.visits only parts place fuel name,
    trail t.here place.path ⊆ trail t.here path

variable {t only} {fuel : Nat}

theorem findsOnward_nil : t.FindsOnward only (fuel + 1) [] := by
  intro _ place path h
  rw [finds_nil] at h
  split at h
  · cases h
  · cases List.mem_singleton.1 h
    exact List.Subset.refl _

theorem visitsOnward_nil : t.VisitsOnward only (fuel + 1) [] := by
  intro _ place name path h
  rw [visits_nil] at h
  cases h

theorem FindsOnward.named (hfind : t.FindsOnward only fuel rest) (text : String) :
    t.FindsOnward only (fuel + 1) (.name text :: rest) := by
  intro hparts place path h
  rw [finds_name, List.mem_ite_nil_right] at h
  refine List.Subset.trans (fun q hq => ?_) (hfind hparts.tail _ _ h.2)
  exact (mem_trail_inside (hparts text List.mem_cons_self)).2 (.inl hq)

theorem FindsOnward.wild (ht : t.Sound) (hp : ∀ text, p ≠ .name text) (hfind : t.FindsOnward only fuel rest)
    (hvisit : t.VisitsOnward only fuel (p :: rest)) : t.FindsOnward only (fuel + 1) (p :: rest) := by
  intro hparts place path h
  rw [finds_other _ _ _ _ _ hp, List.mem_ite_nil_right, List.mem_append] at h
  rcases h.2 with h | h
  · obtain ⟨name, hname, h⟩ := List.mem_flatMap.1 h
    refine List.Subset.trans (fun q hq => ?_) (hfind hparts.tail _ _ h)
    exact (mem_trail_join (slash_of_mem_dotNames hname)).2 (.inl hq)
  · obtain ⟨name, hname, h⟩ := List.mem_flatMap.1 h
    refine List.Subset.trans (fun q hq => ?_) (hvisit hparts _ _ _ h)
    exact (mem_trail_inside (ht.segment_of_mem_ordered hname).slash).2 (.inl hq)

theorem VisitsOnward.matched (hp : p ≠ .directories) (hfind : t.FindsOnward only fuel rest) :
    t.VisitsOnward only (fuel + 1) (p :: rest) := by
  intro hparts place name path h
  rw [visits_other _ _ _ _ _ _ hp, List.mem_ite_nil_right] at h
  exact hfind hparts.tail _ _ h.2

theorem VisitsOnward.below (hfind : ∀ parts, t.FindsOnward only fuel parts) (rest : List Part) :
    t.VisitsOnward only (fuel + 1) (.directories :: rest) := by
  intro hparts place name path h
  have hothers := hparts.tail.of_subset (dropWhile_subset rest)
  rw [visits_directories] at h
  generalize rest.dropWhile (· == .directories) = others at h hothers
  rw [List.mem_append, List.mem_ite_nil_right] at h
  rcases h with h | h
  · split at h
    · rw [List.mem_ite_nil_right, List.mem_singleton] at h
      rw [h.2]
      exact List.Subset.refl _
    · rw [List.mem_ite_nil_right] at h
      exact hfind _ hothers.tail _ _ h.2
  · exact hfind _ hothers.directories _ _ h.2

end Steps

/-- The search never leaves the trail that it has come by. -/
theorem Sound.searches_onward (ht : t.Sound) (only : Bool) (fuel : Nat) :
    (∀ parts, t.FindsOnward only fuel parts) ∧ ∀ parts, t.VisitsOnward only fuel parts := by
  refine search_induction ?zero ?nil ?named ?wild ?matched ?below fuel
  case zero =>
    exact fun parts => ⟨fun _ _ _ h => absurd h List.not_mem_nil, fun _ _ _ _ h => absurd h List.not_mem_nil⟩
  case nil => exact fun fuel => ⟨findsOnward_nil, visitsOnward_nil⟩
  case named => exact fun fuel text rest h => h.named text
  case wild => exact fun fuel p rest hp hfind hvisit => hfind.wild ht hp hvisit
  case matched => exact fun fuel p rest hp h => .matched hp h
  case below => exact fun fuel rest h => .below h rest

theorem filter_hasTrail_eq_nil {paths : List String}
    (hpaths : ∀ found ∈ paths, trail t.here path ⊆ trail t.here found)
    (htrail : t.hasTrail path = false) : paths.filter t.hasTrail = [] := by
  rw [List.filter_eq_nil_iff]
  intro found hfound hthere
  have hpath : t.hasTrail path = true :=
    hasTrail_iff.2 fun q hq => hasTrail_iff.1 hthere q (hpaths found hfound hq)
  rw [htrail] at hpath
  cases hpath

theorem flatMap_filter {α β : Type} {keep : α → Bool} {f g : α → List β} {as : List α}
    (hkept : ∀ a ∈ as, keep a = true → f a = g a) (hleft : ∀ a ∈ as, keep a = false → g a = []) :
    (as.filter keep).flatMap f = as.flatMap g := by
  induction as with
  | nil => rfl
  | cons a as ih =>
      rw [List.forall_mem_cons] at hkept hleft
      have hrest := ih hkept.2 hleft.2
      cases hkeep : keep a with
      | true => rw [List.filter_cons_of_pos hkeep, List.flatMap_cons, List.flatMap_cons, hkept.1 hkeep, hrest]
      | false =>
          rw [List.filter_cons_of_neg (by simp [hkeep]), List.flatMap_cons, hleft.1 hkeep, hrest]
          rfl

theorem hasTrail_dots (ht : t.Sound) (htrail : t.hasTrail path = true) (hdots : name = "." ∨ name = "..") :
    (t.at? (stepPlace (placeOf t.here path) name)).isSome = true := by
  have hplace := hasTrail_iff.1 htrail _ (placeOf_mem_trail _ _)
  rcases hdots with rfl | rfl
  · exact hplace
  · exact ht.isSome_dropLast hplace

theorem Evolves.placed_eq (h : Evolves changed t t') (htrail : t.hasTrail path = true) :
    t'.placed path = t.placed path := by
  rw [placed, placed, h.isDirectory_eq htrail]

section Steps

variable (t t') (only : Bool)

/-- A search in a directory on a trail that is there already finds the same paths with such trails. -/
def FindsKept (fuel : Nat) (parts : List Part) : Prop :=
  Divided parts → ∀ path, t.hasTrail path = true → t.finds only parts (t.placed path) fuel
    = (t'.finds only parts (t'.placed path) fuel).filter t.hasTrail

/-- A search at and below a place on a trail that is there already finds the same paths with such trails. -/
def VisitsKept (fuel : Nat) (parts : List Part) : Prop :=
  Divided parts → ∀ path name, t.hasTrail path = true → t.visits only parts (t.placed path) fuel name
    = (t'.visits only parts (t'.placed path) fuel name).filter t.hasTrail

variable {t t' only} {fuel : Nat} (h : Evolves changed t t') (ht : t.Sound)

theorem visitsKept_nil : VisitsKept t t' only (fuel + 1) [] := by
  intro _ path name _
  rw [visits_nil, visits_nil, List.filter_nil]

theorem VisitsKept.matched (hp : p ≠ .directories) (hfind : FindsKept t t' only fuel rest) :
    VisitsKept t t' only (fuel + 1) (p :: rest) := by
  intro hparts path name htrail
  rw [visits_other _ _ _ _ _ _ hp, visits_other _ _ _ _ _ _ hp]
  split
  · exact hfind hparts.tail path htrail
  · rfl

include h

theorem Evolves.findsKept_nil : FindsKept t t' only (fuel + 1) [] := by
  intro _ path htrail
  rw [finds_nil, finds_nil, h.placed_eq htrail, placed_path]
  split
  · rfl
  · rw [List.filter_cons_of_pos htrail, List.filter_nil]

theorem VisitsKept.below (hfind : ∀ parts, FindsKept t t' only fuel parts) (rest : List Part) :
    VisitsKept t t' only (fuel + 1) (.directories :: rest) := by
  intro hparts path name htrail
  have hothers := hparts.tail.of_subset (dropWhile_subset rest)
  rw [visits_directories, visits_directories, h.placed_eq htrail, List.filter_append,
    apply_ite (List.filter t.hasTrail), List.filter_nil]
  generalize rest.dropWhile (· == .directories) = others at hothers
  congr 1
  · cases others with
    | nil =>
        dsimp only
        rw [apply_ite (List.filter t.hasTrail), List.filter_nil, placed_path,
          List.filter_cons_of_pos htrail, List.filter_nil]
    | cons p others =>
        dsimp only
        rw [apply_ite (List.filter t.hasTrail), List.filter_nil, ← h.placed_eq htrail,
          ← hfind others hothers.tail path htrail, h.placed_eq htrail]
  · rw [← h.placed_eq htrail, ← hfind _ hothers.directories path htrail, h.placed_eq htrail]

include ht

theorem FindsKept.named (hfind : FindsKept t t' only fuel rest) (text : String) :
    FindsKept t t' only (fuel + 1) (.name text :: rest) := by
  intro hparts path htrail
  rw [finds_name, finds_name, h.placed_eq htrail, placed_path, apply_ite (List.filter t.hasTrail),
    List.filter_nil]
  cases hnext : t.hasTrail (inside path text) with
  | true => rw [h.isThere_eq hnext, hfind hparts.tail _ hnext]
  | false =>
      -- The later tree may go on from here, but to nothing that is kept, and the earlier one has come to an end.
      have hnone : (t'.finds only rest (t'.placed (inside path text)) fuel).filter t.hasTrail = [] :=
        filter_hasTrail_eq_nil (h.here ▸ ((h.sound ht).searches_onward only fuel).1 rest hparts.tail _) hnext
      have hleft : ¬ (if text = "." ∨ text = ".." then (t.placed path).isDirectory
          else t.isThere (inside path text)) = true := by
        intro hfound
        have htext := hparts text List.mem_cons_self
        split at hfound
        · rename_i hdots
          have hthere := hasTrail_dots ht htrail hdots
          rw [← hasTrail_inside_iff htrail htext, hnext] at hthere
          cases hthere
        · have hthere := ht.hasTrail_of_isThere hfound
          rw [hnext] at hthere
          cases hthere
      rw [if_neg hleft, hnone, ite_self]

theorem FindsKept.wild (hp : ∀ text, p ≠ .name text) (hfind : FindsKept t t' only fuel rest)
    (hvisit : VisitsKept t t' only fuel (p :: rest)) : FindsKept t t' only (fuel + 1) (p :: rest) := by
  intro hparts path htrail
  rw [finds_other _ _ _ _ _ hp, finds_other _ _ _ _ _ hp, h.placed_eq htrail,
    apply_ite (List.filter t.hasTrail), List.filter_nil]
  split
  · rename_i hdir
    rw [List.filter_append, List.filter_flatMap, List.filter_flatMap]
    congr 1
    · refine List.flatMap_congr fun name hname => hfind hparts.tail _ ?_
      rw [hasTrail_iff]
      rintro q hq
      rcases (mem_trail_join (slash_of_mem_dotNames hname)).1 hq with hq | rfl
      · exact hasTrail_iff.1 htrail q hq
      · exact hasTrail_dots ht htrail (eq_dots_of_mem_dotNames hname).symm
    · rw [placed_path, h.ordered_eq ht htrail hdir]
      refine flatMap_filter (fun name _ hkept => hvisit hparts _ _ hkept) fun name _ hleft => ?_
      exact filter_hasTrail_eq_nil
        (h.here ▸ ((h.sound ht).searches_onward only fuel).2 _ hparts _ _) hleft
  · rfl

end Steps

theorem Evolves.searches_kept (h : Evolves changed t t') (ht : t.Sound) (only : Bool) (fuel : Nat) :
    (∀ parts, FindsKept t t' only fuel parts) ∧ ∀ parts, VisitsKept t t' only fuel parts := by
  refine search_induction ?zero ?nil ?named ?wild ?matched ?below fuel
  case zero => exact fun parts => ⟨fun _ _ _ => rfl, fun _ _ _ _ => rfl⟩
  case nil => exact fun fuel => ⟨h.findsKept_nil, visitsKept_nil⟩
  case named => exact fun fuel text rest hfind => hfind.named h ht text
  case wild => exact fun fuel p rest hp hfind hvisit => hfind.wild h ht hp hvisit
  case matched => exact fun fuel p rest hp hfind => .matched hp hfind
  case below => exact fun fuel rest hfind => .below h hfind rest

theorem slash_of_ofText {piece : List Char} {s : String} (hslash : '/' ∉ piece)
    (h : Part.ofText piece = .ok (.name s)) : '/' ∉ s.toList := by
  unfold Part.ofText at h
  cases htokens : tokens none 0 piece with
  | error fault =>
      rw [htokens] at h
      cases h
  | ok ts =>
      rw [htokens] at h
      simp only [Except.map, Except.ok.injEq] at h
      split at h
      · cases h
      · split at h
        · cases h
          rwa [String.toList_ofList]
        · cases h

theorem divided_of_parse {text : String} {p : Pattern} (h : Pattern.parse text = .ok p) :
    Divided p.parts := by
  have hpieces {pieces : List (List Char)} (hslash : ∀ s ∈ pieces, '/' ∉ s) {parts : List Part}
      (hparts : pieces.mapM Part.ofText = .ok parts) : Divided parts := by
    induction pieces generalizing parts with
    | nil =>
        cases hparts
        intro s hs
        cases hs
    | cons piece pieces ih =>
        rw [List.forall_mem_cons] at hslash
        rw [List.mapM_cons] at hparts
        obtain ⟨part, hpart, hparts⟩ := except_bind_eq_ok.1 hparts
        obtain ⟨others, hothers, hparts⟩ := except_bind_eq_ok.1 hparts
        cases hparts
        intro s hs
        rcases List.mem_cons.1 hs with rfl | hs
        · exact slash_of_ofText hslash.1 hpart
        · exact ih hslash.2 hothers s hs
  obtain ⟨ts, -, h⟩ := except_bind_eq_ok.1 h
  obtain ⟨parts, hparts, h⟩ := except_bind_eq_ok.1 h
  cases h
  refine hpieces (fun s hs => ?_) hparts
  have hmem : s ∈ (text.toList.dropWhile (· == '/')).splitOn '/' := by
    split at hs
    · exact (List.dropLast_sublist _).subset hs
    · exact hs
  exact Text.not_mem_of_mem_splitOn hmem

/-- A pattern finds in a tree those of the paths in a later one that have their trails there already. -/
theorem Evolves.found_eq_filter (h : Evolves changed t t') (ht : t.Sound) {text : String} {p : Pattern}
    (hparse : Pattern.parse text = .ok p) : t.found p = (t'.found p).filter t.hasTrail := by
  have hstart : t.hasTrail (if p.absolute then "/" else ".") = true := by
    rw [hasTrail_iff]
    intro place hplace
    split at hplace
    · have htrail : trail t.here "/" = [[], [], []] := rfl
      rw [htrail] at hplace
      obtain rfl : place = [] := by simpa using hplace
      rfl
    · have htrail : trail t.here "." = [t.here, t.here] := rfl
      rw [htrail] at hplace
      obtain rfl : place = t.here := by simpa using hplace
      exact isSome_of_isDirectoryAt ht.here
  exact (h.searches_kept ht _ _).1 _ (divided_of_parse hparse) _ hstart

end FileTree

end StaticPage
