import Mathlib.Data.List.Flatten
import StaticPage.Files.Path
import StaticPage.Proofs.Files.Soundness
import StaticPage.Proofs.Json.StringText
import StaticPage.Proofs.Text.Cutting

/-!
# Spellings of a path

A file below a directory is reached by joining their paths, and the directory that has to be there for it
is the one that the joined path has as its parent. That parent is spelled anew, without repeated slashes
and single dots, and `resolve_respell` says that it leads where the directory does. Only the steps that
matter, those of `essential`, decide where a path leads.
-/

namespace StaticPage

namespace FileTree

variable {t : FileTree} {place q : List String} {root name : String}

/-! ### The steps that matter -/

/-- The steps that lead away from a place. -/
def essential (names : List String) : List String :=
  names.filter fun name => !(name == "" || name == ".")

theorem foldlM_essential {names : List String} (h : names.foldlM t.step place = .ok q) :
    (essential names).foldlM t.step place = .ok q := by
  induction names generalizing place with
  | nil => exact h
  | cons name rest ih =>
      rw [List.foldlM_cons] at h
      obtain ⟨next, hstep, h⟩ := except_bind_eq_ok.1 h
      by_cases hstay : (name == "" || name == ".") = true
      · have hnext : next = place := by
          rw [(step_eq_ok hstep).2, stepPlace, if_pos (by simpa using hstay)]
        rw [essential, List.filter_cons_of_neg (by simp [hstay]), ← essential]
        exact ih (hnext ▸ h)
      · rw [essential, List.filter_cons_of_pos (by simp [hstay]), ← essential, List.foldlM_cons]
        exact except_bind_eq_ok.2 ⟨next, hstep, ih h⟩

theorem isDirectoryAt_of_foldlM {names : List String} (h : names.foldlM t.step place = .ok q)
    (hdir : t.isDirectoryAt q = true) : t.isDirectoryAt place = true := by
  cases names with
  | nil =>
      cases h
      exact hdir
  | cons name rest =>
      rw [List.foldlM_cons] at h
      obtain ⟨next, hstep, -⟩ := except_bind_eq_ok.1 h
      exact (step_eq_ok hstep).1

/-- The other steps lead nowhere else, as long as they are taken in directories. -/
theorem foldlM_of_essential {names : List String} (hdir : t.isDirectoryAt q = true)
    (h : (essential names).foldlM t.step place = .ok q) : names.foldlM t.step place = .ok q := by
  induction names generalizing place with
  | nil => exact h
  | cons name rest ih =>
      rw [List.foldlM_cons]
      by_cases hstay : (name == "" || name == ".") = true
      · rw [essential, List.filter_cons_of_neg (by simp [hstay]), ← essential] at h
        have hplace : t.isDirectoryAt place = true := isDirectoryAt_of_foldlM h hdir
        have hstep : t.step place name = .ok place := by
          rw [step, if_neg (by simp [hplace]), if_pos (by simpa using hstay)]
        exact except_bind_eq_ok.2 ⟨place, hstep, ih h⟩
      · rw [essential, List.filter_cons_of_pos (by simp [hstay]), ← essential, List.foldlM_cons] at h
        obtain ⟨next, hstep, h⟩ := except_bind_eq_ok.1 h
        exact except_bind_eq_ok.2 ⟨next, hstep, ih h⟩

end FileTree

namespace Path

open FileTree

variable {root name : String}

/-! ### Components -/

def pieces (path : String) : List (List Char) :=
  path.toList.splitOn '/'

def isComponent (s : List Char) : Bool :=
  decide ¬(s.isEmpty = true ∨ s = ['.'])

theorem map_text_filterMap (ss : List (List Char)) :
    (ss.filterMap Component.ofText?).map Component.text = ss.filter isComponent := by
  induction ss with
  | nil => rfl
  | cons s ss ih =>
      unfold Component.ofText?
      by_cases hskip : s.isEmpty = true ∨ s = ['.']
      · rw [List.filterMap_cons_none (by rw [if_pos hskip]), List.filter_cons_of_neg]
        · exact ih
        · exact fun h => of_decide_eq_true h hskip
      · have hkeep : isComponent s = true := decide_eq_true hskip
        rw [List.filter_cons_of_pos hkeep]
        by_cases hup : s = ['.', '.']
        · rw [List.filterMap_cons_some (b := .parent) (by rw [if_neg hskip, if_pos hup]), List.map_cons]
          exact congrArg₂ List.cons hup.symm ih
        · rw [List.filterMap_cons_some (b := .name s) (by rw [if_neg hskip, if_neg hup]), List.map_cons]
          exact congrArg (s :: ·) ih

theorem essential_map_ofList (ss : List (List Char)) :
    essential (ss.map String.ofList) = (ss.filter isComponent).map String.ofList := by
  rw [essential, List.filter_map]
  congr 1
  refine List.filter_congr fun s _ => ?_
  have hempty : String.ofList s = "" ↔ s = [] := String.ofList_eq_empty_iff
  have hdot : String.ofList s = "." ↔ s = ['.'] := by
    rw [← String.toList_inj, String.toList_ofList]
    rfl
  rw [Bool.eq_iff_iff]
  simp [isComponent, hempty, hdot]

theorem intercalate_cons (s : List Char) (ss : List (List Char)) :
    ['/'].intercalate (s :: ss) = s ++ ss.flatMap ('/' :: ·) := by
  induction ss generalizing s with
  | nil => simp
  | cons a ss ih => rw [List.intercalate_cons_cons, ih, List.flatMap_cons, List.append_assoc]; rfl

theorem intercalate_sublist_flatMap (ss : List (List Char)) :
    List.Sublist (['/'].intercalate ss) (ss.flatMap ('/' :: ·)) := by
  cases ss with
  | nil => exact .slnil
  | cons s ss =>
      rw [intercalate_cons, List.flatMap_cons]
      exact .cons _ (.refl _)

theorem intercalate_filter_sublist (p : List Char → Bool) (ss : List (List Char)) :
    List.Sublist (['/'].intercalate (ss.filter p)) (['/'].intercalate ss) := by
  induction ss with
  | nil => exact .refl _
  | cons s ss ih =>
      cases hs : p s with
      | true =>
          rw [List.filter_cons_of_pos hs, intercalate_cons, intercalate_cons]
          exact (List.Sublist.refl s).append (List.filter_sublist.flatMap _)
      | false =>
          rw [List.filter_cons_of_neg (by simp [hs]), intercalate_cons]
          exact ih.trans ((intercalate_sublist_flatMap ss).trans (List.sublist_append_right _ _))

/-! ### A path spelled anew -/

/-- A path without what counts for nothing in it. -/
def respell (path : String) : String :=
  ofComponents (components path)

theorem components_eq (path : String) : components path =
    if path.toList.head? = some '/' then .root :: (pieces path).filterMap Component.ofText?
    else if (pieces path).head? = some ['.'] then .current :: (pieces path).filterMap Component.ofText?
    else (pieces path).filterMap Component.ofText? :=
  rfl

theorem ofComponents_of_ne_root {cs : List Component} (h : Component.root ∉ cs) :
    ofComponents cs = String.ofList (['/'].intercalate (cs.map Component.text)) := by
  cases cs with
  | nil => rfl
  | cons c cs =>
      cases c with
      | root => exact absurd List.mem_cons_self h
      | _ => rfl

theorem root_not_mem (ss : List (List Char)) : Component.root ∉ ss.filterMap Component.ofText? := by
  intro h
  obtain ⟨s, -, hs⟩ := List.mem_filterMap.1 h
  unfold Component.ofText? at hs
  split at hs
  · cases hs
  · split at hs <;> cases hs

/-- The pieces that a path keeps when it is spelled anew, behind the dot that it may begin with. -/
def keptPieces (path : String) : List (List Char) :=
  if (pieces path).head? = some ['.'] then ['.'] :: (pieces path).filter isComponent
  else (pieces path).filter isComponent

/-- A path spelled anew is what is left of its pieces. -/
theorem toList_respell (path : String) : (respell path).toList =
    if path.toList.head? = some '/' then '/' :: ['/'].intercalate ((pieces path).filter isComponent)
    else ['/'].intercalate (keptPieces path) := by
  have hroot : Component.root ∉ (pieces path).filterMap Component.ofText? := root_not_mem _
  rw [respell, components_eq, keptPieces, ← map_text_filterMap]
  split
  · rw [ofComponents, String.toList_ofList]
  · split
    · rw [ofComponents_of_ne_root, String.toList_ofList, List.map_cons]
      · rfl
      · rw [List.mem_cons, not_or]
        exact ⟨by simp, hroot⟩
    · rw [ofComponents_of_ne_root hroot, String.toList_ofList]

theorem filter_isComponent_filter (ss : List (List Char)) :
    (ss.filter isComponent).filter isComponent = ss.filter isComponent := by
  rw [List.filter_filter]
  simp

theorem filter_keptPieces (path : String) :
    (keptPieces path).filter isComponent = (pieces path).filter isComponent := by
  unfold keptPieces
  split
  · rw [List.filter_cons_of_neg (by decide), filter_isComponent_filter]
  · exact filter_isComponent_filter _

theorem slash_not_mem {path : String} {s : List Char} (h : s ∈ keptPieces path) : '/' ∉ s := by
  have hpieces : ∀ s ∈ (pieces path).filter isComponent, '/' ∉ s :=
    fun s hs => Text.not_mem_of_mem_splitOn (List.mem_of_mem_filter hs)
  unfold keptPieces at h
  split at h
  · rcases List.mem_cons.1 h with rfl | h
    · decide
    · exact hpieces s h
  · exact hpieces s h

/-- A relative path begins with a name. -/
theorem exists_pieces {path : String} (hne : path ≠ "") (hrel : path.toList.head? ≠ some '/') :
    ∃ s rest, pieces path = s :: rest ∧ s ≠ [] := by
  obtain ⟨s, rest, hpieces⟩ := List.exists_cons_of_ne_nil (List.splitOn_ne_nil '/' path.toList)
  refine ⟨s, rest, hpieces, ?_⟩
  rintro rfl
  have hpath : rest.flatMap ('/' :: ·) = path.toList := by
    have hjoined : ['/'].intercalate (path.toList.splitOn '/') = path.toList :=
      List.intercalate_splitOn '/'
    rw [← hjoined, hpieces, intercalate_cons, List.nil_append]
  cases rest with
  | nil => exact hne (String.toList_inj.1 hpath.symm)
  | cons a rest => exact hrel (by rw [← hpath]; rfl)

theorem exists_keptPieces {path : String} (hne : path ≠ "") (hrel : path.toList.head? ≠ some '/') :
    ∃ s rest, keptPieces path = s :: rest ∧ s ≠ [] := by
  obtain ⟨s, rest, hpieces, hs⟩ := exists_pieces hne hrel
  unfold keptPieces
  rw [hpieces]
  split
  · exact ⟨_, _, rfl, by simp⟩
  · rename_i hdot
    have hkeep : isComponent s = true := decide_eq_true (by simpa [hs] using hdot)
    exact ⟨s, _, List.filter_cons_of_pos hkeep, hs⟩

theorem head?_respell {path : String} (hne : path ≠ "") :
    (respell path).toList.head? = some '/' ↔ path.toList.head? = some '/' := by
  rw [toList_respell]
  split
  · rename_i habs
    simp [habs]
  · rename_i hrel
    obtain ⟨s, rest, hkept, hs⟩ := exists_keptPieces hne hrel
    have hslash : '/' ∉ s := slash_not_mem (hkept ▸ List.mem_cons_self)
    obtain ⟨c, s, rfl⟩ := List.exists_cons_of_ne_nil hs
    rw [hkept, intercalate_cons]
    simp only [hrel, iff_false]
    intro hc
    cases hc
    exact hslash List.mem_cons_self

theorem respell_ne_empty {path : String} (hne : path ≠ "") : respell path ≠ "" := by
  intro hempty
  by_cases habs : path.toList.head? = some '/'
  · have hhead := (head?_respell hne).2 habs
    rw [hempty] at hhead
    cases hhead
  · obtain ⟨s, rest, hkept, hs⟩ := exists_keptPieces hne habs
    have htext : (respell path).toList = s ++ rest.flatMap ('/' :: ·) := by
      rw [toList_respell, if_neg habs, hkept, intercalate_cons]
    rw [hempty] at htext
    exact hs (List.append_eq_nil_iff.1 htext.symm).1

theorem splitOn_slash_cons (r : List Char) : ('/' :: r).splitOn '/' = [] :: r.splitOn '/' :=
  List.splitOn_append_cons_self [] r

theorem filter_pieces_respell {path : String} (hne : path ≠ "") :
    (pieces (respell path)).filter isComponent = (pieces path).filter isComponent := by
  rw [pieces, toList_respell]
  split
  · have hslash : ∀ s ∈ (pieces path).filter isComponent, '/' ∉ s :=
      fun s hs => Text.not_mem_of_mem_splitOn (List.mem_of_mem_filter hs)
    rw [splitOn_slash_cons, List.filter_cons_of_neg (by decide)]
    by_cases hnone : (pieces path).filter isComponent = []
    · rw [hnone]
      rfl
    · rw [List.splitOn_intercalate '/' hslash hnone, filter_isComponent_filter]
  · rename_i hrel
    obtain ⟨s, rest, hkept, -⟩ := exists_keptPieces hne hrel
    rw [List.splitOn_intercalate '/' (fun s hs => slash_not_mem hs) (by simp [hkept])]
    exact filter_keptPieces path

theorem respell_sublist (path : String) : List.Sublist (respell path).toList path.toList := by
  have hpath : path.toList = ['/'].intercalate (pieces path) := (List.intercalate_splitOn '/').symm
  rw [toList_respell]
  split
  · rename_i habs
    obtain ⟨r, hr⟩ : ∃ r, path.toList = '/' :: r := by
      cases hcs : path.toList with
      | nil => simp [hcs] at habs
      | cons c r =>
          rw [hcs] at habs
          cases habs
          exact ⟨r, rfl⟩
    have hrest : r = ['/'].intercalate (r.splitOn '/') := (List.intercalate_splitOn '/').symm
    have hsub := intercalate_filter_sublist isComponent (r.splitOn '/')
    rw [← hrest] at hsub
    rw [pieces, hr, splitOn_slash_cons, List.filter_cons_of_neg (by decide)]
    exact hsub.cons_cons '/'
  · rw [keptPieces]
    split
    · rename_i hdot
      obtain ⟨ss, hss⟩ : ∃ ss, pieces path = ['.'] :: ss := by
        cases hcs : pieces path with
        | nil => simp [hcs] at hdot
        | cons s ss =>
            rw [hcs] at hdot
            cases hdot
            exact ⟨ss, rfl⟩
      rw [hpath, hss, List.filter_cons_of_neg (by decide), intercalate_cons, intercalate_cons]
      exact (List.Sublist.refl _).append (List.filter_sublist.flatMap _)
    · rw [hpath]
      exact intercalate_filter_sublist isComponent _

theorem utf8ByteSize_le_of_sublist {path other : String} (h : List.Sublist path.toList other.toList) :
    path.utf8ByteSize ≤ other.utf8ByteSize := by
  have hsize (s : String) : s.utf8ByteSize = (Json.utf8 s.toList).length := by
    rw [← Json.toList_toUTF8]
    rfl
  rw [hsize, hsize]
  exact (h.flatMap _).length_le

theorem checkPath_eq_ok_iff {path : String} : checkPath path = .ok () ↔
    '\x00' ∉ path.toList ∧ path ≠ "" ∧ path.utf8ByteSize < pathLimit := by
  unfold checkPath
  split
  · rename_i hnul
    simp only [reduceCtorEq, false_iff, not_and]
    exact fun h => absurd (by simpa using hnul) h
  · rename_i hnul
    split
    · rename_i hempty
      simp [hempty]
    · rename_i hempty
      split
      · rename_i hlong
        simp only [reduceCtorEq, false_iff, not_and, Nat.not_lt]
        exact fun _ _ => hlong
      · rename_i hlong
        simp only [true_iff]
        exact ⟨by simpa using hnul, hempty, Nat.not_le.1 hlong⟩

theorem essential_stepsOf_respell {path : String} (hne : path ≠ "") :
    essential (stepsOf (respell path)) = essential (stepsOf path) := by
  change essential ((pieces _).map _) = essential ((pieces _).map _)
  rw [essential_map_ofList, essential_map_ofList, filter_pieces_respell hne]

/-- What is left of a path that can be looked up can be looked up, if anything is left. -/
theorem checkPath_of_sublist {path other : String} (hne : path ≠ "")
    (hsub : List.Sublist path.toList other.toList) (h : checkPath other = .ok ()) :
    checkPath path = .ok () := by
  obtain ⟨hnul, -, hlong⟩ := checkPath_eq_ok_iff.1 h
  exact checkPath_eq_ok_iff.2 ⟨fun hmem => hnul (hsub.subset hmem), hne,
    Nat.lt_of_le_of_lt (utf8ByteSize_le_of_sublist hsub) hlong⟩

/-- A directory spelled anew is the same directory. -/
theorem resolve_respell {t : FileTree} {path : String} {place : List String}
    (h : t.resolve path = .ok place) (hdir : t.isDirectoryAt place = true) :
    t.resolve (respell path) = .ok place := by
  obtain ⟨⟨⟩, hcheck, hfold⟩ := except_bind_eq_ok.1 h
  obtain ⟨-, hne, -⟩ := checkPath_eq_ok_iff.1 hcheck
  have horigin : t.origin (respell path) = t.origin path := by
    simp only [origin, head?_respell hne]
  refine except_bind_eq_ok.2
    ⟨(), checkPath_of_sublist (respell_ne_empty hne) (respell_sublist path) hcheck, ?_⟩
  rw [horigin]
  apply foldlM_of_essential hdir
  rw [essential_stepsOf_respell hne]
  exact foldlM_essential hfold

/-! ### A name behind a path -/

/-- A name that stands for one place in a directory, as far as its spelling goes. -/
structure IsFileName (name : String) : Prop where
  plain : isPlainName name = true
  slash : '/' ∉ name.toList
  nul : '\x00' ∉ name.toList
  short : name.utf8ByteSize ≤ nameLimit

instance (name : String) : Decidable (IsFileName name) :=
  decidable_of_iff (isPlainName name = true ∧ '/' ∉ name.toList ∧ '\x00' ∉ name.toList ∧
      name.utf8ByteSize ≤ nameLimit)
    ⟨fun h => ⟨h.1, h.2.1, h.2.2.1, h.2.2.2⟩, fun h => ⟨h.plain, h.slash, h.nul, h.short⟩⟩

theorem IsFileName.segment (h : IsFileName name) : IsSegment name :=
  ⟨h.plain, h.slash⟩

section

variable (hslash : '/' ∉ name.toList)

include hslash

theorem head?_ne_slash : name.toList.head? ≠ some '/' :=
  fun h => hslash (List.mem_of_head? h)

theorem pieces_of_not_mem : pieces name = [name.toList] :=
  List.splitOn_eq_singleton hslash

theorem toList_join : (join root name).toList =
    if root = "" ∨ root.toList.getLast? = some '/' then root.toList ++ name.toList
    else root.toList ++ '/' :: name.toList := by
  rw [join, if_neg (head?_ne_slash hslash)]
  by_cases h : root = "" ∨ root.toList.getLast? = some '/'
  · rw [if_pos h, if_pos (by simpa using h), String.toList_append]
  · rw [if_neg h, if_neg (by simpa using h), String.toList_append, String.toList_append,
      List.append_assoc]
    rfl

theorem sublist_join : List.Sublist root.toList (join root name).toList := by
  rw [toList_join hslash]
  split <;> exact List.sublist_append_left _ _

theorem join_ne_empty (hname : name.toList ≠ []) : join root name ≠ "" := by
  intro hempty
  have htext : (join root name).toList = _ := toList_join hslash
  rw [hempty] at htext
  split at htext
  · exact hname (List.append_eq_nil_iff.1 htext.symm).2
  · simp at htext

theorem join_empty : join "" name = name := by
  rw [← String.toList_inj, toList_join hslash, if_pos (.inl rfl)]
  rfl

/-- The pieces of a name behind a path: those of the path, without the empty one behind its last slash,
and the name. -/
theorem pieces_join (hroot : root ≠ "") : ∃ front, pieces (join root name) = front ++ [name.toList] ∧
    (pieces root = front ∨ pieces root = front ++ [[]]) ∧ front ≠ [] := by
  have hsingle : name.toList.splitOn '/' = [name.toList] := pieces_of_not_mem hslash
  rw [pieces, toList_join hslash]
  by_cases hlast : root.toList.getLast? = some '/'
  · obtain ⟨r, hr⟩ := List.getLast?_eq_some_iff.1 hlast
    refine ⟨r.splitOn '/', ?_, .inr ?_, List.splitOn_ne_nil _ _⟩
    · rw [if_pos (.inr hlast), hr, List.append_assoc, List.singleton_append,
        List.splitOn_append_cons_self, hsingle]
    · rw [pieces, hr, List.splitOn_append_cons_self]
      rfl
  · refine ⟨root.toList.splitOn '/', ?_, .inl rfl, List.splitOn_ne_nil _ _⟩
    rw [if_neg (by simp [hroot, hlast]), List.splitOn_append_cons_self, hsingle]

theorem head?_join (hroot : root ≠ "") : (join root name).toList.head? = root.toList.head? := by
  have hne : root.toList ≠ [] := fun h => hroot (String.toList_inj.1 h)
  rw [toList_join hslash]
  split <;> exact List.head?_append_of_ne_nil _ hne

theorem head?_pieces_join (hroot : root ≠ "") :
    (pieces (join root name)).head? = (pieces root).head? := by
  obtain ⟨front, hpieces, hfront, hne⟩ := pieces_join hslash hroot
  rw [hpieces, List.head?_append_of_ne_nil _ hne]
  rcases hfront with hfront | hfront
  · rw [hfront]
  · rw [hfront, List.head?_append_of_ne_nil _ hne]

/-- A component behind a path is the last of its components. -/
theorem components_join_of_ofText? {c : Component} (hcomponent : Component.ofText? name.toList = some c) :
    components (join root name) = components root ++ [c] := by
  by_cases hroot : root = ""
  · subst hroot
    have hdot : (pieces name).head? ≠ some ['.'] := by
      rw [pieces_of_not_mem hslash]
      intro h
      rw [Option.some.inj h] at hcomponent
      cases hcomponent
    rw [join_empty hslash, components_eq, if_neg (head?_ne_slash hslash), if_neg hdot,
      pieces_of_not_mem hslash, List.filterMap_cons_some hcomponent]
    rfl
  · obtain ⟨front, hpieces, hfront, -⟩ := pieces_join hslash hroot
    have hrest : (pieces root).filterMap Component.ofText? = front.filterMap Component.ofText? := by
      rcases hfront with hfront | hfront
      · rw [hfront]
      · rw [hfront, List.filterMap_append]
        simp [Component.ofText?]
    rw [components_eq, components_eq, head?_join hslash hroot, head?_pieces_join hslash hroot, hpieces,
      hrest, List.filterMap_append, List.filterMap_cons_some hcomponent, List.filterMap_nil]
    split
    · rfl
    · split <;> rfl

end

variable (hname : IsSegment name)

include hname

theorem IsSegment.ofText? : Component.ofText? name.toList = some (.name name.toList) := by
  have hplain := hname.plain
  simp only [isPlainName, Bool.not_eq_true', Bool.or_eq_false_iff, beq_eq_false_iff_ne] at hplain
  have hdot : name.toList ≠ ['.'] := fun h => hplain.1.2 (String.toList_inj.1 h)
  have hup : name.toList ≠ ['.', '.'] := fun h => hplain.2 (String.toList_inj.1 h)
  rw [Component.ofText?, if_neg (by simp [hplain.1.1, hdot]), if_neg hup]

theorem IsSegment.ne_nil : name.toList ≠ [] := by
  intro h
  have hcomponent := hname.ofText?
  rw [h] at hcomponent
  cases hcomponent

theorem components_join : components (join root name) = components root ++ [.name name.toList] :=
  components_join_of_ofText? hname.slash hname.ofText?

theorem parent?_join : parent? (join root name) = some (respell root) := by
  rw [parent?, components_join hname, List.reverse_append, List.reverse_singleton,
    List.singleton_append]
  simp only [List.reverse_reverse]
  rfl

end Path

namespace FileTree

variable {root name : String}

/-- The steps of a name behind a path are those of the path and the name, but for an empty one between
them. -/
theorem exists_stepsOf_join (hslash : '/' ∉ name.toList) (hroot : root ≠ "") :
    ∃ front, stepsOf (Path.join root name) = front ++ [name] ∧
      (stepsOf root = front ∨ stepsOf root = front ++ [""]) := by
  obtain ⟨front, hjoin, hpieces, -⟩ := Path.pieces_join hslash hroot
  refine ⟨front.map String.ofList, ?_, ?_⟩
  · change (Path.pieces _).map _ = _
    rw [hjoin]
    simp
  · change (Path.pieces _).map _ = _ ∨ (Path.pieces _).map _ = _
    rcases hpieces with hpieces | hpieces
    · exact .inl (by rw [hpieces])
    · exact .inr (by rw [hpieces]; simp)

theorem stepsOf_of_not_mem (hslash : '/' ∉ name.toList) : stepsOf name = [name] := by
  change (Path.pieces name).map _ = _
  rw [Path.pieces_of_not_mem hslash]
  simp

theorem essential_of_front {front : List String}
    (h : stepsOf root = front ∨ stepsOf root = front ++ [""]) : essential (stepsOf root) = essential front := by
  rcases h with h | h
  · rw [h]
  · rw [h, essential, essential, List.filter_append]
    simp

end FileTree

end StaticPage
