import StaticPage.Proofs.Files.Passages
import StaticPage.Proofs.Storage.Keeping

/-!
# A data directory in the place of the memory store

A tree mirrors a memory store if the files below a data directory are the entries of the store, and the
directories below it are only those that some target's file is in. No target leads through another one's
file, so a directory never stands where a file has to be, nor a file where a directory has to be. Every call
keeps the mirror, and gives the answer of the memory store: `Mirrors.perform` and `Mirrors.run`.
-/

namespace StaticPage

open FileTree

/-! ### Calls of a store -/

namespace Store

/-- A call of a store. -/
inductive Call where
  | load (target : String)
  | save (target : String) (bytes : ByteArray)

inductive Answer where
  | loaded (bytes? : Option ByteArray)
  | saved

def Call.target : Call → String
  | load target | save target _ => target

def perform {m : Type → Type} [Monad m] (store : Store m) : Call → m (Except FileFault Answer)
  | .load target => return (← store.load target).map .loaded
  | .save target bytes => return (← store.save target bytes).map fun _ => .saved

section

variable {σ : Type} {store : Store (StateM σ)} {s s' : σ} {target : String}

theorem after_perform_load {r : Except FileFault (Option ByteArray)}
    (h : after (store.load target) s = (r, s')) :
    after (store.perform (.load target)) s = (r.map .loaded, s') := by
  rw [perform, after_bind, h]
  rfl

theorem after_perform_save {r : Except FileFault Unit} {bytes : ByteArray}
    (h : after (store.save target bytes) s = (r, s')) :
    after (store.perform (.save target bytes)) s = (r.map fun _ => .saved, s') := by
  rw [perform, after_bind, h]
  rfl

end

end Store

open Store

namespace DataDirectory

variable {d : DataDirectory} {t : FileTree} {m : MemoryStore} {targets names : List String} {target : String}

/-- A data directory that is not there yet and that can be made for some targets. Nothing but directories is on
the way to it, and the way, which may go down and up again, does not come by the place of a target. -/
structure Fresh (d : DataDirectory) (t : FileTree) (targets : List String) : Prop where
  absent : t.at? (placeOf t.here d.root) = none
  passable : t.Passable d.root
  away : ∀ target ∈ targets, placeOf t.here d.root ++ stepsOf target ∉ trail t.here d.root

/-- Targets that are paths of names, and of which none is below another one. -/
structure AcceptsAll (d : DataDirectory) (targets : List String) : Prop where
  names : ∀ target ∈ targets, ∀ name ∈ stepsOf target, Path.IsFileName name
  path : ∀ target ∈ targets, checkPath (d.pathOf target) = .ok ()
  apart : ∀ target ∈ targets, ∀ other ∈ targets, stepsOf target <+: stepsOf other → target = other

/-- What stands below a data directory is what a memory store holds under some targets, in directories that
the targets lead through. -/
structure Mirrors (d : DataDirectory) (targets : List String) (t : FileTree) (m : MemoryStore) : Prop where
  sound : t.Sound
  passable : t.Passable d.root
  away : ∀ target ∈ targets, placeOf t.here d.root ++ stepsOf target ∉ trail t.here d.root
  kept {target : String} {bytes : ByteArray} (h : m.load target = some bytes) :
    target ∈ targets ∧ t.Placed (d.pathOf target) bytes
  files {names : List String} {bytes : ByteArray}
    (h : t.at? (placeOf t.here d.root ++ names) = some (.file bytes)) :
    ∃ target ∈ targets, names = stepsOf target ∧ (m.load target).isSome = true
  directories {names : List String} (h : t.at? (placeOf t.here d.root ++ names) = some .directory) :
    placeOf t.here d.root ++ names ∈ trail t.here d.root ∨
      ∃ target ∈ targets, names <+: stepsOf target ∧ names ≠ stepsOf target

/-! ### Where targets lead -/

section

variable (haccepts : d.AcceptsAll targets) (htarget : target ∈ targets)

include haccepts htarget

theorem AcceptsAll.segments : ∀ name ∈ stepsOf target, Path.IsSegment name :=
  fun name hname => (haccepts.names target htarget name hname).segment

theorem AcceptsAll.pathOf_eq : d.pathOf target = Path.under d.root (stepsOf target) := by
  have hsteps : ∀ name ∈ stepsOf target, Path.IsStep name :=
    fun name hname => (haccepts.segments htarget name hname).isStep
  have hne : stepsOf target ≠ [] := by simp [stepsOf]
  rw [pathOf]
  conv_lhs => rw [Path.eq_under_stepsOf hsteps]
  exact Path.join_under hsteps hne

theorem AcceptsAll.placeOf_pathOf (here : List String) :
    placeOf here (d.pathOf target) = placeOf here d.root ++ stepsOf target := by
  rw [haccepts.pathOf_eq htarget, placeOf_under _ _ (haccepts.segments htarget)]

/-- A target has a last name, behind the names of the directories that its file is in. -/
theorem AcceptsAll.exists_name : ∃ above name, stepsOf target = above ++ [name] ∧
    (∀ other ∈ above, Path.IsFileName other) ∧ Path.IsFileName name ∧
    d.pathOf target = Path.join (Path.under d.root above) name := by
  have hnames := haccepts.names target htarget
  rcases List.eq_nil_or_concat' (stepsOf target) with hnil | ⟨above, name, hsteps⟩
  · exact absurd hnil (by simp [stepsOf])
  · rw [hsteps, List.forall_mem_append, List.forall_mem_singleton] at hnames
    refine ⟨above, name, hsteps, hnames.1, hnames.2, ?_⟩
    rw [haccepts.pathOf_eq htarget, hsteps, Path.under_concat]

end

/-! ### What the mirror says of a target -/

namespace Mirrors

variable (h : d.Mirrors targets t m) (haccepts : d.AcceptsAll targets) (htarget : target ∈ targets)

include h haccepts htarget

/-- A file that a target leads through is its own. -/
theorem eq_of_file {bytes : ByteArray} (hnames : names <+: stepsOf target)
    (hat : t.at? (placeOf t.here d.root ++ names) = some (.file bytes)) :
    names = stepsOf target ∧ (m.load target).isSome = true := by
  obtain ⟨other, hother, rfl, hloaded⟩ := h.files hat
  obtain rfl := haccepts.apart other hother target htarget hnames
  exact ⟨rfl, hloaded⟩

theorem not_directory : t.isDirectoryAt (placeOf t.here d.root ++ stepsOf target) = false := by
  rw [← Bool.not_eq_true, isDirectoryAt_iff]
  intro hat
  rcases h.directories hat with hway | ⟨other, hother, hpart, hne⟩
  · exact h.away target htarget hway
  · exact hne (by rw [haccepts.apart target htarget other hother hpart])

theorem at?_eq_none (hload : m.load target = none) :
    t.at? (placeOf t.here d.root ++ stepsOf target) = none := by
  have hdir := h.not_directory haccepts htarget
  cases hat : t.at? (placeOf t.here d.root ++ stepsOf target) with
  | none => rfl
  | some entry =>
      cases entry with
      | directory => simp [isDirectoryAt, hat] at hdir
      | file bytes =>
          have hloaded := (h.eq_of_file haccepts htarget (List.prefix_refl _) hat).2
          rw [hload] at hloaded
          cases hloaded

theorem passable_of_load (hload : m.load target = none) : t.Passable (d.pathOf target) := by
  rw [haccepts.pathOf_eq htarget]
  refine h.passable.under (haccepts.names target htarget) fun above habove bytes hat => ?_
  have hloaded := (h.eq_of_file haccepts htarget habove hat).2
  rw [hload] at hloaded
  cases hloaded

theorem read_eq : t.read (d.pathOf target) = match m.load target with
    | some bytes => .ok bytes
    | none => .error .notFound := by
  cases hload : m.load target with
  | some bytes => exact (h.kept hload).2.read
  | none =>
      have hresolve := (h.passable_of_load haccepts htarget hload).resolve_eq h.sound
        (haccepts.path target htarget)
      have hmissing : ¬ t.hasTrail (d.pathOf target) = true := by
        intro htrail
        have hlast := hasTrail_iff.1 htrail _ (placeOf_mem_trail _ _)
        rw [haccepts.placeOf_pathOf htarget, h.at?_eq_none haccepts htarget hload] at hlast
        cases hlast
      rw [if_neg hmissing] at hresolve
      rw [FileTree.read, hresolve]
      rfl

end Mirrors

/-! ### What a call does -/

/-- What comes before the last name of a target is a part of it. -/
theorem prefix_of_prefix_above {above : List String} {name : String}
    (hsteps : stepsOf target = above ++ [name]) (h : names <+: above) :
    names <+: stepsOf target ∧ names ≠ stepsOf target := by
  rw [hsteps]
  refine ⟨h.trans (List.prefix_append _ _), fun heq => ?_⟩
  have hlength := h.length_le
  rw [heq, List.length_append, List.length_singleton] at hlength
  omega

/-- On the way to the directory of a target's file there are the way to the data directory and directories that
the target leads through. -/
theorem AcceptsAll.of_mem_trail_above (haccepts : d.AcceptsAll targets) (htarget : target ∈ targets)
    {above : List String} {name : String} (hsteps : stepsOf target = above ++ [name])
    (hmem : placeOf t.here d.root ++ names ∈ trail t.here (Path.under d.root above)) :
    placeOf t.here d.root ++ names ∈ trail t.here d.root ∨
      names <+: stepsOf target ∧ names ≠ stepsOf target := by
  have hsegments := haccepts.segments htarget
  rw [hsteps, List.forall_mem_append] at hsegments
  rcases (mem_trail_under hsegments.1).1 hmem with hroot | ⟨before, hbefore, heq⟩
  · exact .inl hroot
  · rw [List.append_cancel_left heq]
    exact .inr (prefix_of_prefix_above hsteps hbefore)

namespace Mirrors

variable (h : d.Mirrors targets t m) (haccepts : d.AcceptsAll targets) (htarget : target ∈ targets)
  {above : List String} {name : String} (hsteps : stepsOf target = above ++ [name])

include h haccepts htarget hsteps

theorem passable_above : t.Passable (Path.under d.root above) := by
  have hnames := haccepts.names target htarget
  rw [hsteps, List.forall_mem_append] at hnames
  refine h.passable.under hnames.1 fun before hbefore bytes hat => ?_
  obtain ⟨hpart, hne⟩ := prefix_of_prefix_above hsteps hbefore
  exact hne (h.eq_of_file haccepts htarget hpart hat).1

theorem not_mem_trail_above :
    placeOf t.here d.root ++ stepsOf target ∉ trail t.here (Path.under d.root above) := by
  intro hmem
  rcases haccepts.of_mem_trail_above htarget hsteps hmem with hroot | ⟨-, hne⟩
  · exact h.away target htarget hroot
  · exact hne rfl

/-- A tree in which the file of a target was written mirrors the store in which the target was saved. -/
theorem saved {t' : FileTree} {bytes : ByteArray}
    (hsame : SameBut ((placeOf t.here d.root ++ stepsOf target) :: trail t.here (Path.under d.root above)) t t')
    (hevolves : Evolves [placeOf t.here d.root ++ stepsOf target] t t')
    (hplaced : t'.Placed (d.pathOf target) bytes) : d.Mirrors targets t' (m.save target bytes) where
  sound := hevolves.sound h.sound
  passable := h.passable.keepsBut hevolves.toKeepsBut (by simpa using h.away target htarget)
  away := by
    rw [hevolves.here]
    exact h.away
  kept {other old} hload := by
    by_cases hother : other = target
    · subst hother
      rw [MemoryStore.load_save_self] at hload
      cases hload
      exact ⟨htarget, hplaced⟩
    · rw [MemoryStore.load_save_of_ne _ hother] at hload
      obtain ⟨hmem, hold⟩ := h.kept hload
      refine ⟨hmem, hold.later hevolves ?_⟩
      rw [haccepts.placeOf_pathOf hmem, List.mem_singleton, List.append_right_inj]
      exact fun heq => hother (Path.stepsOf_injective heq)
  files {names old} hat := by
    rw [hevolves.here] at hat
    by_cases hnames : names = stepsOf target
    · exact ⟨target, htarget, hnames, by simp⟩
    · obtain ⟨other, hmem, rfl, hloaded⟩ := h.files (hevolves.only (by simpa using hnames) hat)
      refine ⟨other, hmem, rfl, ?_⟩
      rwa [MemoryStore.load_save_of_ne _ fun heq => hnames (by rw [heq])]
  directories {names} hat := by
    rw [hevolves.here] at hat ⊢
    by_cases hway : placeOf t.here d.root ++ names ∈ trail t.here (Path.under d.root above)
    · exact (haccepts.of_mem_trail_above htarget hsteps hway).imp_right fun hpart =>
        ⟨target, htarget, hpart⟩
    · by_cases hnames : names = stepsOf target
      · -- the file itself is no directory
        have hfile := hplaced.file
        rw [hevolves.here, haccepts.placeOf_pathOf htarget, ← hnames, hat] at hfile
        cases hfile
      · rw [hsame _ (by simpa [hnames] using hway)] at hat
        exact h.directories hat

end Mirrors

variable {σ : Type} [HasTree σ] {s : σ}

namespace Mirrors

section

variable (h : d.Mirrors targets (tree s) m) (haccepts : d.AcceptsAll targets) (htarget : target ∈ targets)

include h haccepts htarget

theorem load : after (d.load (FileTree.access (m := StateM σ)) target) s = (.ok (m.load target), s) := by
  rw [DataDirectory.load, after_bind, after_read, h.read_eq haccepts htarget]
  cases m.load target <;> rfl

theorem save (bytes : ByteArray) : ∃ t, d.Mirrors targets t (m.save target bytes) ∧
    after (d.save (FileTree.access (m := StateM σ)) target bytes) s = (.ok (), withTree s t) := by
  obtain ⟨above, name, hsteps, habove, hname, hpath⟩ := haccepts.exists_name htarget
  have hplace : placeOf (tree s).here (Path.under d.root above) ++ [name]
      = placeOf (tree s).here d.root ++ stepsOf target := by
    rw [placeOf_under _ _ fun other hother => (habove other hother).segment, hsteps, List.append_assoc]
  have haway := h.not_mem_trail_above haccepts htarget hsteps
  have hcheck := haccepts.path target htarget
  rw [hpath] at hcheck
  obtain ⟨t, hsame, hwritten⟩ := after_writeDeep_join h.sound
    (h.passable_above haccepts htarget hsteps) hname hcheck (hplace ▸ haway)
    (hplace ▸ h.not_directory haccepts htarget) bytes
  rw [hplace] at hsame
  rw [← hpath] at hwritten
  obtain ⟨t', heq, hevolves, hplaced⟩ := evolves_writeDeep hwritten
  obtain rfl := HasTree.withTree_injective s heq
  rw [haccepts.placeOf_pathOf htarget] at hevolves
  exact ⟨t, h.saved haccepts htarget hsteps hsame hevolves (hplaced rfl), hwritten⟩

end

/-- A call gives the same answer in a mirror as in memory, and leaves a mirror behind. -/
theorem perform (h : d.Mirrors targets (tree s) m) (haccepts : d.AcceptsAll targets) {call : Call}
    (hcall : call.target ∈ targets) : ∃ answer t m', d.Mirrors targets t m' ∧
      after ((d.store (FileTree.access (m := StateM σ))).perform call) s = (.ok answer, withTree s t) ∧
      after ((MemoryStore.store (m := StateM MemoryStore)).perform call) m = (.ok answer, m') := by
  cases call with
  | load target =>
      have hloaded : after ((d.store (FileTree.access (m := StateM σ))).load target) s
          = (.ok (m.load target), s) := h.load haccepts hcall
      refine ⟨.loaded (m.load target), tree s, m, h, ?_, rfl⟩
      rw [after_perform_load hloaded, HasTree.withTree_tree]
      rfl
  | save target bytes =>
      obtain ⟨t, hmirrors, hsaved⟩ := h.save haccepts hcall bytes
      have hsaved : after ((d.store (FileTree.access (m := StateM σ))).save target bytes) s
          = (.ok (), withTree s t) := hsaved
      refine ⟨.saved, t, m.save target bytes, hmirrors, ?_, rfl⟩
      rw [after_perform_save hsaved]
      rfl

/-- A run of calls gives the same answers in a mirror as in memory. -/
theorem run (h : d.Mirrors targets (tree s) m) (haccepts : d.AcceptsAll targets) {calls : List Call}
    (hcalls : ∀ call ∈ calls, call.target ∈ targets) : ∃ answers : List Answer,
      (after (calls.mapM ((d.store (FileTree.access (m := StateM σ))).perform)) s).1 = answers.map .ok ∧
      (after (calls.mapM ((MemoryStore.store (m := StateM MemoryStore)).perform)) m).1
        = answers.map .ok := by
  induction calls generalizing s m with
  | nil => exact ⟨[], rfl, rfl⟩
  | cons call calls ih =>
      rw [List.forall_mem_cons] at hcalls
      obtain ⟨answer, t, m', hmirrors, hdirectory, hmemory⟩ := h.perform haccepts hcalls.1
      obtain ⟨answers, hdirectories, hmemories⟩ := ih (s := withTree s t) (by simpa using hmirrors) hcalls.2
      refine ⟨answer :: answers, ?_, ?_⟩
      · rw [List.mapM_cons, after_bind, hdirectory, after_bind, after_pure, hdirectories]
        rfl
      · rw [List.mapM_cons, after_bind, hmemory, after_bind, after_pure, hmemories]
        rfl

end Mirrors

/-! ### A fresh data directory -/

theorem Fresh.mirrors (h : d.Fresh t targets) (ht : t.Sound) : d.Mirrors targets t .empty := by
  have hbelow (names : List String) : t.at? (placeOf t.here d.root ++ names) = none := by
    rw [← Option.not_isSome_iff_eq_none]
    intro hthere
    have hroot := ht.isSome_of_append hthere
    rw [h.absent] at hroot
    cases hroot
  refine ⟨ht, h.passable, h.away, fun hload => ?_, fun hat => ?_, fun hat => ?_⟩
  · cases hload
  · rw [hbelow] at hat
    cases hat
  · rw [hbelow] at hat
    cases hat

/-- Every run of calls on a fresh data directory succeeds, and gives the answers that the memory store gives. -/
theorem refines_memory (ht : (tree s).Sound) {calls : List Call}
    (hfresh : d.Fresh (tree s) (calls.map Call.target)) (haccepts : d.AcceptsAll (calls.map Call.target)) :
    ∃ answers : List Answer,
      (after (calls.mapM ((d.store (FileTree.access (m := StateM σ))).perform)) s).1 = answers.map .ok ∧
      (after (calls.mapM ((MemoryStore.store (m := StateM MemoryStore)).perform)) .empty).1
        = answers.map .ok :=
  (hfresh.mirrors ht).run haccepts fun _ hcall => List.mem_map_of_mem hcall

/-- A tree with the sources of a site, in which nothing was kept yet. -/
def siteTree : FileTree :=
  ⟨[(["site"], .directory), (["site", "index.hi"], .file "a".toUTF8)], []⟩

theorem sound_siteTree : siteTree.Sound where
  nodup := by decide
  inside := by
    intro place hplace
    simp only [siteTree, Dictionary.keys, List.map_cons, List.map_nil, List.mem_cons, List.not_mem_nil,
      or_false] at hplace
    rcases hplace with rfl | rfl
    · exact ⟨[], _, rfl, ⟨by decide, by decide⟩, rfl⟩
    · exact ⟨["site"], _, rfl, ⟨by decide, by decide⟩, rfl⟩
  here := rfl

def siteCalls : List Call :=
  [.load "cache/langs.json", .save "cache/langs.json" "{}".toUTF8, .save "cache/posts/a.json" "1".toUTF8,
    .save "site.json" "2".toUTF8, .save "cache/langs.json" "[]".toUTF8, .load "cache/langs.json",
    .load "cache/posts/a.json", .load "cache/posts/b.json"]

theorem fresh_siteTree : (DataDirectory.mk "site/data/v1").Fresh siteTree (siteCalls.map Call.target) where
  absent := by decide
  passable := by
    have hway : ∀ q ∈ trail siteTree.here "site/data/v1",
        siteTree.isDirectoryAt q = true ∨ siteTree.at? q = none := by decide
    refine ⟨by decide, fun q hq bytes hat => ?_⟩
    rcases hway q hq with hdir | hnone
    · rw [isDirectoryAt, hat] at hdir
      cases hdir
    · rw [hnone] at hat
      cases hat
  away := by decide

theorem accepts_siteCalls : (DataDirectory.mk "site/data/v1").AcceptsAll (siteCalls.map Call.target) where
  names := by decide
  path := by decide
  apart := by decide

/-- A data directory below one that is there already answers calls with nested targets. -/
theorem refines_memory_nested :
    (siteTree.Sound ∧ (DataDirectory.mk "site/data/v1").Fresh siteTree (siteCalls.map Call.target) ∧
      (DataDirectory.mk "site/data/v1").AcceptsAll (siteCalls.map Call.target)) ∧
    (after (siteCalls.mapM (((DataDirectory.mk "site/data/v1").store
        (FileTree.access (m := StateM FileTree))).perform)) siteTree).1
      = [.loaded none, .saved, .saved, .saved, .saved, .loaded (some "[]".toUTF8),
          .loaded (some "1".toUTF8), .loaded none].map .ok := by
  refine ⟨⟨sound_siteTree, fresh_siteTree, accepts_siteCalls⟩, ?_⟩
  obtain ⟨answers, hdirectory, hmemory⟩ :=
    refines_memory (s := siteTree) sound_siteTree fresh_siteTree accepts_siteCalls
  rw [hdirectory, ← hmemory]
  rfl

end DataDirectory

end StaticPage
