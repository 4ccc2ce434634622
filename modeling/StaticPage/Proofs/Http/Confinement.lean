import StaticPage.Proofs.Http.Histories
import StaticPage.Proofs.Site.Publication
import StaticPage.Proofs.Storage.Escapes

/-!
# Where fetches and caches are kept

A fetch keeps its answer under the target of a binding, and a context keeps its caches under the targets
of the lazy ones. Whatever the network answers and whether or not keeping succeeds, no file is touched but
those that the targets of the document lead to from the root of the data directory. Nothing checks a target,
so that a document stays below every root exactly if those of its targets that can be kept at all are
confined, `touched_files_below_root_iff`.
-/

namespace StaticPage

open Context FileTree Relation

namespace FileTree

/-- From one tree to another no file has changed but those that some paths lead to. -/
def Spares (paths : List String) (t t' : FileTree) : Prop :=
  KeepsBut (paths.map (placeOf t.here)) t t'

variable {t t' t'' : FileTree} {paths : List String}

theorem Spares.refl (paths : List String) (t : FileTree) : Spares paths t t :=
  (Grows.refl t).keepsBut _

theorem Spares.trans (h : Spares paths t t') (h' : Spares paths t' t'') : Spares paths t t'' := by
  rw [Spares, h.here] at h'
  exact (KeepsBut.trans h h').mono (by simp)

/-- The file at a place was created, changed or taken away. -/
def Touched (t t' : FileTree) (place : List String) : Prop :=
  ∃ bytes, ¬ (t'.at? place = some (.file bytes) ↔ t.at? place = some (.file bytes))

/-- A file that was touched is that of one of the paths. -/
theorem Spares.exists_of_touched (h : Spares paths t t') {place : List String}
    (htouched : Touched t t' place) : ∃ path ∈ paths, placeOf t.here path = place := by
  obtain ⟨bytes, hne⟩ := htouched
  by_contra hnone
  have hplace : place ∉ paths.map (placeOf t.here) := by
    intro hmem
    obtain ⟨path, hpath, heq⟩ := List.mem_map.1 hmem
    exact hnone ⟨path, hpath, heq⟩
  exact hne ⟨KeepsBut.only h hplace, KeepsBut.keeps h hplace⟩

theorem Spares.not_touched (h : Spares paths t t') {place : List String}
    (hdir : t.isDirectoryAt place = true) : ¬ Touched t t' place := by
  rintro ⟨bytes, hne⟩
  have hlater := isDirectoryAt_iff.1 (KeepsBut.directories h hdir)
  rw [hlater, isDirectoryAt_iff.1 hdir] at hne
  simp at hne

end FileTree

variable {answers : Answers} {d : DataDirectory} {doc : Document} {w w' : World} {paths : List String}
  {target url : String} {place file : List String}

def World.Spares (paths : List String) (w w' : World) : Prop :=
  FileTree.Spares paths w.tree w'.tree

instance : IsPreorder World (World.Spares paths) where
  refl w := .refl paths w.tree
  trans _ _ _ h h' := FileTree.Spares.trans h h'

theorem World.spares_of_tree (h : w'.tree = w.tree) : World.Spares paths w w' := by
  rw [World.Spares, h]
  exact .refl _ _

/-! ### One operation -/

theorem stays_save (answers : Answers) (d : DataDirectory) (bytes : ByteArray)
    (hpaths : Keepable target → d.pathOf target ∈ paths) :
    Stays (World.Spares paths) ((answers.fetcher d).store.save target bytes) := by
  intro w
  change World.Spares _ w (after ((access (m := StateM World)).writeDeep (d.pathOf target) bytes) w).2
  obtain ⟨t, hgrows, ⟨fault, hfault⟩ | ⟨t', hwrite, hok⟩⟩ := after_writeDeep (d.pathOf target) bytes w
  · rw [hfault]
    exact hgrows.keepsBut _
  · obtain ⟨rfl, hdir, -⟩ := write_eq_ok hwrite
    have hplace : placeOf t.here (d.pathOf target) ∈ paths.map (placeOf w.tree.here) := by
      have hhere : t.here = w.tree.here := hgrows.here
      rw [hhere]
      exact List.mem_map_of_mem (hpaths ⟨d, t, _, bytes, hwrite⟩)
    rw [hok]
    exact ((hgrows.keepsBut []).trans (keepsBut_put hdir _)).mono (by simpa using hplace)

theorem stays_fetch (answers : Answers) (d : DataDirectory) (url : String)
    (hpaths : Keepable target → d.pathOf target ∈ paths) :
    Stays (World.Spares paths) ((answers.fetcher d).fetch target url) := by
  intro w
  rcases hfetch : after ((answers.fetcher d).fetch target url) w with ⟨r, w'⟩
  cases HttpFetcher.exchange_of_fetch hfetch with
  | failed h =>
      rcases h with rfl | rfl
      · exact refl w'
      · exact World.spares_of_tree rfl
  | @changed _ answer body _ _ _ _ _ _ hsave =>
      have hkept := stays_save answers d body hpaths (w.noting url (answer.etag.bind Validators.ofHeader?))
      rw [hsave] at hkept
      exact hkept
  | unchanged => exact World.spares_of_tree rfl

/-- A page without a validator that is asked for the first time is kept, if it can be kept. -/
theorem after_fetch_unvalidated (d : DataDirectory) (target : String) {u : Url} (body : ByteArray)
    (hurl : Url.parse url = .ok u) (haddr : u.isAddressable = true) (hknown : w.validators.find? url = none)
    (hanswer : answers w.sent ⟨u, none⟩ = .ok ⟨200, none, .ok body⟩) :
    (after ((answers.fetcher d).fetch target url) w).2
      = (after ((answers.fetcher d).store.save target body) w.ask).2 := by
  have hsendable : ∀ e ∈ (none : Option String), Validators.isSendable e = true := nofun
  have hsend := HttpFetcher.after_send answers d w hurl haddr hsendable
  rw [HttpFetcher.fetch, after_bind, HttpFetcher.after_getValidators]
  dsimp only
  rw [after_bind, hknown, hsend, hanswer]
  simp only [Except.mapError, Option.bind_none]
  rw [if_pos trivial, after_bind]
  change _ = (after ((answers.fetcher d).directory.save (answers.fetcher d).files target body) w.ask).2
  rcases after ((answers.fetcher d).directory.save (answers.fetcher d).files target body) w.ask with ⟨saved, w'⟩
  cases saved <;> rfl

/-! ### Any number of operations -/

/-- What may be done for a document: an answer from any URL is fetched for one of its bindings, the caches
of one of its contexts are kept, or something happens that leaves the files alone. -/
inductive Keeping (f : HttpFetcher (StateM World)) (doc : Document) : World → World → Prop where
  | fetch {b : Binding} (hb : b ∈ doc.bindings) (url : String) (w : World) :
      Keeping f doc w (after (f.fetch b.target url) w).2
  | persist {ctx : Context} (hctx : LaziesOf doc ctx) (w : World) :
      Keeping f doc w (outcome (ctx.persist f.store) w).2
  | aside {w w' : World} (h : w'.tree = w.tree) : Keeping f doc w w'

open Classical in
noncomputable def DataDirectory.pathsOf (d : DataDirectory) (doc : Document) : List String :=
  (doc.bindings.filter fun b => Keepable b.target).map fun b => d.pathOf b.target

theorem DataDirectory.mem_pathsOf {path : String} :
    path ∈ d.pathsOf doc ↔ ∃ b ∈ doc.bindings, Keepable b.target ∧ d.pathOf b.target = path := by
  simp [pathsOf, and_assoc]

theorem spares_of_keeping (h : Keeping (answers.fetcher d) doc w w') :
    World.Spares (d.pathsOf doc) w w' := by
  have hpaths {b : Binding} (hb : b ∈ doc.bindings) (hkeepable : Keepable b.target) :
      d.pathOf b.target ∈ d.pathsOf doc :=
    DataDirectory.mem_pathsOf.2 ⟨b, hb, hkeepable, rfl⟩
  cases h with
  | fetch hb url => exact stays_fetch answers d url (hpaths hb) w
  | persist hctx =>
      refine (stays_persist ?_).run w
      intro a ha
      obtain ⟨b, hb, -, htarget⟩ := hctx a ha
      rw [htarget]
      exact stays_save answers d a.persisted (hpaths hb)
  | aside h => exact World.spares_of_tree h

theorem spares_of_keepings (h : ReflTransGen (Keeping (answers.fetcher d) doc) w w') :
    World.Spares (d.pathsOf doc) w w' := by
  induction h with
  | refl => exact refl w
  | tail _ hstep ih => exact IsTrans.trans _ _ _ ih (spares_of_keeping hstep)

/-! ### The files that are touched -/

/-- A data directory is there, and a file is touched by what is done for a document. -/
structure Document.Touches (doc : Document) (answers : Answers) (d : DataDirectory) (place : List String)
    (w w' : World) (file : List String) : Prop where
  stands : d.StandsAt w.tree place
  run : ReflTransGen (Keeping (answers.fetcher d) doc) w w'
  touched : Touched w.tree w'.tree file

theorem DataDirectory.StandsAt.place_eq {t : FileTree} (h : d.StandsAt t place) :
    place = placeOf t.here d.root := by
  have hfound := h.found
  split at hfound
  · rename_i hroot
    rw [hroot]
    exact hfound
  · exact resolve_eq_ok hfound

/-- A file that is touched is that of a target that can be kept, and below the root if that is confined. -/
theorem Document.Touches.exists_binding (h : doc.Touches answers d place w w' file) :
    ∃ b ∈ doc.bindings, Keepable b.target ∧ placeOf w.tree.here (d.pathOf b.target) = file ∧
      (Path.Confined b.target → place <+: file ∧ file ≠ place) := by
  have hspares := spares_of_keepings h.run
  obtain ⟨path, hpath, hfile⟩ := FileTree.Spares.exists_of_touched hspares h.touched
  obtain ⟨b, hb, hkeepable, rfl⟩ := DataDirectory.mem_pathsOf.1 hpath
  refine ⟨b, hb, hkeepable, hfile, fun hconfined => ⟨?_, ?_⟩⟩
  · rw [← hfile, h.stands.place_eq, DataDirectory.pathOf, hconfined.placeOf_join]
    exact List.prefix_append _ _
  · rintro rfl
    exact FileTree.Spares.not_touched hspares h.stands.directory h.touched

/-- A target that escapes is kept outside of the root by one fetch. -/
theorem exists_touches_outside {b : Binding} (hb : b ∈ doc.bindings) (hkeepable : Keepable b.target)
    (hconfined : ¬ Path.Confined b.target) : ∃ answers d place w w' file, w.tree.Sound ∧
      doc.Touches answers d place w w' file ∧ ¬ place <+: file := by
  obtain ⟨d, t, place, hescapes⟩ := exists_escape hkeepable hconfined
  let answers : Answers := fun _ _ => .ok ⟨200, none, .ok .empty⟩
  let w : World := ⟨t, .empty, 0, []⟩
  have hanswer : answers w.sent ⟨Url.loopback, none⟩ = .ok ⟨200, none, .ok .empty⟩ := rfl
  have hfetch := after_fetch_unvalidated d b.target .empty parse_loopback isAddressable_loopback rfl hanswer
  rcases hsave : after ((answers.fetcher d).store.save b.target .empty) w.ask with ⟨saved, w'⟩
  have hsaved : saved = .ok () := by
    have hwritten := hescapes.written (s := w.ask) rfl .empty
    change (after ((answers.fetcher d).store.save b.target .empty) w.ask).1 = .ok () at hwritten
    rwa [hsave] at hwritten
  obtain ⟨t', rfl, -, hfile⟩ := writeDeep_cases (d.pathOf b.target) .empty w.ask hsave
  have hkeeping : Keeping (answers.fetcher d) doc w (withTree w.ask t') := by
    have hstep := Keeping.fetch (f := answers.fetcher d) hb "http://[::1]/a" w
    rwa [hfetch, hsave] at hstep
  refine ⟨answers, d, place, w, withTree w.ask t', placeOf t.here (d.pathOf b.target), hescapes.sound,
    ⟨hescapes.stands, .single hkeeping, .empty, fun h => ?_⟩, hescapes.outside⟩
  have hold := h.1 (hfile hsaved)
  rw [hescapes.free] at hold
  cases hold

/-- **Every file that fetches and caches touch is that of a target that can be kept**, and a document leaves
alone what is outside of every data directory exactly if those of its targets are confined. -/
theorem touched_files_below_root_iff (doc : Document) :
    (∀ answers d place w w' file, doc.Touches answers d place w w' file →
      ∃ b ∈ doc.bindings, Keepable b.target ∧ placeOf w.tree.here (d.pathOf b.target) = file ∧
        (Path.Confined b.target → place <+: file ∧ file ≠ place)) ∧
    ((∀ answers d place w w' file, w.tree.Sound → doc.Touches answers d place w w' file →
        place <+: file ∧ file ≠ place) ↔
      ∀ b ∈ doc.bindings, Keepable b.target → Path.Confined b.target) := by
  refine ⟨fun _ _ _ _ _ _ h => h.exists_binding, fun hbelow b hb hkeepable => ?_, fun hconfined => ?_⟩
  · by_contra hescapes
    obtain ⟨answers, d, place, w, w', file, hsound, htouches, houtside⟩ :=
      exists_touches_outside hb hkeepable hescapes
    exact houtside (hbelow answers d place w w' file hsound htouches).1
  · intro answers d place w w' file _ htouches
    obtain ⟨b, hb, hkeepable, -, hbelow⟩ := htouches.exists_binding
    exact hbelow (hconfined b hb hkeepable)

/-! ### Caches in a directory that is empty -/

def vacantFetcher : HttpFetcher (StateM World) :=
  Answers.fetcher (fun _ request => .error (Network.noWay request)) .data

def Document.ofLazy (target : String) : Document :=
  ⟨[⟨"a", target, .lazy "http://x/\x7bp\x7d", 1⟩], []⟩

def Context.ofLazy (target : String) : Context :=
  ⟨[], [.new "a" target "http://x/\x7bp\x7d"]⟩

theorem laziesOf_ofLazy (target : String) : LaziesOf (.ofLazy target) (.ofLazy target) := by
  intro a ha
  cases List.mem_singleton.1 ha
  exact ⟨_, List.mem_singleton_self _, ⟨_, rfl⟩, rfl⟩

def World.keptLazy (target : String) : World :=
  (outcome ((Context.ofLazy target).persist vacantFetcher.store) (.empty 0)).2

theorem touched_of_isSome {target : String} {file : List String}
    (hnew : ((filing World).bytes (.keptLazy target) file).isSome = true)
    (hold : (World.empty 0).tree.at? file = none) :
    Touched (World.empty 0).tree (World.keptLazy target).tree file := by
  obtain ⟨bytes, hbytes⟩ := Option.isSome_iff_exists.1 hnew
  refine ⟨bytes, fun h => ?_⟩
  have hfile := h.1 (filing_bytes_eq_some.1 hbytes)
  rw [hold] at hfile
  cases hfile

set_option maxRecDepth 100000 in
/-- The cache of a lazy binding is kept in a directory below the root. -/
theorem touched_files_below_root_subdirectory :
    (Document.ofLazy "langs/a.json").Touches (fun _ request => .error (Network.noWay request)) .data ["data"]
        (.empty 0) (.keptLazy "langs/a.json") ["data", "langs", "a.json"] ∧
      ∃ b ∈ (Document.ofLazy "langs/a.json").bindings, Keepable b.target ∧
        placeOf [] (DataDirectory.data.pathOf b.target) = ["data", "langs", "a.json"] ∧
          (Path.Confined b.target →
            ["data"] <+: ["data", "langs", "a.json"] ∧ ["data", "langs", "a.json"] ≠ ["data"]) := by
  have htouches : (Document.ofLazy "langs/a.json").Touches (fun _ request => .error (Network.noWay request))
      .data ["data"] (.empty 0) (.keptLazy "langs/a.json") ["data", "langs", "a.json"] :=
    ⟨standsAt_empty 0, .single (.persist (laziesOf_ofLazy _) (.empty 0)),
      touched_of_isSome (by decide +kernel) rfl⟩
  exact ⟨htouches, (touched_files_below_root_iff (.ofLazy "langs/a.json")).1 _ _ _ _ _ _ htouches⟩

set_option maxRecDepth 100000 in
/-- A target that climbs above the root is accepted, and its file is made beside the data directory. -/
theorem touched_file_beside_root :
    Document.parse "!a = ../a.json << http://x/\x7bp\x7d\n" = .ok (.ofLazy "../a.json") ∧
      outcome (ofDocument vacantFetcher.store vacantFetcher.fetcher (.ofLazy "../a.json")) (.empty 0)
        = (.ok (.ofLazy "../a.json"), .empty 0) ∧
      (Document.ofLazy "../a.json").Touches (fun _ request => .error (Network.noWay request)) .data ["data"]
        (.empty 0) (.keptLazy "../a.json") ["a.json"] ∧
      ¬ ["data"] <+: ["a.json"] := by
  refine ⟨?_, ?_, ⟨standsAt_empty 0, .single (.persist (laziesOf_ofLazy _) (.empty 0)), ?_⟩, by decide⟩
  · with_unfolding_all rfl
  · with_unfolding_all rfl
  · exact touched_of_isSome (by decide +kernel) rfl

end StaticPage
