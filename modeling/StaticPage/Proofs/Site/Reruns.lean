import StaticPage.Proofs.Site.Stages

/-!
# Rendering again without a network

A run that has gone to its end leaves all that its page was made from: the sources, the files of bindings, and
the caches of lazy ones, which tell what was fetched; what could not be fetched then cannot be fetched without
a network either. So the site is composed again to the same page, `Composition.again`, and the page is
published where it was. The files of the site must not get in each other's way, `Apart`, and no way on which a
post is found may have been opened by the run itself, `KeepsPosts`. It is not enough that the run makes nothing
that the pattern finds.
-/

namespace StaticPage

open Context FileTree Relation

namespace Site

variable {settings : Settings} {answers offline : Answers} {today : Date} {doc : Document} {page : String}
  {ctx : Context} {w w' v : World} {r : Report}

/-! ### Composing again -/

/-- What a site was composed from is still there, and the caches of its lazy bindings were kept. -/
structure Retained (settings : Settings) (w w' : World) (doc : Document) (ctx : Context) (t : FileTree) :
    Prop where
  directory : settings.dataDirectory = "" ∨ t.isDirectory settings.dataDirectory = true
  input : w.tree.Shares t settings.input
  posts : SharesPosts settings w'.tree t
  layout : w'.tree.Shares t settings.layout
  files {b : Binding} (hb : b ∈ doc.bindings) (hlazy : b.isLazy = false) :
    w'.tree.Shares t ((data settings).pathOf b.target)
  caches {a : LazyBinding} (ha : a ∈ ctx.lazies) : t.read ((data settings).pathOf a.target) = .ok a.persisted

theorem Composition.exists_lazy
    (c : Composition settings (answers.fetcher (data settings)).fetcher today w doc page ctx w')
    {b : Binding} (hb : b ∈ doc.bindings) {template : String} (horigin : b.origin = .lazy template) :
    ∃ a ∈ ctx.lazies, a.name = b.name ∧ a.target = b.target := by
  have hidentity : (b.name, b.target, Template.parse template) ∈ ctx.lazies.map LazyBinding.identity := by
    rw [c.identity_eq]
    refine List.mem_filterMap.2 ⟨b, hb, ?_⟩
    rw [Binding.lazyIdentity?, horigin]
  obtain ⟨a, ha, hidentity⟩ := List.mem_map.1 hidentity
  simp only [LazyBinding.identity, Prod.mk.injEq] at hidentity
  exact ⟨a, ha, hidentity.1, hidentity.2.1⟩

/-- If every request fails, the context of a document is made again, with the caches that were kept. -/
theorem Composition.binds_again
    (c : Composition settings (answers.fetcher (data settings)).fetcher today w doc page ctx w')
    (hplaces : (doc.bindings.map fun b => placeOf w.tree.here ((data settings).pathOf b.target)).Nodup)
    (htame : ∀ a ∈ ctx.lazies, ∀ e ∈ a.cache, Json.Tame 126 e.2)
    (hretained : Retained settings w w' doc ctx v.tree) (hfail : offline.Fail) :
    ∃ v', outcome (Context.ofDocument ((data settings).store FileTree.access)
        (offline.fetcher (data settings)).fetcher doc) v = (.ok (ctx.recalling c.bound.1), v') ∧
      v'.tree = v.tree := by
  refine foldlM_rebinds hfail c.bind ?_ (fun b hb hlazy => ?_) fun b hb template horigin => ?_
  · rw [(c.evolves_made []).here]
    exact hplaces
  · rw [← c.tree_eq]
    exact hretained.files hb hlazy
  · obtain ⟨a, ha, hname, htarget⟩ := c.exists_lazy hb horigin
    refine ⟨a, hname ▸ c.lawful.lazy?_name ha, c.lawful.lawful ha, htame a ha, ?_⟩
    rw [← htarget]
    exact hretained.caches ha

theorem Composition.evaluates_again
    (c : Composition settings (answers.fetcher (data settings)).fetcher today w doc page ctx w')
    (hfail : offline.Fail) (v : World) :
    ∃ ctx' v', exec (Context.evaluate (offline.fetcher (data settings)).fetcher Markdown.toHtml doc.nodes)
        (ctx.recalling c.filled.1, v) = (c.blocks, ctx', v') ∧ v'.tree = v.tree := by
  have hrecollects : Recollects v.tree (ctx, c.evaluated) (ctx.recalling c.filled.1, v) :=
    recollects_recalling (keeps_of_requests c.requests).values_eq c.identity_filled c.evaluated v
  have hreplays : Replays (answers.fetcher (data settings)).fetcher (Recollects v.tree)
      (Context.evaluate (answers.fetcher (data settings)).fetcher Markdown.toHtml doc.nodes)
      (Context.evaluate (offline.fetcher (data settings)).fetcher Markdown.toHtml doc.nodes) :=
    (recalls_offline hfail (data settings) v.tree).evalNodes .root doc.nodes
  obtain ⟨hblocks, hrecollects⟩ := hreplays c.filled (ctx, c.evaluated) (ctx.recalling c.filled.1, v)
    (by rw [c.evaluate]) hrecollects
  rw [c.evaluate] at hblocks
  rcases hexec : exec (Context.evaluate (offline.fetcher (data settings)).fetcher Markdown.toHtml doc.nodes)
    (ctx.recalling c.filled.1, v) with ⟨blocks, ctx', v'⟩
  rw [hexec] at hblocks hrecollects
  cases hblocks
  exact ⟨ctx', v', rfl, hrecollects.tree⟩

/-- If every request fails, a site is composed again from what was retained. -/
theorem Composition.again
    (c : Composition settings (answers.fetcher (data settings)).fetcher today w doc page ctx w')
    (hplaces : (doc.bindings.map fun b => placeOf w.tree.here ((data settings).pathOf b.target)).Nodup)
    (htame : ∀ a ∈ ctx.lazies, ∀ e ∈ a.cache, Json.Tame 126 e.2)
    (hretained : Retained settings w w' doc ctx v.tree) (hfail : offline.Fail) :
    ∃ ctx' v', v'.tree = v.tree ∧
      Nonempty (Composition settings (offline.fetcher (data settings)).fetcher today v doc page ctx' v') := by
  obtain ⟨v₀, hload, htree₀⟩ :=
    (rereads_loadDocument hretained.input w c.loaded doc rfl c.load).2 v rfl
  rw [← htree₀] at hretained ⊢
  have hmake : after (FileTree.access.makeDirectories settings.dataDirectory) v₀ = (.ok (), v₀) :=
    makeDirectories_again hretained.directory
  obtain ⟨v₂, hbind, htree₂⟩ := c.binds_again hplaces htame hretained hfail
  obtain ⟨v₃, hfill, htree₃⟩ :=
    (addPosts_again (c.tree_eq ▸ hretained.posts) c.fill).2.2 ctx v₂ htree₂
  obtain ⟨ctx', v₄, hevaluate, htree₄⟩ := c.evaluates_again hfail v₃
  obtain ⟨v', hlayOut, htree'⟩ := (rereads_applyLayout hretained.layout _ today c.evaluated w' page
    (c.tree_evaluated.trans c.tree_eq.symm) c.layOut).2 v₄ (htree₄.trans htree₃)
  exact ⟨ctx', v', htree', ⟨{
    loaded := v₀, made := v₀, bound := (_, v₂), filled := (_, v₃), blocks := c.blocks, evaluated := v₄
    load := hload
    make := hmake
    bind := hbind
    fill := hfill
    evaluate := hevaluate
    layOut := hlayOut }⟩⟩

/-! ### Sites whose files do not get in each other's way -/

/-- A path leads to a file that is neither the page nor in the data directory. -/
structure Outside (settings : Settings) (here : List String) (path : String) : Prop where
  output : placeOf here path ≠ placeOf here settings.output
  data (name : String) : placeOf here path ≠ placeOf here settings.dataDirectory ++ [name]

/-- In a sound tree, the targets of a document are file names of their own, and the other files of the site
are elsewhere. -/
structure Apart (settings : Settings) (doc : Document) (t : FileTree) : Prop where
  sound : t.Sound
  targets : (doc.bindings.map (·.target)).Nodup
  segment {b : Binding} (hb : b ∈ doc.bindings) : Path.IsSegment b.target
  validators {b : Binding} (hb : b ∈ doc.bindings) : b.target ≠ validatorsFile
  input : Outside settings t.here settings.input
  layout : Outside settings t.here settings.layout
  output (name : String) : placeOf t.here settings.output ≠ placeOf t.here settings.dataDirectory ++ [name]

/-- What the posts' pattern finds in a later tree is outside, and every place on its way was there before. -/
def KeepsPosts (settings : Settings) (t t' : FileTree) : Prop :=
  ∀ posts ∈ settings.posts, ∀ p, Glob.Pattern.parse posts.pattern = .ok p → ∀ path ∈ t'.found p,
    t.hasTrail path = true ∧ Outside settings t.here path

theorem places_eq {here : List String} {targets : List String} (h : ∀ target ∈ targets, Path.IsSegment target) :
    places settings here targets = placeOf here settings.output ::
      (validatorsFile :: targets).map (placeOf here settings.dataDirectory ++ [·]) := by
  rw [places]
  refine congrArg _ (List.map_congr_left fun target htarget =>
    DataDirectory.placeOf_pathOf (data settings) here ?_)
  rcases List.mem_cons.1 htarget with rfl | htarget
  · exact HttpFetcher.isSegment_validatorsFile
  · exact h target htarget

theorem places_sublist {here targets targets' : List String} (h : List.Sublist targets targets') :
    List.Sublist (places settings here targets) (places settings here targets') :=
  ((h.cons_cons _).map _).cons_cons _

theorem Apart.places_nodup {t : FileTree} (h : Apart settings doc t) :
    (places settings t.here (doc.bindings.map (·.target))).Nodup := by
  rw [places_eq (by simpa using fun b hb => h.segment hb), List.nodup_cons]
  refine ⟨fun hmem => ?_, List.Nodup.map (fun a b hab => by simpa using hab) ?_⟩
  · obtain ⟨name, -, hname⟩ := List.mem_map.1 hmem
    exact h.output name hname.symm
  · rw [List.nodup_cons]
    refine ⟨fun hmem => ?_, h.targets⟩
    obtain ⟨b, hb, htarget⟩ := List.mem_map.1 hmem
    exact h.validators hb htarget

theorem Apart.bindings_nodup {t : FileTree} (h : Apart settings doc t) :
    (doc.bindings.map fun b => placeOf t.here ((data settings).pathOf b.target)).Nodup := by
  have hplaces := h.places_nodup
  simp only [places, List.map_cons, List.map_map, List.nodup_cons] at hplaces
  exact hplaces.2.2

theorem Outside.not_mem {here targets : List String} {path : String} (h : Outside settings here path)
    (htargets : ∀ target ∈ targets, Path.IsSegment target) :
    placeOf here path ∉ places settings here targets := by
  rw [places_eq htargets, List.mem_cons, not_or]
  refine ⟨h.output, fun hmem => ?_⟩
  obtain ⟨name, -, hname⟩ := List.mem_map.1 hmem
  exact h.data name hname.symm

/-! ### A run and its rerun -/

theorem map_target (lazies : List LazyBinding) :
    lazies.map (·.target) = (lazies.map LazyBinding.identity).map (·.2.1) := by
  rw [List.map_map]
  rfl

theorem lazyIdentity?_eq_some {b : Binding} {identity : String × String × Template}
    (h : b.lazyIdentity? = some identity) : b.isLazy = true ∧ identity.2.1 = b.target := by
  unfold Binding.lazyIdentity? at h
  split at h
  · rename_i template horigin
    cases h
    exact ⟨by rw [Binding.isLazy, horigin], rfl⟩
  · cases h

theorem Composition.targets_sublist
    (c : Composition settings (answers.fetcher (data settings)).fetcher today w doc page ctx w') :
    List.Sublist (ctx.lazies.map (·.target)) (doc.bindings.map (·.target)) := by
  rw [map_target, c.identity_eq]
  generalize doc.bindings = bindings
  induction bindings with
  | nil => exact .slnil
  | cons b rest ih =>
      cases hb : b.lazyIdentity? with
      | none =>
          rw [List.filterMap_cons_none hb, List.map_cons]
          exact ih.cons _
      | some identity =>
          rw [List.filterMap_cons_some hb, List.map_cons, List.map_cons, (lazyIdentity?_eq_some hb).2]
          exact ih.cons_cons _

/-- If every request fails, a fetcher takes up what another one has kept. -/
theorem start_of_read (answers : Answers) {d : DataDirectory} {bytes : ByteArray}
    (h : w.tree.read (d.pathOf validatorsFile) = .ok bytes) :
    ∃ w', after (answers.fetcher d).start w = (.ok (), w') ∧ w'.tree = w.tree := by
  have hload : after (d.load FileTree.access validatorsFile) w = (.ok (some bytes), w) :=
    DataDirectory.load_of_read h
  change ∃ w', after (d.load FileTree.access validatorsFile >>= _) w = _ ∧ _
  rw [after_bind, hload]
  dsimp only
  cases Validators.decode? bytes with
  | none => exact ⟨_, rfl, rfl⟩
  | some validators => exact ⟨_, rfl, rfl⟩

theorem Composition.target_not_mem
    (c : Composition settings (answers.fetcher (data settings)).fetcher today w doc page ctx w')
    (htargets : (doc.bindings.map (·.target)).Nodup) {b : Binding} (hb : b ∈ doc.bindings)
    (hlazy : b.isLazy = false) : b.target ∉ ctx.lazies.map (·.target) := by
  rw [map_target, c.identity_eq]
  intro hmem
  obtain ⟨identity, hidentity, htarget⟩ := List.mem_map.1 hmem
  obtain ⟨a, ha, hidentity⟩ := List.mem_filterMap.1 hidentity
  obtain ⟨hlazy', htarget'⟩ := lazyIdentity?_eq_some hidentity
  rw [List.inj_on_of_nodup_map htargets ha hb (htarget'.symm.trans htarget), hlazy] at hlazy'
  cases hlazy'

/-- A run that has gone to its end has retained what the site was composed from. -/
theorem Composition.retained
    (c : Composition settings (answers.fetcher (data settings)).fetcher today w doc page ctx w')
    (hapart : Apart settings doc w.tree) {t : FileTree} (hposts : KeepsPosts settings w.tree t)
    (hpublished : Evolves (places settings w.tree.here (ctx.lazies.map (·.target))) w'.tree t)
    (hcaches : ∀ a ∈ ctx.lazies, t.Placed ((data settings).pathOf a.target) a.persisted) :
    Retained settings w w' doc ctx t := by
  have hsegments : ∀ target ∈ ctx.lazies.map (·.target), Path.IsSegment target := by
    intro target htarget
    obtain ⟨b, hb, rfl⟩ := List.mem_map.1 (c.targets_sublist.subset htarget)
    exact hapart.segment hb
  have hshares {path : String} (hpath : Outside settings w.tree.here path) : w'.tree.Shares t path := by
    intro bytes hread
    refine hpublished.read_eq_ok hread ?_
    rw [c.evolves.here]
    exact hpath.not_mem hsegments
  have hall : Evolves (places settings w.tree.here (doc.bindings.map (·.target))) w.tree t := by
    refine (c.evolves.mono fun q hq => ?_).trans
      (hpublished.mono (places_sublist c.targets_sublist).subset)
    obtain ⟨b, hb, rfl⟩ := List.mem_map.1 hq
    exact List.mem_cons_of_mem _ (List.mem_map_of_mem (List.mem_cons_of_mem _ (List.mem_map_of_mem hb)))
  refine {
    directory := ?directory
    input := ?input
    posts := ?posts
    layout := hshares hapart.layout
    files := ?files
    caches := fun ha => (hcaches _ ha).read }
  case directory =>
    have hmade := isDirectory_of_makeDirectories c.make
    have hlater := c.evolves_bound
    rw [← c.tree_eq] at hlater
    exact hmade.imp_right fun hdir => hpublished.isDirectory (hlater.isDirectory hdir)
  case input =>
    intro bytes hread
    exact hall.read_eq_ok hread (hapart.input.not_mem (by simpa using fun b hb => hapart.segment hb))
  case posts =>
    intro posts hsettings p hparse
    have hkept := hposts posts hsettings p hparse
    -- What is found afterwards was on its way before, so that the search has found all of it already.
    have hfound : w'.tree.found p = t.found p := by
      rw [hpublished.found_eq_filter (c.evolves.sound hapart.sound) hparse, List.filter_eq_self]
      exact fun path hpath => c.evolves.hasTrail (hkept path hpath).1
    rw [hfound]
    exact ⟨rfl, fun path hpath => hshares (hkept path hpath).2⟩
  case files =>
    intro b hb hlazy bytes hread
    refine hpublished.read_eq_ok hread ?_
    rw [c.evolves.here, places_eq hsegments, DataDirectory.placeOf_pathOf _ _ (hapart.segment hb),
      List.mem_cons, not_or]
    refine ⟨(hapart.output b.target).symm, fun hmem => ?_⟩
    obtain ⟨name, hname, heq⟩ := List.mem_map.1 hmem
    obtain rfl : name = b.target := by simpa using heq
    rcases List.mem_cons.1 hname with hvalidators | htarget
    · exact hapart.validators hb hvalidators
    · exact c.target_not_mem hapart.targets hb hlazy htarget

/-- **A site can be rendered again without a network.** If a run of a site whose files do not get in each
other's way has gone to its end, whatever the server has answered, and the values that lazy bindings have
kept are tame, then a second one on the files it has left, with a new fetcher whose requests all fail, goes to
its end as well, and its page has the same bytes. -/
theorem offline_rerun (hdoc : (outcome (loadDocument FileTree.access settings.input) w).1 = .ok doc)
    (hapart : Apart settings doc w.tree) (hposts : KeepsPosts settings w.tree w'.tree)
    (hrun : outcome (render settings FileTree.access (answers.fetcher (data settings)).fetcher today) w
      = (.ok r, w'))
    (htame : ∀ doc page ctx w₁, outcome (compose settings FileTree.access
        (answers.fetcher (data settings)).fetcher today) w = (.ok (doc, page, ctx), w₁) →
      ∀ a ∈ ctx.lazies, ∀ e ∈ a.cache, Json.Tame 126 e.2)
    (hfail : offline.Fail) (hfiles : v.tree = w'.tree) :
    ∃ v₁ v' bytes, after (offline.fetcher (data settings)).start v = (.ok (), v₁) ∧
      outcome (render settings FileTree.access (offline.fetcher (data settings)).fetcher today) v₁
        = (.ok r, v') ∧
      w'.tree.read settings.output = .ok bytes ∧ v'.tree.read settings.output = .ok bytes := by
  rw [render_eq] at hrun
  obtain ⟨⟨doc', page, ctx⟩, w₁, hcompose, hpublish⟩ := outcome_bind_eq_ok hrun
  obtain ⟨c⟩ := exists_composition hcompose
  obtain rfl : doc = doc' := by
    rw [c.load] at hdoc
    exact (Except.ok.inj hdoc).symm
  have hhere := c.evolves.here
  have hplaces : (places settings w.tree.here (ctx.lazies.map (·.target))).Nodup :=
    hapart.places_nodup.sublist (places_sublist c.targets_sublist)
  -- What the first run has left.
  rw [← hhere] at hplaces
  obtain ⟨rfl, hpublished, hpage, ⟨validators, hvalidators⟩, hcaches⟩ := publish_leaves hpublish hplaces
  have hretained := c.retained hapart hposts (hhere ▸ hpublished) hcaches
  rw [← hpublished.here] at hplaces
  -- The second run composes the same page and publishes it where the first one has.
  obtain ⟨v₁, hstart, htree⟩ := start_of_read offline (hfiles ▸ hvalidators.read)
  rw [hfiles] at htree
  rw [← htree] at hpage hvalidators hcaches hretained hplaces
  obtain ⟨ctx', v₂, htree₂, ⟨c'⟩⟩ :=
    c.again hapart.bindings_nodup (htame _ _ _ _ hcompose) hretained hfail
  have htargets : ctx'.lazies.map (·.target) = ctx.lazies.map (·.target) := by
    rw [map_target, map_target, c'.identity_eq, c.identity_eq]
  rw [← htree₂] at hpage hvalidators hcaches hplaces
  have hlazies : ∀ a ∈ ctx'.lazies, ∃ bytes, v₂.tree.Placed ((data settings).pathOf a.target) bytes := by
    intro a ha
    obtain ⟨b, hb, htarget⟩ := List.mem_map.1 (htargets ▸ List.mem_map_of_mem ha)
    exact ⟨_, htarget ▸ hcaches b hb⟩
  obtain ⟨v', hagain, hpage'⟩ := publish_again ⟨_, hpage⟩ ⟨_, hvalidators⟩ hlazies
    (htargets ▸ hplaces) offline doc page
  refine ⟨v₁, v', page.toUTF8, hstart, ?_, ?_, hpage'.read⟩
  · rw [render_eq]
    exact outcome_bind_eq_ok_iff.2 ⟨(doc, page, ctx'), v₂, c'.outcome_compose, hagain⟩
  · rw [← htree, ← htree₂]
    exact hpage.read

/-! ### A site with posts -/

def blog (pattern : String) : Settings where
  input := "index.hi"
  output := "public/index.html"
  dataDirectory := "data"
  layout := "templates/layout.html"
  posts := some ⟨"posts", pattern⟩

def blogWorld (source : String) : World where
  tree := ⟨[
    (["index.hi"], .file source.toUTF8),
    (["templates"], .directory),
    (["templates", "layout.html"], .file "<!--CONTENT-->".toUTF8),
    (["posts"], .directory),
    (["posts", "2024-01-01-a.md"], .file "".toUTF8)], []⟩
  validators := .empty
  sent := 0
  warnings := []

theorem sound_blogWorld (source : String) : (blogWorld source).tree.Sound where
  nodup := by simp [blogWorld, Dictionary.keys]
  inside := by
    intro place hplace
    simp only [blogWorld, Dictionary.keys, List.map_cons, List.map_nil, List.mem_cons, List.not_mem_nil,
      or_false] at hplace
    rcases hplace with rfl | rfl | rfl | rfl | rfl
    · exact ⟨[], _, rfl, ⟨by decide, by decide⟩, rfl⟩
    · exact ⟨[], _, rfl, ⟨by decide, by decide⟩, rfl⟩
    · exact ⟨["templates"], _, rfl, ⟨by decide, by decide⟩, rfl⟩
    · exact ⟨[], _, rfl, ⟨by decide, by decide⟩, rfl⟩
    · exact ⟨["posts"], _, rfl, ⟨by decide, by decide⟩, rfl⟩
  here := rfl

theorem placeOf_page : placeOf [] "public/index.html" = ["public", "index.html"] := by
  with_unfolding_all rfl

theorem placeOf_data : placeOf [] "data" = ["data"] := by
  with_unfolding_all rfl

theorem outside_blog (pattern : String) {path : String} {place : List String} (hplace : placeOf [] path = place)
    (hpage : place ≠ ["public", "index.html"]) (hdata : ∀ name, place ≠ ["data", name]) :
    Outside (blog pattern) [] path where
  output := by
    change placeOf [] path ≠ placeOf [] "public/index.html"
    rw [hplace, placeOf_page]
    exact hpage
  data name := by
    change placeOf [] path ≠ placeOf [] "data" ++ [name]
    rw [hplace, placeOf_data]
    exact hdata name

theorem apart_blog (pattern : String) {source : String} {doc : Document}
    (htargets : (doc.bindings.map (·.target)).Nodup)
    (hnames : ∀ b ∈ doc.bindings, Path.IsSegment b.target ∧ b.target ≠ validatorsFile) :
    Apart (blog pattern) doc (blogWorld source).tree where
  sound := sound_blogWorld source
  targets := htargets
  segment hb := (hnames _ hb).1
  validators hb := (hnames _ hb).2
  input := by
    have hinput : placeOf [] "index.hi" = ["index.hi"] := by with_unfolding_all rfl
    exact outside_blog pattern hinput (by decide) (by simp)
  layout := by
    have hlayout : placeOf [] "templates/layout.html" = ["templates", "layout.html"] := by
      with_unfolding_all rfl
    exact outside_blog pattern hlayout (by decide) (by simp)
  output name := by
    change placeOf [] "public/index.html" ≠ placeOf [] "data" ++ [name]
    rw [placeOf_page, placeOf_data]
    simp

theorem exists_ok_of_map {ε α β : Type} {x : Except ε α} {f : α → β} {b : β} (h : x.toOption.map f = some b) :
    ∃ a, x = .ok a ∧ f a = b := by
  cases x with
  | error e => cases h
  | ok a => exact ⟨a, rfl, Option.some.inj h⟩

def renderBlog (pattern : String) (answers : Answers) (w : World) : Except Failure Report × World :=
  outcome (render (blog pattern) FileTree.access (answers.fetcher (data (blog pattern))).fetcher ⟨2024, 5, 2⟩) w

def silence : Answers :=
  fun _ _ => .error .closed

theorem silence_fails : silence.Fail :=
  fun _ _ _ h => by cases h

/-- The first two requests are answered, and no other one. -/
def twoPages : Answers := fun moment _ =>
  match moment with
  | 0 => .ok ⟨200, some "\"1\"".toUTF8, .ok "[\"a\", \"b\"]".toUTF8⟩
  | 1 => .ok ⟨200, none, .ok "7".toUTF8⟩
  | _ => .error .closed

/-- An eager binding that fetches two keys, and a lazy one that fetches a value for each. -/
def twoKeys : String :=
  "a = a.json << http://[::1]/\n!b = b.json << http://[::1]/\x7bx\x7d\n[for x in a]\n  b\n"

theorem trail_post : (blogWorld twoKeys).tree.hasTrail "posts/2024-01-01-a.md" = true ∧
    placeOf [] "posts/2024-01-01-a.md" = ["posts", "2024-01-01-a.md"] := by
  constructor <;> with_unfolding_all rfl

/-- The post is found where it was, if nothing else is found. -/
theorem keepsPosts_blog {pattern source : String} {w' : World} {paths : List String}
    (hfound : (Glob.Pattern.parse pattern).toOption.map w'.tree.found = some paths)
    (hpaths : ∀ path ∈ paths, (blogWorld source).tree.hasTrail path = true ∧
      placeOf [] path = ["posts", "2024-01-01-a.md"]) :
    KeepsPosts (blog pattern) (blogWorld source).tree w'.tree := by
  intro posts hposts p hparse path hpath
  obtain rfl : ⟨"posts", pattern⟩ = posts := Option.some.inj hposts
  obtain ⟨q, hq, rfl⟩ := exists_ok_of_map hfound
  obtain rfl : q = p := Except.ok.inj (hq.symm.trans hparse)
  obtain ⟨htrail, hplace⟩ := hpaths path hpath
  exact ⟨htrail, outside_blog pattern hplace (by decide) (by simp)⟩

set_option maxRecDepth 100000 in
theorem load_twoKeys :
    (outcome (loadDocument FileTree.access (blog "posts/*.md").input) (blogWorld twoKeys)).1.toOption.map
      (fun doc => doc.bindings.map (·.target)) = some ["a.json", "b.json"] := by
  decide +kernel

set_option maxRecDepth 100000 in
theorem render_twoKeys :
    (renderBlog "posts/*.md" twoPages (blogWorld twoKeys)).1 = .ok ⟨"public/index.html", 3, 96⟩ ∧
      (Glob.Pattern.parse "posts/*.md").toOption.map
        (renderBlog "posts/*.md" twoPages (blogWorld twoKeys)).2.tree.found = some ["posts/2024-01-01-a.md"] := by
  decide +kernel

/-- An integer of 64 bits, with a sign or without. -/
def isInt64 : Json.Value → Bool
  | .number (.int i) => decide (-0x8000000000000000 ≤ i ∧ i < 0x10000000000000000)
  | _ => false

theorem tame_of_isInt64 {depth : Nat} {value : Json.Value} (h : isInt64 value = true) :
    Json.Tame depth value := by
  unfold isInt64 at h
  split at h
  · obtain ⟨hge, hlt⟩ := of_decide_eq_true h
    exact .number hge hlt
  · cases h

set_option maxRecDepth 100000 in
theorem compose_twoKeys : (outcome (compose (blog "posts/*.md") FileTree.access
    (twoPages.fetcher (data (blog "posts/*.md"))).fetcher ⟨2024, 5, 2⟩) (blogWorld twoKeys)).1.toOption.map
      (fun composed => composed.2.2.lazies.all fun a => a.cache.all fun e => isInt64 e.2) = some true := by
  decide +kernel

/-- A run in which a lazy binding has got one of its two values, and its rerun. -/
theorem offline_rerun_blog :
    ∃ w' v₁ v' bytes, renderBlog "posts/*.md" twoPages (blogWorld twoKeys)
        = (.ok ⟨"public/index.html", 3, 96⟩, w') ∧
      after (silence.fetcher (data (blog "posts/*.md"))).start w' = (.ok (), v₁) ∧
      renderBlog "posts/*.md" silence v₁ = (.ok ⟨"public/index.html", 3, 96⟩, v') ∧
      w'.tree.read "public/index.html" = .ok bytes ∧ v'.tree.read "public/index.html" = .ok bytes := by
  obtain ⟨doc, hdoc, htargets⟩ := exists_ok_of_map load_twoKeys
  have hapart : Apart (blog "posts/*.md") doc (blogWorld twoKeys).tree := by
    refine apart_blog _ (by rw [htargets]; decide) fun b hb => ?_
    have hname : b.target ∈ ["a.json", "b.json"] := htargets ▸ List.mem_map_of_mem hb
    simp only [List.mem_cons, List.not_mem_nil, or_false] at hname
    rcases hname with hname | hname <;> rw [hname] <;> exact ⟨⟨by decide, by decide⟩, by decide⟩
  have hfacts := render_twoKeys
  obtain ⟨⟨r, w'⟩, hrun⟩ : ∃ ran, renderBlog "posts/*.md" twoPages (blogWorld twoKeys) = ran := ⟨_, rfl⟩
  rw [hrun] at hfacts
  obtain ⟨rfl, hfound⟩ := hfacts
  have hposts : KeepsPosts (blog "posts/*.md") (blogWorld twoKeys).tree w'.tree :=
    keepsPosts_blog hfound (by simpa using trail_post)
  have htame : ∀ doc page ctx w₁, outcome (compose (blog "posts/*.md") FileTree.access
      (twoPages.fetcher (data (blog "posts/*.md"))).fetcher ⟨2024, 5, 2⟩) (blogWorld twoKeys)
        = (.ok (doc, page, ctx), w₁) → ∀ a ∈ ctx.lazies, ∀ e ∈ a.cache, Json.Tame 126 e.2 := by
    intro doc page ctx w₁ hcompose a ha e he
    have hcaches := compose_twoKeys
    rw [hcompose] at hcaches
    have hcache := List.all_eq_true.1 (Option.some.inj hcaches) a ha
    exact tame_of_isInt64 (List.all_eq_true.1 hcache e he)
  obtain ⟨v₁, v', bytes, hrerun⟩ := offline_rerun hdoc hapart hposts hrun htame silence_fails rfl
  exact ⟨w', v₁, v', bytes, hrun, hrerun⟩

def eachPost : String :=
  "[for p in posts]\n"

/-- A pattern that finds posts on a way through the directory of the page and out of it again. -/
def detour : String :=
  "public/../posts/*.md"

set_option maxRecDepth 100000 in
theorem load_eachPost :
    (outcome (loadDocument FileTree.access (blog detour).input) (blogWorld eachPost)).1.toOption.map
      (·.bindings) = some [] := by
  decide +kernel

set_option maxRecDepth 100000 in
theorem render_eachPost :
    let (r, w') := renderBlog detour silence (blogWorld eachPost)
    r = .ok ⟨"public/index.html", 1, 35⟩ ∧
      (w'.tree.read "public/index.html").toOption.map ByteArray.size = some 35 ∧
      (Glob.Pattern.parse detour).toOption.map w'.tree.found = some ["public/../posts/2024-01-01-a.md"] := by
  decide +kernel

set_option maxRecDepth 100000 in
theorem rerender_eachPost :
    let (started, v) := after (silence.fetcher (data (blog detour))).start
      (renderBlog detour silence (blogWorld eachPost)).2
    let (r, v') := renderBlog detour silence v
    started = .ok () ∧ r = .ok ⟨"public/index.html", 1, 58⟩ ∧
      (v'.tree.read "public/index.html").toOption.map ByteArray.size = some 58 := by
  decide +kernel

theorem detour_leads_to_post : placeOf [] "public/../posts/2024-01-01-a.md" = ["posts", "2024-01-01-a.md"] := by
  with_unfolding_all rfl

/-- A rerun finds a post that the run has not found. Its pattern goes through a directory that the run
makes, although it finds nothing that was not there before. -/
theorem rerun_finds_post :
    ∃ doc r w' v r' v' page page',
      (outcome (loadDocument FileTree.access (blog detour).input) (blogWorld eachPost)).1 = .ok doc ∧
      Apart (blog detour) doc (blogWorld eachPost).tree ∧
      renderBlog detour silence (blogWorld eachPost) = (.ok r, w') ∧
      (∀ p, Glob.Pattern.parse detour = .ok p → ∀ path ∈ w'.tree.found p,
        ((blogWorld eachPost).tree.at? (placeOf [] path)).isSome = true ∧ Outside (blog detour) [] path) ∧
      (∀ doc page ctx w₁, outcome (compose (blog detour) FileTree.access
          (silence.fetcher (data (blog detour))).fetcher ⟨2024, 5, 2⟩) (blogWorld eachPost)
            = (.ok (doc, page, ctx), w₁) → ∀ a ∈ ctx.lazies, ∀ e ∈ a.cache, Json.Tame 126 e.2) ∧
      silence.Fail ∧
      after (silence.fetcher (data (blog detour))).start w' = (.ok (), v) ∧
      renderBlog detour silence v = (.ok r', v') ∧
      w'.tree.read "public/index.html" = .ok page ∧ v'.tree.read "public/index.html" = .ok page' ∧
      page ≠ page' := by
  obtain ⟨doc, hdoc, hbindings⟩ := exists_ok_of_map load_eachPost
  have hfirst := render_eachPost
  have hsecond := rerender_eachPost
  obtain ⟨⟨r, w'⟩, hrun⟩ : ∃ ran, renderBlog detour silence (blogWorld eachPost) = ran := ⟨_, rfl⟩
  rw [hrun] at hfirst hsecond
  obtain ⟨⟨started, v⟩, hstart⟩ : ∃ ran, after (silence.fetcher (data (blog detour))).start w' = ran := ⟨_, rfl⟩
  dsimp only at hfirst hsecond
  rw [hstart] at hsecond
  obtain ⟨⟨r', v'⟩, hrerun⟩ : ∃ ran, renderBlog detour silence v = ran := ⟨_, rfl⟩
  dsimp only at hsecond
  rw [hrerun] at hsecond
  obtain ⟨rfl, hsize, hfound⟩ := hfirst
  obtain ⟨rfl, rfl, hsize'⟩ := hsecond
  obtain ⟨page, hpage, hsize⟩ := exists_ok_of_map hsize
  obtain ⟨page', hpage', hsize'⟩ := exists_ok_of_map hsize'
  refine ⟨doc, _, w', v, _, v', page, page', hdoc, ?_, hrun, ?_, ?_, silence_fails, hstart, hrerun, hpage, hpage',
    ?_⟩
  · exact apart_blog _ (by simp [hbindings]) (by simp [hbindings])
  · intro p hparse path hpath
    obtain ⟨q, hq, hpaths⟩ := exists_ok_of_map hfound
    obtain rfl : q = p := Except.ok.inj (hq.symm.trans hparse)
    rw [hpaths, List.mem_singleton] at hpath
    subst hpath
    rw [detour_leads_to_post]
    exact ⟨rfl, outside_blog detour detour_leads_to_post (by decide) (by simp)⟩
  · intro doc' page ctx w₁ hcompose a ha
    obtain ⟨c⟩ := exists_composition hcompose
    obtain rfl : doc = doc' := by
      rw [c.load] at hdoc
      exact (Except.ok.inj hdoc).symm
    have hidentity := c.identity_eq
    rw [hbindings, List.filterMap_nil, List.map_eq_nil_iff] at hidentity
    rw [hidentity] at ha
    cases ha
  · rintro rfl
    rw [hsize] at hsize'
    cases hsize'

end Site

end StaticPage
