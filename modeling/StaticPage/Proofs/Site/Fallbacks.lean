import StaticPage.Proofs.Http.Fallbacks
import StaticPage.Proofs.Site.Reruns

/-!
# Runs that spoil what they fall back to

If a site can be rendered without a network, its bindings are usable, and a run with a network differs from the
run without one in values only. All files are found, read and made in the two runs alike, so a run that has got
its values goes to its end, `render_alongside`. A run fails where an answer is not JSON, and this answer
has replaced the file that the binding falls back to, `failed_run_spoils_fallback`.
-/

namespace StaticPage

open Context FileTree Relation

namespace Site

variable {settings : Settings} {answers offline : Answers} {today : Date} {doc : Document} {page : String}
  {ctx : Context} {u u' v w w' : World} {r : Report} {e : Failure}

def targetPlaces (settings : Settings) (here : List String) (doc : Document) : List (List String) :=
  doc.bindings.map fun b => placeOf here ((data settings).pathOf b.target)

/-- The targets of a document are different file names, and their files are neither the source of a site nor
its layout nor posts. -/
structure Unshared (settings : Settings) (doc : Document) (w : World) : Prop where
  targets : (doc.bindings.map (·.target)).Nodup
  segment {b : Binding} (hb : b ∈ doc.bindings) : Path.IsSegment b.target
  input : placeOf w.tree.here settings.input ∉ targetPlaces settings w.tree.here doc
  layout : placeOf w.tree.here settings.layout ∉ targetPlaces settings w.tree.here doc
  posts {made : World} (hmake : after (FileTree.access.makeDirectories settings.dataDirectory) w = (.ok (), made))
      {posts : PostsSettings} (hposts : posts ∈ settings.posts) {p : Glob.Pattern}
      (hparse : Glob.Pattern.parse posts.pattern = .ok p) {path : String} (hpath : path ∈ made.tree.found p) :
    placeOf w.tree.here path ∉ targetPlaces settings w.tree.here doc

theorem Unshared.nodup (h : Unshared settings doc w) : (targetPlaces settings w.tree.here doc).Nodup := by
  have hplaces : targetPlaces settings w.tree.here doc =
      (doc.bindings.map (·.target)).map (placeOf w.tree.here settings.dataDirectory ++ [·]) := by
    rw [List.map_map]
    exact List.map_congr_left fun b hb => (data settings).placeOf_pathOf w.tree.here (h.segment hb)
  rw [hplaces]
  exact h.targets.map fun a b hab => by simpa using hab

/-! ### Runs in step -/

theorem shares_of_alikeBut {changed : List (List String)} {t t' : FileTree} {path : String}
    (h : AlikeBut changed t t') (hplace : placeOf t.here path ∉ changed) : t.Shares t' path :=
  fun _ hread => (h.read hplace).trans hread

theorem persist_alongside {d : DataDirectory} {other : Context} (halike : Alike u.tree w.tree)
    (htargets : other.lazies.map (·.target) = ctx.lazies.map (·.target))
    (h : outcome (ctx.persist (d.store FileTree.access)) u = (.ok (), u')) :
    ∃ w', outcome (other.persist (d.store FileTree.access)) w = (.ok (), w') ∧ Alike u'.tree w'.tree := by
  unfold Context.persist at h ⊢
  generalize other.lazies = others at htargets ⊢
  generalize ctx.lazies = lazies at h htargets
  induction lazies generalizing others u w with
  | nil =>
      obtain rfl : others = [] := by simpa using htargets
      cases h
      exact ⟨w, rfl, halike⟩
  | cons a rest ih =>
      cases others with
      | nil => cases htargets
      | cons b others =>
          rw [List.map_cons, List.map_cons, List.cons.injEq] at htargets
          change outcome (_ >>= fun _ => rest.forM _) u = _ at h
          obtain ⟨⟨⟩, u₁, hsave, h⟩ := outcome_bind_eq_ok h
          obtain ⟨saved, u₂, hwrite, hsave⟩ := outcome_bind_eq_ok hsave
          cases saved with
          | error fault => cases hsave
          | ok kept =>
              cases hsave
              obtain ⟨w₁, hwrite', halike₁⟩ :=
                inStep_writeDeep b.persisted halike (outcome_lift_eq_ok.1 hwrite)
              obtain ⟨w', hrest, halike'⟩ := ih halike₁ others h htargets.2
              refine ⟨w', ?_, halike'⟩
              have hsave' : after ((d.store FileTree.access).save b.target b.persisted) w = (.ok (), w₁) := by
                rw [htargets.1]
                exact hwrite'
              change outcome (_ >>= fun _ => others.forM _) w = _
              rw [outcome_bind, outcome_bind, outcome_lift_eq_ok.2 hsave']
              exact hrest

/-- Where the files are the same, the data directory is made as it was for a site that was composed. -/
theorem Composition.makes_alike
    (c : Composition settings (answers.fetcher (data settings)).fetcher today u doc page ctx v)
    (hw : w.tree = u.tree) : ∃ made,
      after (FileTree.access.makeDirectories settings.dataDirectory) w = (.ok (), made) ∧
        made.tree = c.made.tree := by
  obtain ⟨hresult, htrees⟩ :=
    inStep_makeDirectories shaped_eq settings.dataDirectory c.loaded w (c.tree_loaded.trans hw.symm)
  rw [c.make] at hresult htrees
  rcases hmade : after (FileTree.access.makeDirectories settings.dataDirectory) w with ⟨result, made⟩
  rw [hmade] at hresult htrees
  cases hresult
  exact ⟨made, rfl, htrees.symm⟩

/-- What was published in one tree can be published in one of the same shape. -/
theorem publish_alongside (answers : Answers) (page' : String) {other : Context} (halike : Alike u.tree w.tree)
    (htargets : other.lazies.map (·.target) = ctx.lazies.map (·.target))
    (h : outcome (publish settings FileTree.access (offline.fetcher (data settings)).fetcher doc page ctx) u
      = (.ok r, u')) :
    ∃ r' w', outcome (publish settings FileTree.access (answers.fetcher (data settings)).fetcher doc page' other) w
      = (.ok r', w') := by
  obtain ⟨⟨⟩, u₁, hpage, h⟩ := outcome_bind_eq_ok h
  obtain ⟨⟨⟩, u₂, hlazies, h⟩ := outcome_bind_eq_ok h
  obtain ⟨⟨⟩, u₃, hvalidators, h⟩ := outcome_bind_eq_ok h
  rw [outcome_onFiles_eq_ok_iff] at hpage hvalidators
  rw [after_persist] at hvalidators
  obtain ⟨w₁, hpage', halike₁⟩ := inStep_writeDeep page'.toUTF8 halike hpage
  obtain ⟨w₂, hlazies', halike₂⟩ := persist_alongside halike₁ htargets hlazies
  obtain ⟨w₃, hvalidators', -⟩ := inStep_writeDeep w₂.validators.encode halike₂ hvalidators
  refine ⟨report settings doc page', w₃, ?_⟩
  refine outcome_bind_eq_ok_iff.2 ⟨(), w₁, outcome_onFiles_eq_ok_iff.2 hpage', ?_⟩
  refine outcome_bind_eq_ok_iff.2 ⟨(), w₂, hlazies', ?_⟩
  refine outcome_bind_eq_ok_iff.2 ⟨(), w₃, outcome_onFiles_eq_ok_iff.2 ?_, rfl⟩
  rw [after_persist]
  exact hvalidators'

/-- Whether a layout can be filled does not depend on what it is filled with. -/
theorem applyLayout_alongside {layout body path : String} (other : String)
    (h : Html.applyLayout layout body today path = .ok page) :
    ∃ page', Html.applyLayout layout other today path = .ok page' := by
  unfold Html.applyLayout at h ⊢
  split at h
  · cases h
  · exact ⟨_, rfl⟩

/-- A run that got the values of all bindings goes to its end, if a run in a tree of the same shape with the same
sources has. -/
theorem render_alongside (c : Composition settings (offline.fetcher (data settings)).fetcher today u doc page ctx v)
    (hpublish : outcome (publish settings FileTree.access (offline.fetcher (data settings)).fetcher doc page ctx) v
      = (.ok r, u'))
    {w₀ w₁ w₂ : World} (hload : outcome (loadDocument FileTree.access settings.input) w = (.ok doc, w₀))
    (hmake : after (FileTree.access.makeDirectories settings.dataDirectory) w₀ = (.ok (), w₁)) {bound : Context}
    (hbind : outcome (Context.ofDocument ((data settings).store FileTree.access)
      (answers.fetcher (data settings)).fetcher doc) w₁ = (.ok bound, w₂))
    (halike : Alike c.bound.2.tree w₂.tree) (hposts : SharesPosts settings c.bound.2.tree w₂.tree)
    (hlayout : c.bound.2.tree.Shares w₂.tree settings.layout) :
    ∃ r' w', outcome (render settings FileTree.access (answers.fetcher (data settings)).fetcher today) w
      = (.ok r', w') := by
  have htaken (name : String) : bound.isTaken name = c.bound.1.isTaken name := by
    rw [(names_of_foldlM hbind).2.2, (names_of_foldlM c.bind).2.2]
  obtain ⟨-, added, -, hadds⟩ := addPosts_adds hposts c.fill
  obtain ⟨w₃, hfill, htree₃⟩ := hadds bound w₂ rfl htaken
  rcases hevaluate : exec (Context.evaluate (answers.fetcher (data settings)).fetcher Markdown.toHtml doc.nodes)
    ({ bound with values := bound.values ++ added }, w₃) with ⟨blocks, other, w₄⟩
  have hbyRequests : ByRequests (answers.fetcher (data settings)).fetcher
      (Context.evaluate (answers.fetcher (data settings)).fetcher Markdown.toHtml doc.nodes) :=
    byRequests_evaluate doc.nodes
  have hrequests := hbyRequests ({ bound with values := bound.values ++ added }, w₃)
  rw [hevaluate] at hrequests
  have htree₄ : w₄.tree = w₂.tree := (tree_of_requests hrequests).trans htree₃
  obtain ⟨layout, v₁, hread, happly⟩ := outcome_bind_eq_ok c.layOut
  rw [outcome_except, Prod.mk.injEq] at happly
  obtain ⟨page', happly'⟩ := applyLayout_alongside (Html.render blocks) happly.1
  obtain ⟨w₅, hread', htree₅⟩ :=
    (rereads_readText hlayout c.evaluated v₁ layout c.tree_evaluated hread).2 w₄ htree₄
  have c' : Composition settings (answers.fetcher (data settings)).fetcher today w doc page' other w₅ := {
    loaded := w₀, made := w₁, bound := (bound, w₂), filled := (_, w₃), blocks := blocks, evaluated := w₄
    load := hload
    make := hmake
    bind := hbind
    fill := hfill
    evaluate := hevaluate
    layOut := outcome_bind_eq_ok_iff.2 ⟨layout, w₅, hread', by rw [outcome_except, happly']⟩ }
  have htargets : other.lazies.map (·.target) = ctx.lazies.map (·.target) := by
    rw [map_target, map_target, c'.identity_eq, c.identity_eq]
  have hshape : Alike v.tree w₅.tree := by
    rw [c.tree_eq, htree₅]
    exact halike
  obtain ⟨r', w', hpublish'⟩ := publish_alongside answers page' hshape htargets hpublish
  refine ⟨r', w', ?_⟩
  rw [render_eq]
  exact outcome_bind_eq_ok_iff.2 ⟨(doc, page', other), w₅, c'.outcome_compose, hpublish'⟩

/-! ### Runs that fail -/

theorem render_of_bindings {fetcher : Fetcher (StateM World)} {w₀ w₁ : World}
    (hload : outcome (loadDocument FileTree.access settings.input) w = (.ok doc, w₀))
    (hmake : after (FileTree.access.makeDirectories settings.dataDirectory) w₀ = (.ok (), w₁))
    (hbind : outcome (Context.ofDocument ((data settings).store FileTree.access) fetcher doc) w₁ = (.error e, w')) :
    outcome (render settings FileTree.access fetcher today) w = (.error e, w') := by
  rw [render, outcome_bind, hload]
  dsimp only
  rw [outcome_bind, outcome_onFiles_eq_ok_iff.2 hmake]
  dsimp only
  rw [outcome_bind, Site.page, outcome_bind, hbind]

/-- Without a network, a run from files that a failed run has left with spoilt bindings fails as it did. -/
theorem render_spoilt {w₀ w₁ : World} (hload : outcome (loadDocument FileTree.access settings.input) w = (.ok doc, w₀))
    (hmake : after (FileTree.access.makeDirectories settings.dataDirectory) w₀ = (.ok (), w₁))
    (hinput : w.tree.Shares w'.tree settings.input) (halike : Alike w₁.tree w'.tree)
    (hspoilt : Spoilt (data settings) w'.tree doc.bindings e) (hnames : (doc.bindings.map (·.name)).Nodup)
    (hfail : offline.Fail) (hv : v.tree = w'.tree) :
    ∃ v', outcome (render settings FileTree.access (offline.fetcher (data settings)).fetcher today) v
      = (.error e, v') ∧ v'.tree = v.tree := by
  obtain ⟨v₀, hload', htree⟩ := (rereads_loadDocument hinput w w₀ doc rfl hload).2 v hv
  have hdirectory : settings.dataDirectory = "" ∨ v₀.tree.isDirectory settings.dataDirectory = true := by
    rw [htree, halike.isDirectory]
    exact isDirectory_of_makeDirectories hmake
  have hfree : ∀ b ∈ doc.bindings, Context.empty.isTaken b.name = false := fun b hb => rfl
  rw [← htree] at hspoilt
  obtain ⟨v', hagain, htree'⟩ := hspoilt.again hfail hnames hfree
  exact ⟨v', render_of_bindings hload' (makeDirectories_again hdirectory) hagain,
    htree'.trans (htree.trans hv.symm)⟩

/-- A usable binding that is eager has its data in a file that was there before the data directory was made. -/
theorem exists_fallback {d : DataDirectory} {t t' : FileTree} {b : Binding} (hgrows : Evolves [] t t')
    (h : b.Usable d t') (heager : b.isEager = true) :
    ∃ bytes value, d.file? t b.target = some bytes ∧ Json.parse bytes = .ok value := by
  cases h with
  | @data bytes value hlazy hread hparse =>
      refine ⟨bytes, value, DataDirectory.file?_eq_some.2 (hgrows.only List.not_mem_nil ?_), hparse⟩
      rw [← hgrows.here]
      exact (read_eq_ok_iff.1 hread).2
  | cache hlazy hload =>
      rw [Binding.isEager, hlazy] at heager
      cases heager

/-- **A run that fails spoils what the site could fall back to.** If a site whose bindings have files of their
own can be rendered without a network, then whatever a server answers, a run fails for one reason only: an eager
binding was sent an answer that is not JSON. The answer has replaced the data that the binding could fall back
to, and from then on the site cannot be rendered without a network. -/
theorem failed_run_spoils_fallback (hdoc : (outcome (loadDocument FileTree.access settings.input) w).1 = .ok doc)
    (hunshared : Unshared settings doc w) (hfail : offline.Fail) (huntouched : u.tree = w.tree)
    (hworks : outcome (render settings FileTree.access (offline.fetcher (data settings)).fetcher today) u
      = (.ok r, u'))
    (hfailed : outcome (render settings FileTree.access (answers.fetcher (data settings)).fetcher today) w
      = (.error e, w')) :
    ∃ b ∈ doc.bindings, b.isEager = true ∧
      (∃ good value, (data settings).file? w.tree b.target = some good ∧ Json.parse good = .ok value) ∧
      (∃ bad cause, (data settings).file? w'.tree b.target = some bad ∧ Json.parse bad = .error cause ∧
        e = .decode b.name b.target cause) ∧
      ∀ silent : Answers, silent.Fail → ∀ day v, v.tree = w'.tree → ∃ v',
        outcome (render settings FileTree.access (silent.fetcher (data settings)).fetcher day) v
          = (.error e, v') ∧ v'.tree = v.tree := by
  rcases hload : outcome (loadDocument FileTree.access settings.input) w with ⟨_, w₀⟩
  rw [hload] at hdoc
  cases hdoc
  -- What the run without a network has shown.
  rw [render_eq] at hworks
  obtain ⟨⟨doc', page, ctx⟩, u₁, hcompose, hpublish⟩ := outcome_bind_eq_ok hworks
  obtain ⟨c⟩ := exists_composition hcompose
  have hsame : w.tree.Shares w.tree settings.input := fun _ => id
  obtain ⟨htree₀, hreload⟩ := rereads_loadDocument hsame w w₀ doc rfl hload
  obtain rfl : doc' = doc := by
    obtain ⟨u₀, hload', -⟩ := hreload u huntouched
    rw [c.load] at hload'
    exact Except.ok.inj (congrArg Prod.fst hload')
  obtain ⟨husable, hbound⟩ := usable_of_foldlM hfail c.bind
  obtain ⟨hnames, hfree, -⟩ := names_of_foldlM c.bind
  -- With a network, the data directory and the bindings are made from the same files.
  obtain ⟨w₁, hmake, htree₁⟩ := c.makes_alike (htree₀.trans huntouched.symm)
  have hgrows : Evolves [] w.tree w₁.tree := by
    rw [htree₁, ← huntouched]
    exact c.evolves_made []
  rw [← htree₁] at husable hbound
  rcases hbind : outcome (Context.ofDocument ((data settings).store FileTree.access)
    (answers.fetcher (data settings)).fetcher doc') w₁ with ⟨bound, w₂⟩
  have hplaces := hunshared.nodup
  rw [← hgrows.here] at hplaces
  obtain ⟨halike, ⟨ctx', rfl⟩ | ⟨failure, rfl, hspoilt⟩⟩ :=
    foldlM_cases husable (fun b hb => hunshared.segment hb) hplaces hnames hfree hbind
  · -- If all bindings are made, the run cannot fail any more.
    have hposts : SharesPosts settings w₁.tree w₂.tree := by
      intro posts hposts p hparse
      refine ⟨halike.found p, fun path hpath => shares_of_alikeBut halike ?_⟩
      obtain ⟨made, hmade, htree⟩ := c.makes_alike huntouched.symm
      rw [htree₁, ← htree] at hpath
      rw [hgrows.here]
      exact hunshared.posts hmade hposts hparse hpath
    have hlayout : w₁.tree.Shares w₂.tree settings.layout := by
      apply shares_of_alikeBut halike
      rw [hgrows.here]
      exact hunshared.layout
    obtain ⟨r', w₃, hrun⟩ := render_alongside c hpublish hload hmake hbind (hbound ▸ halike.toAlike)
      (hbound ▸ hposts) (hbound ▸ hlayout)
    rw [hrun] at hfailed
    cases hfailed
  · rw [render_of_bindings hload hmake hbind] at hfailed
    cases hfailed
    obtain ⟨b, hb, bad, cause, heager, hread, hparse, he⟩ := hspoilt.exists_binding
    refine ⟨b, hb, heager, exists_fallback hgrows (husable b hb) heager,
      ⟨bad, cause, DataDirectory.file?_eq_some.2 (read_eq_ok_iff.1 hread).2, hparse, he⟩, ?_⟩
    have hinput : w.tree.Shares w'.tree settings.input := by
      intro bytes hold
      refine shares_of_alikeBut halike ?_ bytes (hgrows.read_eq_ok hold List.not_mem_nil)
      rw [hgrows.here]
      exact hunshared.input
    intro silent hsilent day v hv
    exact render_spoilt hload hmake hinput halike.toAlike hspoilt hnames hsilent hv

/-! ### An answer that is a page -/

/-- A site with one eager binding, which was fetched before. -/
def fetchedBefore : World :=
  let sources := blogWorld "a = a.json << http://[::1]/\na\n"
  { sources with tree := (sources.tree.put ["data"] .directory).put ["data", "a.json"] (.file "7".toUTF8) }

/-- Every request is answered with a page. -/
def pageInstead : Answers :=
  fun _ _ => .ok ⟨200, none, .ok "<html>".toUTF8⟩

def pageFailure : Failure :=
  .decode "a" "a.json" ⟨.valueExpected, 1, 1⟩

set_option maxRecDepth 100000 in
theorem load_fetchedBefore :
    (outcome (loadDocument FileTree.access (blog "posts/*.md").input) fetchedBefore).1.toOption.map
      (fun doc => doc.bindings.map (·.target)) = some ["a.json"] := by
  decide +kernel

set_option maxRecDepth 100000 in
theorem found_fetchedBefore : (Glob.Pattern.parse "posts/*.md").toOption.map
    (after (FileTree.access.makeDirectories (blog "posts/*.md").dataDirectory) fetchedBefore).2.tree.found
      = some ["posts/2024-01-01-a.md"] := by
  decide +kernel

set_option maxRecDepth 100000 in
theorem render_fetchedBefore :
    (renderBlog "posts/*.md" silence fetchedBefore).1 = .ok ⟨"public/index.html", 2, 8⟩ ∧
      (renderBlog "posts/*.md" pageInstead fetchedBefore).1 = .error pageFailure := by
  decide +kernel

theorem unshared_fetchedBefore {doc : Document} (htargets : doc.bindings.map (·.target) = ["a.json"]) :
    Unshared (blog "posts/*.md") doc fetchedBefore := by
  have hsegment {b : Binding} (hb : b ∈ doc.bindings) : Path.IsSegment b.target := by
    have htarget : b.target ∈ ["a.json"] := htargets ▸ List.mem_map_of_mem hb
    rw [List.mem_singleton.1 htarget]
    exact ⟨by decide, by decide⟩
  have hplaces : targetPlaces (blog "posts/*.md") [] doc = [["data", "a.json"]] := by
    have hdata : ["data", "a.json"] = placeOf [] "data" ++ ["a.json"] := by rw [placeOf_data]; rfl
    rw [hdata, ← List.map_singleton (f := (placeOf [] "data" ++ [·])), ← htargets, List.map_map]
    exact List.map_congr_left fun b hb => (data (blog "posts/*.md")).placeOf_pathOf [] (hsegment hb)
  have houtside {path : String} {place : List String} (hplace : placeOf [] path = place)
      (hne : place ≠ ["data", "a.json"]) : placeOf [] path ∉ targetPlaces (blog "posts/*.md") [] doc := by
    rw [hplaces, hplace, List.mem_singleton]
    exact hne
  refine ⟨by rw [htargets]; decide, hsegment, ?input, ?layout, ?posts⟩
  case input =>
    have hinput : placeOf [] "index.hi" = ["index.hi"] := by with_unfolding_all rfl
    exact houtside hinput (by decide)
  case layout =>
    have hlayout : placeOf [] "templates/layout.html" = ["templates", "layout.html"] := by
      with_unfolding_all rfl
    exact houtside hlayout (by decide)
  case posts =>
    intro made hmake posts hposts p hparse path hpath
    obtain rfl : ⟨"posts", "posts/*.md"⟩ = posts := Option.some.inj hposts
    obtain ⟨q, hq, hfound⟩ := exists_ok_of_map found_fetchedBefore
    obtain rfl : q = p := Except.ok.inj (hq.symm.trans hparse)
    rw [hmake] at hfound
    rw [hfound, List.mem_singleton] at hpath
    subst hpath
    exact houtside trail_post.2 (by decide)

/-- A run that fails and the runs without a network that fail after it. -/
theorem failed_run_spoils_fallback_page : ∃ doc r u' w',
    (outcome (loadDocument FileTree.access (blog "posts/*.md").input) fetchedBefore).1 = .ok doc ∧
    renderBlog "posts/*.md" silence fetchedBefore = (.ok r, u') ∧
    renderBlog "posts/*.md" pageInstead fetchedBefore = (.error pageFailure, w') ∧
    ∃ b ∈ doc.bindings, b.isEager = true ∧
      (∃ good value, (data (blog "posts/*.md")).file? fetchedBefore.tree b.target = some good ∧
        Json.parse good = .ok value) ∧
      (∃ bad cause, (data (blog "posts/*.md")).file? w'.tree b.target = some bad ∧
        Json.parse bad = .error cause ∧ pageFailure = .decode b.name b.target cause) ∧
      ∀ silent : Answers, silent.Fail → ∀ day v, v.tree = w'.tree → ∃ v',
        outcome (render (blog "posts/*.md") FileTree.access (silent.fetcher (data (blog "posts/*.md"))).fetcher day) v
          = (.error pageFailure, v') ∧ v'.tree = v.tree := by
  obtain ⟨doc, hdoc, htargets⟩ := exists_ok_of_map load_fetchedBefore
  have hfacts := render_fetchedBefore
  rcases hworks : renderBlog "posts/*.md" silence fetchedBefore with ⟨r, u'⟩
  rcases hfailed : renderBlog "posts/*.md" pageInstead fetchedBefore with ⟨e, w'⟩
  rw [hworks, hfailed] at hfacts
  obtain ⟨rfl, rfl⟩ := hfacts
  exact ⟨doc, _, u', w', hdoc, rfl, rfl, failed_run_spoils_fallback hdoc (unshared_fetchedBefore htargets)
    silence_fails rfl hworks hfailed⟩

set_option maxRecDepth 100000 in
theorem rerender_fetchedBefore :
    let (started, v) := after (silence.fetcher (data (blog "posts/*.md"))).start
      (renderBlog "posts/*.md" pageInstead fetchedBefore).2
    started = .ok () ∧ (renderBlog "posts/*.md" silence v).1 = .error pageFailure := by
  decide +kernel

/-- A site that could be rendered without a network cannot be any more after a run that has failed. -/
theorem fallback_lost : ∃ doc r u' e w' v e' v',
    (outcome (loadDocument FileTree.access (blog "posts/*.md").input) fetchedBefore).1 = .ok doc ∧
    (doc.bindings.map (·.target)).Nodup ∧
    (∀ b ∈ doc.bindings, Path.IsSegment b.target ∧ b.target ≠ validatorsFile) ∧ silence.Fail ∧
    renderBlog "posts/*.md" silence fetchedBefore = (.ok r, u') ∧
    renderBlog "posts/*.md" pageInstead fetchedBefore = (.error e, w') ∧
    after (silence.fetcher (data (blog "posts/*.md"))).start w' = (.ok (), v) ∧
    renderBlog "posts/*.md" silence v = (.error e', v') := by
  obtain ⟨doc, hdoc, htargets⟩ := exists_ok_of_map load_fetchedBefore
  have hfirst := render_fetchedBefore
  have hsecond := rerender_fetchedBefore
  rcases hworks : renderBlog "posts/*.md" silence fetchedBefore with ⟨r, u'⟩
  rcases hfailed : renderBlog "posts/*.md" pageInstead fetchedBefore with ⟨e, w'⟩
  rw [hfailed] at hsecond
  rcases hstart : after (silence.fetcher (data (blog "posts/*.md"))).start w' with ⟨started, v⟩
  dsimp only at hsecond
  rw [hstart] at hsecond
  rcases hrerun : renderBlog "posts/*.md" silence v with ⟨e', v'⟩
  dsimp only at hsecond
  rw [hrerun] at hsecond
  rw [hworks, hfailed] at hfirst
  obtain ⟨rfl, rfl⟩ := hfirst
  obtain ⟨rfl, rfl⟩ := hsecond
  refine ⟨doc, _, u', _, w', v, _, v', hdoc, by rw [htargets]; decide, fun b hb => ?_, silence_fails, rfl, rfl, hstart,
    hrerun⟩
  have htarget : b.target ∈ ["a.json"] := htargets ▸ List.mem_map_of_mem hb
  rw [List.mem_singleton.1 htarget]
  exact ⟨⟨by decide, by decide⟩, by decide⟩

end Site

end StaticPage
