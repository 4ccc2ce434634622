import StaticPage.Http.Canned
import StaticPage.Proofs.Files.Filings
import StaticPage.Proofs.Site.Footprints
import StaticPage.Proofs.Site.Reruns

/-!
# What a run leaves in files

A run changes no file before its page is written, and after that none but those of lazy bindings. This is
true of whatever holds files: all that is asked of it is in `Filing.Governs`. Composing changes no file, and
the first step of publishing decides: either the page could not be written and no file has changed, or it is
there.
-/

namespace StaticPage

open Context FileTree

variable {σ φ : Type}

namespace Site

def lazyTargets (doc : Document) : List String :=
  (doc.bindings.filterMap Binding.lazyIdentity?).map (·.2.1)

/-- The page of a run is in the file of the output, and no other files have changed than those of the lazy
bindings of its document. -/
structure Committed (filing : Filing σ φ) (settings : Settings) (doc : Document) (page : String) (s s' : σ) :
    Prop where
  page : filing.bytes s' (filing.fileOf s settings.output) = some page.toUTF8
  others : filing.Changes (settings.output :: (lazyTargets doc).map (data settings).pathOf) s s'

variable [MonadWarn (StateM σ)] {filing : Filing σ φ} {settings : Settings} {fs : FileAccess (StateM σ)}
  {fetcher : Fetcher (StateM σ)} {today : Date} {doc : Document} {page : String} {ctx ctx' : Context} {s s' : σ}

/-! ### Composing -/

theorem addPosts_lazies (h : outcome (addPosts settings fs ctx) s = (.ok ctx', s')) :
    ctx'.lazies = ctx.lazies := by
  unfold addPosts at h
  split at h
  · cases h
    rfl
  · obtain ⟨posts, s₁, -, hinsert⟩ := outcome_bind_eq_ok h
    rw [outcome_except] at hinsert
    obtain ⟨-, rfl⟩ := insert_eq_ok (congrArg Prod.fst hinsert)
    rfl

/-- A site is composed of its document, and its lazy bindings are those of the document. -/
theorem compose_eq_ok (h : outcome (compose settings fs fetcher today) s = (.ok (doc, page, ctx), s')) :
    (∃ s₁, outcome (loadDocument fs settings.input) s = (.ok doc, s₁)) ∧
      ctx.lazies.map (·.target) = lazyTargets doc := by
  obtain ⟨doc', s₁, hload, h⟩ := outcome_bind_eq_ok h
  obtain ⟨made, s₂, -, h⟩ := outcome_bind_eq_ok h
  obtain ⟨⟨page', ctx'⟩, s₃, hpage, h⟩ := outcome_bind_eq_ok h
  cases h
  obtain ⟨bound, s₄, hbind, h⟩ := outcome_bind_eq_ok hpage
  obtain ⟨filled, s₅, hfill, h⟩ := outcome_bind_eq_ok h
  obtain ⟨⟨blocks, evaluated⟩, s₆, hevaluate, h⟩ := outcome_bind_eq_ok h
  obtain ⟨layout, s₇, -, h⟩ := outcome_bind_eq_ok h
  obtain ⟨page'', s₈, -, h⟩ := outcome_bind_eq_ok h
  cases h
  refine ⟨⟨s₁, hload⟩, ?_⟩
  have hlawful : filled.Lawful := by
    obtain ⟨hnodup, hlawful⟩ := lawful_ofDocument hbind
    rw [← addPosts_lazies hfill] at hnodup
    exact ⟨hnodup, fun hb => hlawful (addPosts_lazies hfill ▸ hb)⟩
  have hbyRequests : ByRequests fetcher (Context.evaluate fetcher Markdown.toHtml doc.nodes) :=
    byRequests_evaluate doc.nodes
  have hevaluated : (exec (Context.evaluate fetcher Markdown.toHtml doc.nodes) (filled, s₅)).2.1 = ctx := by
    rw [outcome_lift] at hevaluate
    exact congrArg (fun r : Except Failure (List Block × Context) × σ =>
      match r.1 with
      | .ok evaluated => evaluated.2
      | .error _ => ctx) hevaluate
  have hidentity := (lawful_of_requests (hbyRequests (filled, s₅)) hlawful).2
  rw [hevaluated, addPosts_lazies hfill, ofDocument_identity hbind] at hidentity
  rw [lazyTargets, ← hidentity, List.map_map]
  rfl

/-! ### Publishing -/

omit [MonadWarn (StateM σ)] in
theorem persist_changes (hfs : filing.Governs fs) (settings : Settings) (ctx : Context) :
    Stays (filing.Changes (ctx.lazies.map fun b => (data settings).pathOf b.target))
      (ctx.persist ((data settings).store fs)).run := by
  apply stays_persist
  intro b hb
  have hpath : [(data settings).pathOf b.target] ⊆ ctx.lazies.map fun b => (data settings).pathOf b.target := by
    intro path hpath
    rw [List.mem_singleton] at hpath
    exact hpath ▸ List.mem_map_of_mem hb
  exact (hfs.writeDeep _ b.persisted).mono fun _ _ h => h.mono hpath

omit [MonadWarn (StateM σ)] in
/-- Publishing changes no file, or it has written the page. -/
theorem publish_cases (hfs : filing.Governs fs) (hpersist : Stays (filing.Changes []) fetcher.persist)
    (hlazies : ctx.lazies.map (·.target) = lazyTargets doc)
    (houtput : ∀ target ∈ lazyTargets doc,
      filing.fileOf s ((data settings).pathOf target) ≠ filing.fileOf s settings.output)
    {r : Except Failure Report} (h : outcome (publish settings fs fetcher doc page ctx) s = (r, s')) :
    (∃ e, r = .error e ∧ filing.Changes [] s s') ∨ Committed filing settings doc page s s' := by
  have hpaths : (lazyTargets doc).map (data settings).pathOf =
      ctx.lazies.map fun b => (data settings).pathOf b.target := by
    rw [← hlazies, List.map_map]
    rfl
  rcases hwrite : after (fs.writeDeep settings.output page.toUTF8) s with ⟨written, s₁⟩
  have hwritten := hfs.writeDeep settings.output page.toUTF8 s
  rw [hwrite] at hwritten
  unfold publish at h
  rw [outcome_bind, outcome_onFiles, hwrite] at h
  rcases hfs.writeDeep_cases hwrite with ⟨fault, rfl, hnothing⟩ | ⟨rfl, hpage⟩
  · cases h
    exact .inl ⟨_, rfl, hnothing⟩
  · right
    have hkeeping : Stays (filing.Changes ((lazyTargets doc).map (data settings).pathOf)) (do
        ctx.persist ((data settings).store fs)
        onFiles fetcher.persist
        return report settings doc page : ExceptT Failure (StateM σ) Report).run := by
      rw [hpaths]
      have hvalidators : Stays (filing.Changes (ctx.lazies.map fun b => (data settings).pathOf b.target))
          fetcher.persist := hpersist.mono fun _ _ h => h.mono (List.nil_subset _)
      exact (persist_changes hfs settings ctx).bindExcept fun _ =>
        hvalidators.onFiles.bindExcept fun _ => stays_ok _
    have hrest := hkeeping.run s₁
    rw [show outcome _ s₁ = (r, s') from h] at hrest
    refine ⟨?_, (hwritten.mono (by simp)).trans (hrest.mono (List.subset_cons_self _ _))⟩
    rw [← hpage]
    apply hrest.bytes
    intro path hpath
    obtain ⟨target, htarget, rfl⟩ := List.mem_map.1 hpath
    rw [hwritten.fileOf]
    exact (houtput target htarget).symm

omit [MonadWarn (StateM σ)] in
theorem publish_eq_ok {r : Report} (h : outcome (publish settings fs fetcher doc page ctx) s = (.ok r, s')) :
    r = report settings doc page := by
  obtain ⟨written, s₁, -, h⟩ := outcome_bind_eq_ok h
  obtain ⟨persisted, s₂, -, h⟩ := outcome_bind_eq_ok h
  obtain ⟨kept, s₃, -, h⟩ := outcome_bind_eq_ok h
  cases h
  rfl

omit [MonadWarn (StateM σ)] in
theorem Committed.later {s₁ : σ} (hcomposed : filing.Changes [] s s₁)
    (h : Committed filing settings doc page s₁ s') : Committed filing settings doc page s s' where
  page := hcomposed.fileOf ▸ h.page
  others := (hcomposed.mono (List.nil_subset _)).trans h.others

/-- Nothing is persisted unless the page was written. A run that fails has changed no file, or its page is in
the file of the output and besides only files of lazy bindings of the document have changed. A run that
succeeds has left its page there and tells its length. -/
theorem nothing_persisted_without_page (hfs : filing.Governs fs) (hfetcher : fetcher.Brings (filing.Changes []))
    (hpersist : Stays (filing.Changes []) fetcher.persist)
    (hwarn : ∀ warning, Stays (filing.Changes []) (warn warning : StateM σ Unit))
    (houtput : ∀ doc s₁, outcome (loadDocument fs settings.input) s = (.ok doc, s₁) →
      ∀ target ∈ lazyTargets doc,
        filing.fileOf s ((data settings).pathOf target) ≠ filing.fileOf s settings.output) :
    (∀ e s', outcome (render settings fs fetcher today) s = (.error e, s') →
      filing.bytes s' = filing.bytes s ∨ ∃ doc page ctx s₁,
        outcome (compose settings fs fetcher today) s = (.ok (doc, page, ctx), s₁) ∧
          Committed filing settings doc page s s') ∧
    ∀ r s', outcome (render settings fs fetcher today) s = (.ok r, s') → ∃ doc page ctx s₁,
      outcome (compose settings fs fetcher today) s = (.ok (doc, page, ctx), s₁) ∧
        Committed filing settings doc page s s' ∧ r.bytes = page.toUTF8.size := by
  have hcomposing := (stays_compose hwarn hfs.reads hfs.makeDirectory hfetcher settings today).run s
  rw [render_eq]
  rcases hcompose : outcome (compose settings fs fetcher today) s with ⟨_ | ⟨doc, page, ctx⟩, s₁⟩
  · -- The page was not composed.
    rw [hcompose] at hcomposing
    constructor
    · intro e s' hrun
      rw [outcome_bind, hcompose] at hrun
      cases hrun
      exact .inl hcomposing.bytes_eq
    · intro r s' hrun
      rw [outcome_bind, hcompose] at hrun
      cases hrun
  · rw [hcompose] at hcomposing
    obtain ⟨⟨s₂, hload⟩, hlazies⟩ := compose_eq_ok hcompose
    have hpublish {r : Except Failure Report} {s' : σ}
        (hrun : outcome (publish settings fs fetcher doc page ctx) s₁ = (r, s')) :=
      publish_cases hfs hpersist hlazies
        (fun target htarget => hcomposing.fileOf ▸ houtput doc s₂ hload target htarget) hrun
    constructor
    · intro e s' hrun
      rw [outcome_bind, hcompose] at hrun
      rcases hpublish hrun with ⟨-, -, hunwritten⟩ | hcommitted
      · exact .inl (hcomposing.trans hunwritten).bytes_eq
      · exact .inr ⟨doc, page, ctx, s₁, rfl, hcommitted.later hcomposing⟩
    · intro r s' hrun
      rw [outcome_bind, hcompose] at hrun
      rcases hpublish hrun with ⟨e, hr, -⟩ | hcommitted
      · cases hr
      · refine ⟨doc, page, ctx, s₁, rfl, hcommitted.later hcomposing, ?_⟩
        rw [publish_eq_ok hrun]
        rfl

end Site

/-- A world with a file tree and prepared answers, in which warnings are noted. -/
structure Rehearsal where
  tree : FileTree
  answers : CannedAnswers
  warnings : List Warning

namespace Rehearsal

instance : HasTree Rehearsal where
  tree := Rehearsal.tree
  withTree r t := { r with tree := t }
  tree_withTree _ _ := rfl
  withTree_tree _ := rfl
  withTree_withTree _ _ _ := rfl

instance : MonadWarn (StateM Rehearsal) where
  warn warning := modifyThe Rehearsal fun r => { r with warnings := r.warnings ++ [warning] }

instance : MonadStateOf CannedAnswers (StateM Rehearsal) where
  get := modifyGetThe Rehearsal fun r => (r.answers, r)
  set answers := modifyThe Rehearsal fun r => { r with answers }
  modifyGet f := modifyGetThe Rehearsal fun r => ((f r.answers).1, { r with answers := (f r.answers).2 })

theorem changes_of_tree_eq {r r' : Rehearsal} (h : r'.tree = r.tree) : (FileTree.filing Rehearsal).Changes [] r r' := by
  apply FileTree.KeepsBut.changes
  change FileTree.KeepsBut [] r.tree r'.tree
  rw [h]
  exact (Grows.refl r.tree).keepsBut []

theorem canned_brings :
    (CannedAnswers.fetcher (m := StateM Rehearsal)).Brings ((FileTree.filing Rehearsal).Changes []) where
  fetch _ _ _ := changes_of_tree_eq rfl
  fetchUncached _ _ := changes_of_tree_eq rfl

theorem warn_stays (warning : Warning) :
    Stays ((FileTree.filing Rehearsal).Changes []) (warn warning : StateM Rehearsal Unit) :=
  fun _ => changes_of_tree_eq rfl

end Rehearsal

namespace Site

/-- The sources of a site, where every URL is answered with the same page. -/
def rehearsal (source : String) : Rehearsal where
  tree := (blogWorld source).tree
  answers := ⟨[], some "7".toUTF8, []⟩
  warnings := []

def rehearse (source : String) : Except Failure Report × Rehearsal :=
  outcome (render (blog "posts/*.md") FileTree.access CannedAnswers.fetcher ⟨2024, 5, 2⟩) (rehearsal source)

/-- Two lazy bindings, the second of which has a target that is no path of a file. -/
def halfKept : String :=
  "!a = a.json << http://x.test/\n!b = b/ << http://x.test/\na\n"

set_option maxRecDepth 100000 in
theorem load_halfKept :
    (outcome (loadDocument FileTree.access (blog "posts/*.md").input) (rehearsal halfKept)).1.toOption.map
      lazyTargets = some ["a.json", "b/"] := by
  decide +kernel

set_option maxRecDepth 100000 in
theorem rehearse_halfKept : (rehearse halfKept).1.toOption = none ∧
    ((FileTree.filing Rehearsal).bytes (rehearse halfKept).2 ["public", "index.html"]).isSome = true := by
  decide +kernel

theorem placeOf_targets :
    placeOf [] "data/a.json" = ["data", "a.json"] ∧ placeOf [] "data/b/" = ["data", "b"] := by
  constructor <;> with_unfolding_all rfl

/-- A run that fails when its page is written and one of two caches is kept. -/
theorem page_written_halfKept : ∃ e s', rehearse halfKept = (.error e, s') ∧ ∃ doc page ctx s₁,
    outcome (compose (blog "posts/*.md") FileTree.access CannedAnswers.fetcher ⟨2024, 5, 2⟩) (rehearsal halfKept)
        = (.ok (doc, page, ctx), s₁) ∧
      Committed (FileTree.filing Rehearsal) (blog "posts/*.md") doc page (rehearsal halfKept) s' := by
  have houtput : ∀ doc s₁,
      outcome (loadDocument FileTree.access (blog "posts/*.md").input) (rehearsal halfKept) = (.ok doc, s₁) →
        ∀ target ∈ lazyTargets doc, placeOf [] ((data (blog "posts/*.md")).pathOf target) ≠
          placeOf [] (blog "posts/*.md").output := by
    intro doc s₁ hload target htarget
    have htargets := load_halfKept
    rw [hload] at htargets
    rw [Option.some.inj htargets] at htarget
    simp only [List.mem_cons, List.not_mem_nil, or_false] at htarget
    change placeOf [] ((data (blog "posts/*.md")).pathOf target) ≠ placeOf [] "public/index.html"
    rw [placeOf_page]
    rcases htarget with rfl | rfl
    · change placeOf [] "data/a.json" ≠ _
      rw [placeOf_targets.1]
      decide
    · change placeOf [] "data/b/" ≠ _
      rw [placeOf_targets.2]
      decide
  obtain ⟨hfailed, hpage⟩ := rehearse_halfKept
  rcases hrun : rehearse halfKept with ⟨_ | r, s'⟩
  · rename_i e
    rw [hrun] at hpage
    refine ⟨e, s', rfl, ?_⟩
    rcases (nothing_persisted_without_page governs_access Rehearsal.canned_brings (stays_pure _)
      Rehearsal.warn_stays houtput).1 e s' hrun with hnothing | hcommitted
    · rw [hnothing] at hpage
      cases hpage
    · exact hcommitted
  · rw [hrun] at hfailed
    cases hfailed

end Site

end StaticPage
