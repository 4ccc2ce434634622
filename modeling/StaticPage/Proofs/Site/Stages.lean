import StaticPage.Proofs.Http.Recollections
import StaticPage.Proofs.Site.Sources

/-!
# The stages of rendering

A site is composed first and published then, `render_eq`. Composing writes the files of eager bindings,
`Composition.evolves`. Publishing writes the page, the caches of lazy bindings and the validators,
`publish_leaves`, and where all of these files are, they can be written again, `publish_again`.
-/

namespace StaticPage

open Context FileTree Relation

/-! ### Runs that succeed -/

theorem outcome_bind_eq_ok_iff {σ α β : Type} {x : ExceptT Failure (StateM σ) α}
    {f : α → ExceptT Failure (StateM σ) β} {s s' : σ} {b : β} :
    outcome (x >>= f) s = (.ok b, s') ↔
      ∃ a s₁, outcome x s = (.ok a, s₁) ∧ outcome (f a) s₁ = (.ok b, s') := by
  refine ⟨outcome_bind_eq_ok, ?_⟩
  rintro ⟨a, s₁, hx, hf⟩
  rw [outcome_bind, hx]
  exact hf

theorem outcome_onFiles {σ α : Type} (act : StateM σ (Except FileFault α)) (s : σ) :
    outcome (Site.onFiles act) s = ((after act s).1.mapError .file, (after act s).2) := by
  have hlift : outcome (liftM act : ExceptT Failure (StateM σ) _) s = (.ok (after act s).1, (after act s).2) :=
    outcome_lift act s
  unfold Site.onFiles
  rw [outcome_bind, hlift]
  cases (after act s).1 <;> rfl

theorem outcome_onFiles_eq_ok_iff {σ α : Type} {act : StateM σ (Except FileFault α)} {s s' : σ} {a : α} :
    outcome (Site.onFiles act) s = (.ok a, s') ↔ after act s = (.ok a, s') := by
  rw [outcome_onFiles]
  rcases after act s with ⟨r, s₁⟩
  cases r <;> simp [Except.mapError]

namespace Site

section

variable {m : Type → Type} [Monad m] [MonadWarn m]

abbrev data (settings : Settings) : DataDirectory :=
  ⟨settings.dataDirectory⟩

/-- All that comes before the page is written: the document, the page, and the context after evaluation. -/
def compose (settings : Settings) (fs : FileAccess m) (fetcher : Fetcher m) (today : Date) :
    ExceptT Failure m (Document × String × Context) := do
  let doc ← loadDocument fs settings.input
  onFiles (fs.makeDirectories settings.dataDirectory)
  let (page, ctx) ← page settings fs fetcher ((data settings).store fs) today doc
  return (doc, page, ctx)

def report (settings : Settings) (doc : Document) (page : String) : Report where
  output := settings.output
  bindings := doc.bindings.length + if settings.posts.isSome then 1 else 0
  bytes := page.utf8ByteSize

def publish (settings : Settings) (fs : FileAccess m) (fetcher : Fetcher m) (doc : Document) (page : String)
    (ctx : Context) : ExceptT Failure m Report := do
  onFiles (fs.writeDeep settings.output page.toUTF8)
  ctx.persist ((data settings).store fs)
  onFiles fetcher.persist
  return report settings doc page

theorem render_eq [LawfulMonad m] (settings : Settings) (fs : FileAccess m) (fetcher : Fetcher m)
    (today : Date) : render settings fs fetcher today = (do
      let (doc, page, ctx) ← compose settings fs fetcher today
      publish settings fs fetcher doc page ctx) := by
  simp only [render, compose, bind_assoc, pure_bind]
  rfl

end

/-- The places of the page, of the validators, and of the files of targets. -/
def places (settings : Settings) (here : List String) (targets : List String) : List (List String) :=
  placeOf here settings.output ::
    (validatorsFile :: targets).map fun target => placeOf here ((data settings).pathOf target)

variable {settings : Settings} {answers : Answers} {today : Date} {doc : Document} {page : String}
  {ctx : Context} {w w' : World} {r : Report}

/-! ### Composing -/

/-- A site that was composed, with what there was between the stages. -/
structure Composition (settings : Settings) (fetcher : Fetcher (StateM World)) (today : Date) (w : World)
    (doc : Document) (page : String) (ctx : Context) (w' : World) where
  loaded : World
  made : World
  bound : Context × World
  filled : Context × World
  blocks : List Block
  evaluated : World
  load : outcome (loadDocument FileTree.access settings.input) w = (.ok doc, loaded)
  make : after (FileTree.access.makeDirectories settings.dataDirectory) loaded = (.ok (), made)
  bind : outcome (Context.ofDocument ((data settings).store FileTree.access) fetcher doc) made
    = (.ok bound.1, bound.2)
  fill : outcome (addPosts settings FileTree.access bound.1) bound.2 = (.ok filled.1, filled.2)
  evaluate : exec (Context.evaluate fetcher Markdown.toHtml doc.nodes) filled = (blocks, ctx, evaluated)
  layOut : outcome (do
      let layout ← onFiles (FileTree.access.readText settings.layout)
      Html.applyLayout layout (Html.render blocks) today settings.layout) evaluated = (.ok page, w')

theorem outcome_exec_eq_ok_iff {α : Type} {x : StateT Context (StateM World) α} {ctx ctx' : Context} {a : α} :
    outcome (liftM (x.run ctx)) w = (.ok (a, ctx'), w') ↔ exec x (ctx, w) = (a, ctx', w') := by
  rw [outcome_lift_eq_ok]
  change _ ↔ ((after (x.run ctx) w).1.1, (after (x.run ctx) w).1.2, (after (x.run ctx) w).2) = _
  simp only [Prod.ext_iff, and_assoc]

theorem Composition.outcome_compose {fetcher : Fetcher (StateM World)}
    (c : Composition settings fetcher today w doc page ctx w') :
    outcome (compose settings FileTree.access fetcher today) w = (.ok (doc, page, ctx), w') := by
  refine outcome_bind_eq_ok_iff.2 ⟨doc, c.loaded, c.load, ?_⟩
  refine outcome_bind_eq_ok_iff.2 ⟨(), c.made, outcome_onFiles_eq_ok_iff.2 c.make, ?_⟩
  refine outcome_bind_eq_ok_iff.2 ⟨(page, ctx), w', ?_, rfl⟩
  refine outcome_bind_eq_ok_iff.2 ⟨c.bound.1, c.bound.2, c.bind, ?_⟩
  refine outcome_bind_eq_ok_iff.2 ⟨c.filled.1, c.filled.2, c.fill, ?_⟩
  refine outcome_bind_eq_ok_iff.2 ⟨(c.blocks, ctx), c.evaluated, outcome_exec_eq_ok_iff.2 c.evaluate, ?_⟩
  obtain ⟨layout, w₁, hread, happly⟩ := outcome_bind_eq_ok c.layOut
  refine outcome_bind_eq_ok_iff.2 ⟨layout, w₁, hread, ?_⟩
  exact outcome_bind_eq_ok_iff.2 ⟨page, w', happly, rfl⟩

theorem exists_composition {fetcher : Fetcher (StateM World)}
    (h : outcome (compose settings FileTree.access fetcher today) w = (.ok (doc, page, ctx), w')) :
    Nonempty (Composition settings fetcher today w doc page ctx w') := by
  obtain ⟨doc', w₀, hload, h⟩ := outcome_bind_eq_ok h
  obtain ⟨⟨⟩, w₁, hmade, h⟩ := outcome_bind_eq_ok h
  obtain ⟨⟨page', ctx'⟩, w₅, hpage, h⟩ := outcome_bind_eq_ok h
  cases h
  obtain ⟨ctx₂, w₂, hbind, h⟩ := outcome_bind_eq_ok hpage
  obtain ⟨ctx₃, w₃, hposts, h⟩ := outcome_bind_eq_ok h
  obtain ⟨⟨blocks, ctx₄⟩, w₄, hevaluate, h⟩ := outcome_bind_eq_ok h
  obtain ⟨layout, w₆, hread, h⟩ := outcome_bind_eq_ok h
  obtain ⟨page'', w₇, happly, h⟩ := outcome_bind_eq_ok h
  cases h
  exact ⟨{
    loaded := w₀, made := w₁, bound := (ctx₂, w₂), filled := (ctx₃, w₃), blocks := blocks, evaluated := w₄
    load := hload
    make := outcome_onFiles_eq_ok_iff.1 hmade
    bind := hbind
    fill := hposts
    evaluate := outcome_exec_eq_ok_iff.1 hevaluate
    layOut := outcome_bind_eq_ok_iff.2 ⟨layout, w₆, hread, happly⟩ }⟩

/-- The posts of one tree are those of another one. -/
def SharesPosts (settings : Settings) (t t' : FileTree) : Prop :=
  ∀ posts ∈ settings.posts, ∀ p, Glob.Pattern.parse posts.pattern = .ok p →
    t'.found p = t.found p ∧ ∀ path ∈ t.found p, t.Shares t' path

theorem SharesPosts.refl (settings : Settings) (t : FileTree) : SharesPosts settings t t :=
  fun _ _ _ _ => ⟨rfl, fun _ _ _ h => h⟩

/-- Posts are added to a context, and the same ones to another context in which the same names are taken. -/
theorem addPosts_adds {ctx ctx' : Context} {t : FileTree} (hshares : SharesPosts settings w.tree t)
    (h : outcome (addPosts settings FileTree.access ctx) w = (.ok ctx', w')) :
    w'.tree = w.tree ∧ ∃ added, ctx' = { ctx with values := ctx.values ++ added } ∧
      ∀ (other : Context) (v : World), v.tree = t → (∀ name, other.isTaken name = ctx.isTaken name) →
        ∃ v', outcome (addPosts settings FileTree.access other) v
          = (.ok { other with values := other.values ++ added }, v') ∧ v'.tree = t := by
  unfold addPosts at h ⊢
  cases hsettings : settings.posts with
  | none =>
      rw [hsettings] at h
      cases h
      refine ⟨rfl, [], by rw [List.append_nil], fun other v hv _ => ⟨v, ?_, hv⟩⟩
      rw [List.append_nil]
      rfl
  | some p =>
      rw [hsettings] at h
      obtain ⟨posts, w₁, hload, hinsert⟩ := outcome_bind_eq_ok h
      rw [outcome_except, Prod.mk.injEq] at hinsert
      obtain ⟨hinsert, rfl⟩ := hinsert
      obtain ⟨hfree, rfl⟩ := insert_eq_ok hinsert
      obtain ⟨htree, hagain⟩ := rereads_loadMatching (hshares p hsettings) w w₁ posts rfl hload
      refine ⟨htree, _, rfl, fun other v hv htaken => ?_⟩
      obtain ⟨v', hagain, hv'⟩ := hagain v hv
      refine ⟨v', outcome_bind_eq_ok_iff.2 ⟨posts, v', hagain, ?_⟩, hv'⟩
      rw [outcome_except, Context.insert, htaken, if_neg (by simp [hfree])]

/-- Posts are added to a context, and to one with other caches again. -/
theorem addPosts_again {ctx ctx' : Context} {t : FileTree} (hshares : SharesPosts settings w.tree t)
    (h : outcome (addPosts settings FileTree.access ctx) w = (.ok ctx', w')) :
    w'.tree = w.tree ∧ ctx'.lazies = ctx.lazies ∧ ∀ (later : Context) (v : World), v.tree = t →
      ∃ v', outcome (addPosts settings FileTree.access (later.recalling ctx)) v
        = (.ok (later.recalling ctx'), v') ∧ v'.tree = t := by
  obtain ⟨htree, added, rfl, hadds⟩ := addPosts_adds hshares h
  exact ⟨htree, rfl, fun later v hv => hadds _ v hv (isTaken_recalling later ctx)⟩

namespace Composition

variable (c : Composition settings (answers.fetcher (data settings)).fetcher today w doc page ctx w')

include c

theorem tree_loaded : c.loaded.tree = w.tree :=
  (rereads_loadDocument (fun _ => id) w c.loaded doc rfl c.load).1

theorem evolves_made (changed : List (List String)) : Evolves changed w.tree c.made.tree := by
  obtain ⟨t, hmade, hgrows⟩ := grows_makeDirectories c.make
  rw [hmade, ← c.tree_loaded]
  exact hgrows.evolves changed

theorem evolves_bound : Evolves (doc.bindings.map fun b => placeOf w.tree.here ((data settings).pathOf b.target))
    c.made.tree c.bound.2.tree := by
  have hbound := foldlM_leaves c.bind
  rwa [(c.evolves_made []).here] at hbound

theorem identity_bound :
    c.bound.1.lazies.map LazyBinding.identity = doc.bindings.filterMap Binding.lazyIdentity? :=
  ofDocument_identity c.bind

theorem lazies_filled : c.filled.1.lazies = c.bound.1.lazies :=
  (addPosts_again (.refl settings _) c.fill).2.1

theorem tree_filled : c.filled.2.tree = c.bound.2.tree :=
  (addPosts_again (.refl settings _) c.fill).1

theorem requests : ReflTransGen (Asks (answers.fetcher (data settings)).fetcher) c.filled (ctx, c.evaluated) := by
  have h : ReflTransGen (Asks (answers.fetcher (data settings)).fetcher) c.filled
      (exec (Context.evaluate (answers.fetcher (data settings)).fetcher Markdown.toHtml doc.nodes) c.filled).2 :=
    byRequests_evaluate doc.nodes c.filled
  rwa [c.evaluate] at h

theorem tree_evaluated : c.evaluated.tree = c.bound.2.tree :=
  (tree_of_requests c.requests).trans c.tree_filled

theorem tree_eq : w'.tree = c.bound.2.tree :=
  (rereads_applyLayout (fun _ => id) _ today c.evaluated w' page rfl c.layOut).1.trans c.tree_evaluated

theorem lawful_filled : c.filled.1.Lawful := by
  obtain ⟨hnodup, hlawful⟩ := lawful_ofDocument c.bind
  rw [← c.lazies_filled] at hnodup
  exact ⟨hnodup, fun hb => hlawful (c.lazies_filled ▸ hb)⟩

theorem lawful : ctx.Lawful :=
  (lawful_of_requests c.requests c.lawful_filled).1

theorem identity_filled : ctx.lazies.map LazyBinding.identity = c.filled.1.lazies.map LazyBinding.identity :=
  (lawful_of_requests c.requests c.lawful_filled).2

theorem identity_eq : ctx.lazies.map LazyBinding.identity = doc.bindings.filterMap Binding.lazyIdentity? := by
  rw [c.identity_filled, c.lazies_filled, c.identity_bound]

theorem evolves : Evolves (doc.bindings.map fun b => placeOf w.tree.here ((data settings).pathOf b.target))
    w.tree w'.tree := by
  rw [c.tree_eq]
  exact (c.evolves_made _).trans c.evolves_bound

end Composition

/-! ### Publishing -/

theorem placed_writeDeep {path : String} {bytes : ByteArray}
    (h : outcome (onFiles (FileTree.access.writeDeep path bytes)) w = (.ok (), w')) :
    Evolves [placeOf w.tree.here path] w.tree w'.tree ∧ w'.tree.Placed path bytes := by
  obtain ⟨t, rfl, hevolves, hplaced⟩ := evolves_writeDeep (outcome_onFiles_eq_ok_iff.1 h)
  exact ⟨hevolves, hplaced rfl⟩

theorem writeDeep_again {path : String} {old : ByteArray} (h : w.tree.Placed path old) (bytes : ByteArray) :
    ∃ w', outcome (onFiles (FileTree.access.writeDeep path bytes)) w = (.ok (), w') ∧
      Evolves [placeOf w.tree.here path] w.tree w'.tree ∧ w'.tree.Placed path bytes := by
  obtain ⟨t, hwritten, hevolves, hplaced⟩ := Placed.writeDeep (s := w) h bytes
  exact ⟨_, outcome_onFiles_eq_ok_iff.2 hwritten, hevolves, hplaced⟩

/-- What is published is there, and nothing else has changed. -/
theorem publish_leaves
    (h : outcome (publish settings FileTree.access (answers.fetcher (data settings)).fetcher doc page ctx) w
      = (.ok r, w'))
    (hplaces : (places settings w.tree.here (ctx.lazies.map (·.target))).Nodup) :
    r = report settings doc page ∧
      Evolves (places settings w.tree.here (ctx.lazies.map (·.target))) w.tree w'.tree ∧
      w'.tree.Placed settings.output page.toUTF8 ∧
      (∃ bytes, w'.tree.Placed ((data settings).pathOf validatorsFile) bytes) ∧
      ∀ a ∈ ctx.lazies, w'.tree.Placed ((data settings).pathOf a.target) a.persisted := by
  obtain ⟨⟨⟩, w₁, hpage, h⟩ := outcome_bind_eq_ok h
  obtain ⟨⟨⟩, w₂, hlazies, h⟩ := outcome_bind_eq_ok h
  obtain ⟨⟨⟩, w₃, hvalidators, h⟩ := outcome_bind_eq_ok h
  cases h
  refine ⟨rfl, ?_⟩
  simp only [places, List.map_cons, List.map_map, List.nodup_cons, List.mem_cons, not_or] at hplaces ⊢
  obtain ⟨⟨hapart, houtside⟩, hinside, hnodup⟩ := hplaces
  obtain ⟨hwritten, hplaced⟩ := placed_writeDeep hpage
  rw [outcome_onFiles_eq_ok_iff, after_persist] at hvalidators
  change outcome (ctx.persist (answers.fetcher (data settings)).store) w₁ = _ at hlazies
  rw [← hwritten.here] at hnodup
  obtain ⟨hkept, hcaches⟩ := placed_persist hlazies hnodup
  obtain ⟨hsaved, hfile⟩ := placed_save hvalidators
  rw [hkept.here] at hsaved
  rw [hwritten.here] at hkept hsaved
  refine ⟨?_, ?_, ⟨_, hfile⟩, fun a ha => ?_⟩
  · exact ((hwritten.mono (by simp)).trans (hkept.mono fun q hq => by simp_all)).trans
      (hsaved.mono (by simp))
  · refine (hplaced.later hkept ?_).later hsaved ?_
    · rw [hwritten.here]
      exact houtside
    · rw [hkept.here, hwritten.here]
      simpa using hapart
  · refine (hcaches a ha).later hsaved ?_
    rw [hkept.here, hwritten.here, List.mem_singleton]
    intro heq
    exact hinside (heq ▸ List.mem_map_of_mem ha)

/-- Where a page, validators and caches were published, they can be published again. -/
theorem publish_again (houtput : ∃ bytes, w.tree.Placed settings.output bytes)
    (hvalidators : ∃ bytes, w.tree.Placed ((data settings).pathOf validatorsFile) bytes)
    (hlazies : ∀ a ∈ ctx.lazies, ∃ bytes, w.tree.Placed ((data settings).pathOf a.target) bytes)
    (hplaces : (places settings w.tree.here (ctx.lazies.map (·.target))).Nodup)
    (answers : Answers) (doc : Document) (page : String) :
    ∃ w', outcome (publish settings FileTree.access (answers.fetcher (data settings)).fetcher doc page ctx) w
      = (.ok (report settings doc page), w') ∧ w'.tree.Placed settings.output page.toUTF8 := by
  simp only [places, List.map_cons, List.map_map, List.nodup_cons, List.mem_cons, not_or] at hplaces
  obtain ⟨⟨hapart, houtside⟩, -, -⟩ := hplaces
  obtain ⟨old, houtput⟩ := houtput
  obtain ⟨bytes, hvalidators⟩ := hvalidators
  obtain ⟨w₁, hpage, hwritten, hplaced⟩ := writeDeep_again houtput page.toUTF8
  obtain ⟨w₂, hpersist, hkept⟩ := persist_again answers (w := w₁) fun a ha => by
    obtain ⟨bytes, hlazy⟩ := hlazies a ha
    exact hlazy.exists_later hwritten
  obtain ⟨bytes₁, hvalidators⟩ := hvalidators.exists_later hwritten
  obtain ⟨bytes₂, hvalidators⟩ := hvalidators.exists_later hkept
  obtain ⟨w', hsave, hsaved⟩ := save_again hvalidators answers w₂.validators.encode
  rw [← after_persist] at hsave
  refine ⟨w', ?_, (hplaced.later hkept ?_).later hsaved ?_⟩
  · refine outcome_bind_eq_ok_iff.2 ⟨(), w₁, hpage, ?_⟩
    refine outcome_bind_eq_ok_iff.2 ⟨(), w₂, hpersist, ?_⟩
    exact outcome_bind_eq_ok_iff.2 ⟨(), w', outcome_onFiles_eq_ok_iff.2 hsave, rfl⟩
  · rw [hwritten.here]
    exact houtside
  · rw [hkept.here, hwritten.here]
    simpa using hapart

end Site

end StaticPage
