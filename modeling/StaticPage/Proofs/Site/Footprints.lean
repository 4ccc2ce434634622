import StaticPage.Proofs.Evaluation.Caches
import StaticPage.Proofs.Files.Footprints
import StaticPage.Proofs.Site.Stages

/-!
# Footprints of rendering

All that rendering does to a world it does by reading files, making directories, fetching and warning, until
it writes the page. Whatever relation the single operations stay within, composing a site stays within it,
`stays_compose`, in whichever stage it ends and with whatever result.
-/

namespace StaticPage

open Context

variable {σ α β : Type} {R : σ → σ → Prop} [IsPreorder σ R]

/-! ### Computations that may fail -/

omit [IsPreorder σ R] in
theorem Stays.run {x : ExceptT Failure (StateM σ) α} (hx : Stays R x.run) (s : σ) : R s (outcome x s).2 :=
  hx s

theorem Stays.bindExcept {x : ExceptT Failure (StateM σ) α} {f : α → ExceptT Failure (StateM σ) β}
    (hx : Stays R x.run) (hf : ∀ a, Stays R (f a).run) : Stays R (x >>= f).run := by
  intro s
  have hs := hx.run s
  change R s (outcome (x >>= f) s).2
  rw [outcome_bind]
  split
  · rename_i a s₁ heq
    rw [heq] at hs
    exact IsTrans.trans s s₁ _ hs ((hf a).run s₁)
  · rename_i e s₁ heq
    rw [heq] at hs
    exact hs

theorem stays_except (x : Except Failure α) :
    Stays R (liftM x : ExceptT Failure (StateM σ) α).run := by
  intro s
  change R s (outcome (liftM x : ExceptT Failure (StateM σ) α) s).2
  rw [outcome_except]
  exact refl s

theorem stays_ok (a : α) : Stays R (pure a : ExceptT Failure (StateM σ) α).run :=
  stays_except (.ok a)

theorem stays_throw (failure : Failure) : Stays R (throw failure : ExceptT Failure (StateM σ) α).run :=
  stays_except (.error failure)

omit [IsPreorder σ R] in
theorem Stays.lift {x : StateM σ α} (hx : Stays R x) :
    Stays R (liftM x : ExceptT Failure (StateM σ) α).run :=
  hx

theorem Stays.foldlM {f : β → α → ExceptT Failure (StateM σ) β} (hf : ∀ b a, Stays R (f b a).run)
    (as : List α) (b : β) : Stays R (as.foldlM f b).run := by
  induction as generalizing b with
  | nil => exact stays_ok b
  | cons a as ih =>
      rw [List.foldlM_cons]
      exact (hf b a).bindExcept ih

theorem Stays.forM {f : α → ExceptT Failure (StateM σ) PUnit} {as : List α}
    (hf : ∀ a ∈ as, Stays R (f a).run) : Stays R (as.forM f).run := by
  induction as with
  | nil => exact stays_ok PUnit.unit
  | cons a as ih =>
      rw [List.forall_mem_cons] at hf
      exact hf.1.bindExcept fun _ => ih hf.2

theorem Stays.onFiles {act : StateM σ (Except FileFault α)} (hact : Stays R act) :
    Stays R (Site.onFiles act).run := by
  apply hact.lift.bindExcept
  intro r
  cases r with
  | error fault => exact stays_throw _
  | ok a => exact stays_ok a

theorem stays_persist {store : Store (StateM σ)} {ctx : Context}
    (hsave : ∀ b ∈ ctx.lazies, Stays R (store.save b.target b.persisted)) :
    Stays R (ctx.persist store).run := by
  apply Stays.forM
  intro b hb
  apply (hsave b hb).lift.bindExcept
  intro r
  cases r with
  | error fault => exact stays_throw _
  | ok saved => exact stays_ok _

/-- Whatever a fetcher is asked to bring, it stays within a relation. -/
structure Fetcher.Brings (R : σ → σ → Prop) (fetcher : Fetcher (StateM σ)) : Prop where
  fetch (target url : String) : Stays R (fetcher.fetch target url)
  fetchUncached (request : LazyRequest) : Stays R (fetcher.fetchUncached request)

/-! ### Sources -/

variable {fs : FileAccess (StateM σ)} {fetcher : Fetcher (StateM σ)} {store : Store (StateM σ)}

theorem stays_loadDocument (hfs : fs.Reads R) (path : String) : Stays R (Site.loadDocument fs path).run := by
  apply (stays_readText hfs path).onFiles.bindExcept
  intro source
  split
  · exact stays_ok _
  · exact stays_throw _

variable [MonadWarn (StateM σ)] (hwarn : ∀ warning, Stays R (warn warning : StateM σ Unit))

include hwarn

theorem stays_load? (hfs : fs.Reads R) (path : String) : Stays R (Post.load? fs path).run := by
  unfold Post.load?
  split
  · dsimp only
    split
    · exact stays_ok _
    · apply (stays_readText hfs path).lift.bindExcept
      intro r
      cases r with
      | error fault => exact stays_throw _
      | ok content =>
          dsimp only
          split
          · exact (hwarn _).lift.bindExcept fun _ => stays_ok _
          · exact stays_ok _
  · exact stays_ok _

theorem stays_loadAll (hfs : fs.Reads R) (paths : List String) : Stays R (Post.loadAll fs paths).run := by
  induction paths with
  | nil => exact stays_ok []
  | cons path rest ih =>
      exact (stays_load? hwarn hfs path).bindExcept fun post => ih.bindExcept fun posts => stays_ok _

theorem stays_loadMatching (hfs : fs.Reads R) (pattern : String) :
    Stays R (Post.loadMatching fs pattern).run := by
  unfold Post.loadMatching
  split
  · exact stays_throw _
  · exact (stays_paths hfs _).lift.bindExcept fun paths => stays_loadAll hwarn hfs paths

theorem stays_addPosts (hfs : fs.Reads R) (settings : Settings) (ctx : Context) :
    Stays R (Site.addPosts settings fs ctx).run := by
  unfold Site.addPosts
  split
  · exact stays_ok ctx
  · exact (stays_loadMatching hwarn hfs _).bindExcept fun posts => stays_except _

/-! ### Bindings and bodies -/

theorem stays_bind (hload : ∀ target, Stays R (store.load target))
    (hfetcher : fetcher.Brings R) (ctx : Context) (b : Binding) :
    Stays R (Context.bind store fetcher ctx b).run := by
  unfold Context.bind
  cases b.origin with
  | eager url =>
      refine Stays.bindExcept ?_ fun bytes => (stays_except _).bindExcept fun value => stays_except _
      apply (hfetcher.fetch b.target url).lift.bindExcept
      intro answer
      cases answer with
      | ok bytes => exact stays_ok bytes
      | error cause =>
          apply (hload b.target).lift.bindExcept
          intro stored
          rcases stored with fault | _ | bytes
          · exact stays_throw _
          · exact stays_throw _
          · exact (hwarn _).lift.bindExcept fun _ => stays_ok bytes
  | lazy template =>
      dsimp only
      unfold addLazy
      dsimp only
      split
      · exact fun s => refl s
      · apply (hload b.target).lift.bindExcept
        intro stored
        cases stored with
        | error fault => exact stays_throw _
        | ok bytes =>
            dsimp only
            split
            · exact (hwarn _).lift.bindExcept fun _ => stays_ok _
            · exact stays_ok _
  | manual =>
      refine Stays.bindExcept ?_ fun bytes => (stays_except _).bindExcept fun value => stays_except _
      apply (hload b.target).lift.bindExcept
      intro stored
      rcases stored with fault | _ | bytes
      · exact stays_throw _
      · exact stays_throw _
      · exact stays_ok bytes

theorem stays_ofDocument (hload : ∀ target, Stays R (store.load target))
    (hfetcher : fetcher.Brings R) (doc : Document) :
    Stays R (Context.ofDocument store fetcher doc).run :=
  Stays.foldlM (stays_bind hwarn hload hfetcher) _ _

theorem stays_request (hfetcher : fetcher.Brings R) (r : LazyRequest) (s : σ) :
    R s (request fetcher r s).2 := by
  have hcomplain (answer : Except FetchFault ByteArray) : Stays R (complain r answer) := by
    unfold complain
    split
    · exact hwarn _
    · split
      · exact hwarn _
      · exact stays_pure _
  exact ((hfetcher.fetchUncached r).bind hcomplain) s

theorem stays_evaluate (hfetcher : fetcher.Brings R) (transform : String → String) (nodes : List Node)
    (ctx : Context) : Stays R ((Context.evaluate fetcher transform nodes).run ctx) := by
  have hrequests {w w' : Context × σ} (h : Relation.ReflTransGen (Asks fetcher) w w') : R w.2 w'.2 := by
    induction h with
    | refl => exact refl w.2
    | tail _ hasks ih =>
        cases hasks
        exact IsTrans.trans _ _ _ ih (stays_request hwarn hfetcher _ _)
  have hevaluate : ByRequests fetcher (Context.evaluate fetcher transform nodes) := byRequests_evaluate nodes
  exact fun s => hrequests (hevaluate (ctx, s))

/-! ### Composing -/

/-- Composing a site does nothing else than its operations on files, its fetcher and its warnings. -/
theorem stays_compose (hfs : fs.Reads R) (hmake : ∀ path, Stays R (fs.makeDirectory path))
    (hfetcher : fetcher.Brings R) (settings : Settings) (today : Date) :
    Stays R (Site.compose settings fs fetcher today).run := by
  have hload (target : String) : Stays R (((Site.data settings).store fs).load target) :=
    DataDirectory.stays_load hfs _ target
  apply (stays_loadDocument hfs settings.input).bindExcept
  intro doc
  apply (stays_makeDirectories hfs hmake settings.dataDirectory).onFiles.bindExcept
  intro made
  refine Stays.bindExcept ?_ fun composed => stays_ok _
  apply (stays_ofDocument hwarn hload hfetcher doc).bindExcept
  intro ctx
  apply (stays_addPosts hwarn hfs settings ctx).bindExcept
  intro ctx
  apply (stays_evaluate hwarn hfetcher Markdown.toHtml doc.nodes ctx).lift.bindExcept
  intro evaluated
  apply (stays_readText hfs settings.layout).onFiles.bindExcept
  intro layout
  exact (stays_except _).bindExcept fun page => stays_ok _

end StaticPage
