import Mathlib.Data.List.Forall2
import StaticPage.Proofs.Evaluation.Sessions

/-!
# The account of lazy fetches

Every lazy fetch is on behalf of one binding and one key. Here the exchanges with the fetcher are
written into a log as they happen, and the caches of a session are reconciled with it: what a binding
tried is what was requested for it, once each, and what it added to its cache is what the answers held.

The invariant, `Balanced`, is more exact than that: the cache is the one that was loaded followed by
the entries of the binding's exchanges in their order, and the keys tried are the keys of these
exchanges. Its two steps are an exchange of the binding itself and one of another binding.
-/

namespace StaticPage

variable {σ α : Type}

structure Exchange where
  request : LazyRequest
  answer : Except FetchFault ByteArray

namespace Exchange

def key (e : Exchange) : String := e.request.key

/-- The entry that the answer adds to a cache, if it has a value. -/
def added? (e : Exchange) : Option (String × Json.Value) :=
  (decoded? e.answer).map (e.key, ·)

theorem added?_eq_some {e : Exchange} {key : String} {value : Json.Value} :
    e.added? = some (key, value) ↔ e.key = key ∧ decoded? e.answer = some value := by
  simp [added?, and_comm]

end Exchange

def exchangesFor (name : String) (log : List Exchange) : List Exchange :=
  log.filter (·.request.binding == name)

theorem exchangesFor_append (name : String) (log : List Exchange) (e : Exchange) :
    exchangesFor name (log ++ [e])
      = exchangesFor name log ++ if e.request.binding = name then [e] else [] := by
  by_cases h : e.request.binding = name <;> simp [exchangesFor, h]

/-! ### A world that keeps the log -/

/-- A world together with the lazy exchanges so far. -/
structure Logged (σ : Type) where
  world : σ
  exchanges : List Exchange

instance : MonadLift (StateM σ) (StateM (Logged σ)) where
  monadLift x := fun s => let (a, world) := (x.run s.world).run; pure (a, { s with world })

def Fetcher.logged (fetcher : Fetcher (StateM σ)) : Fetcher (StateM (Logged σ)) where
  fetch target url := liftM (fetcher.fetch target url)
  fetchUncached request := do
    let answer ← (liftM (fetcher.fetchUncached request) : StateM (Logged σ) _)
    modify fun s => { s with exchanges := s.exchanges ++ [⟨request, answer⟩] }
    pure answer
  persist := liftM fetcher.persist

def Store.logged (store : Store (StateM σ)) : Store (StateM (Logged σ)) where
  load target := liftM (store.load target)
  save target bytes := liftM (store.save target bytes)

namespace Context

/-! ### Making a context exchanges nothing -/

/-- A computation without lazy exchanges. -/
def Quiet (x : ExceptT Failure (StateM (Logged σ)) α) : Prop :=
  ∀ s, (outcome x s).2.exchanges = s.exchanges

theorem Quiet.bind {β : Type} {x : ExceptT Failure (StateM (Logged σ)) α}
    {f : α → ExceptT Failure (StateM (Logged σ)) β} (hx : Quiet x) (hf : ∀ a, Quiet (f a)) :
    Quiet (x >>= f) := by
  intro s
  have hs := hx s
  rw [outcome_bind]
  split
  · rename_i a s' heq
    rw [heq] at hs
    exact (hf a s').trans hs
  · rename_i e s' heq
    rw [heq] at hs
    exact hs

theorem quiet_pure (a : α) : Quiet (pure a : ExceptT Failure (StateM (Logged σ)) α) :=
  fun _ => rfl

theorem quiet_throw (f : Failure) : Quiet (throw f : ExceptT Failure (StateM (Logged σ)) α) :=
  fun _ => rfl

theorem quiet_except (x : Except Failure α) :
    Quiet (liftM x : ExceptT Failure (StateM (Logged σ)) α) := by
  intro s
  rw [outcome_except]

theorem quiet_world (x : StateM σ α) :
    Quiet (liftM (liftM x : StateM (Logged σ) α) : ExceptT Failure (StateM (Logged σ)) α) :=
  fun _ => rfl

variable [MonadWarn (StateM σ)] {store : Store (StateM σ)} {fetcher : Fetcher (StateM σ)}

theorem quiet_warn (w : Warning) :
    Quiet (warn w : ExceptT Failure (StateM (Logged σ)) Unit) :=
  fun _ => rfl

theorem quiet_bind (ctx : Context) (b : Binding) :
    Quiet (bind store.logged fetcher.logged ctx b) := by
  unfold bind
  cases b.origin with
  | eager url =>
      refine Quiet.bind (Quiet.bind (quiet_world (fetcher.fetch b.target url)) fun answer => ?_)
        fun bytes => (quiet_except _).bind fun value => quiet_except _
      cases answer with
      | ok bytes => exact quiet_pure bytes
      | error cause =>
          refine (quiet_world (store.load b.target)).bind fun stored => ?_
          rcases stored with fault | _ | bytes
          · exact quiet_throw _
          · exact quiet_throw _
          · exact (quiet_warn _).bind fun _ => quiet_pure bytes
  | lazy template =>
      dsimp only
      unfold addLazy
      dsimp only
      split
      · exact fun _ => rfl
      · refine (quiet_world (store.load b.target)).bind fun stored => ?_
        cases stored with
        | error fault => exact quiet_throw _
        | ok bytes =>
            dsimp only
            split
            · exact (quiet_warn _).bind fun _ => quiet_pure _
            · exact quiet_pure _
  | manual =>
      refine Quiet.bind (Quiet.bind (quiet_world (store.load b.target)) fun stored => ?_)
        fun bytes => (quiet_except _).bind fun value => quiet_except _
      rcases stored with fault | _ | bytes
      · exact quiet_throw _
      · exact quiet_throw _
      · exact quiet_pure bytes

theorem quiet_ofDocument (store : Store (StateM σ)) (fetcher : Fetcher (StateM σ)) (doc : Document) :
    Quiet (ofDocument store.logged fetcher.logged doc) := by
  unfold ofDocument
  generalize empty = start
  induction doc.bindings generalizing start with
  | nil => exact quiet_pure start
  | cons b rest ih =>
      rw [List.foldlM_cons]
      exact (quiet_bind start b).bind ih

/-! ### Reconciling a binding with the log -/

theorem exists_of_forall₂ {β : Type} {R : α → β → Prop} {as : List α} {bs : List β}
    (h : List.Forall₂ R as bs) {b : β} (hb : b ∈ bs) : ∃ a ∈ as, R a b := by
  obtain ⟨i, hi, rfl⟩ := List.mem_iff_getElem.1 hb
  exact ⟨as.get ⟨i, h.length_eq ▸ hi⟩, List.get_mem _ _, h.get _ hi⟩

theorem exchanges_request (fetcher : Fetcher (StateM σ)) (r : LazyRequest) (s : Logged σ) :
    (request fetcher.logged r s).2.exchanges
      = s.exchanges ++ [⟨r, (request fetcher.logged r s).1⟩] := by
  simp only [request, complain]
  split
  · rfl
  · split <;> rfl

/-- A lazy binding whose cache is the one that was loaded and the entries of its exchanges, and that has
tried the keys of these exchanges, each of them once and none that was loaded. -/
structure Balanced (log : List Exchange) (loaded now : LazyBinding) : Prop where
  name_eq : now.name = loaded.name
  target_eq : now.target = loaded.target
  template_eq : now.template = loaded.template
  cache_eq : now.cache = loaded.cache ++ (exchangesFor now.name log).filterMap Exchange.added?
  attempted_eq : now.attempted = ((exchangesFor now.name log).map Exchange.key).reverse
  nodup : now.attempted.Nodup
  fresh : ∀ key ∈ now.attempted, key ∉ Dictionary.keys loaded.cache

theorem Balanced.learn {log : List Exchange} {loaded now : LazyBinding} (h : Balanced log loaded now)
    {e : Exchange} (hbinding : e.request.binding = now.name)
    (hcache : now.cache.lookup e.key = none) (htried : e.key ∉ now.attempted) :
    Balanced (log ++ [e]) loaded (now.learn e.key e.answer) := by
  have hnew : e.key ∉ Dictionary.keys now.cache := Dictionary.lookup_eq_none_iff.1 hcache
  have hlog : exchangesFor now.name (log ++ [e]) = exchangesFor now.name log ++ [e] := by
    rw [exchangesFor_append, if_pos hbinding]
  refine ⟨by simp [h.name_eq], by simp [h.target_eq], by simp [h.template_eq], ?_, ?_, ?_, ?_⟩
  · rw [LazyBinding.learn_name, hlog, List.filterMap_append, ← List.append_assoc, ← h.cache_eq,
      LazyBinding.learn_cache]
    cases hvalue : decoded? e.answer with
    | none => simp [Exchange.added?, hvalue]
    | some value => simp [Exchange.added?, hvalue, Dictionary.set_of_not_mem hnew]
  · rw [LazyBinding.learn_name, hlog, LazyBinding.learn_attempted, h.attempted_eq]
    simp
  · rw [LazyBinding.learn_attempted]
    exact List.nodup_cons.2 ⟨htried, h.nodup⟩
  · rw [LazyBinding.learn_attempted]
    intro key hkey
    rcases List.mem_cons.1 hkey with rfl | hkey
    · intro hloaded
      rw [h.cache_eq, Dictionary.keys_append] at hnew
      exact hnew (List.mem_append_left _ hloaded)
    · exact h.fresh key hkey

theorem Balanced.other {log : List Exchange} {loaded now : LazyBinding} (h : Balanced log loaded now)
    {e : Exchange} (hbinding : e.request.binding ≠ now.name) :
    Balanced (log ++ [e]) loaded now := by
  have hlog : exchangesFor now.name (log ++ [e]) = exchangesFor now.name log := by
    rw [exchangesFor_append, if_neg hbinding, List.append_nil]
  exact { h with
    cache_eq := by rw [hlog]; exact h.cache_eq
    attempted_eq := by rw [hlog]; exact h.attempted_eq }

/-! ### Reconciling a session -/

/-- A context whose lazy bindings have names of their own and are balanced against the log, which knows
no other bindings. -/
structure Reconciled (loaded : List LazyBinding) (w : Context × Logged σ) : Prop where
  nodup : (w.1.lazies.map (·.name)).Nodup
  balanced : List.Forall₂ (Balanced w.2.exchanges) loaded w.1.lazies
  known : ∀ e ∈ w.2.exchanges, ∃ b ∈ w.1.lazies, b.name = e.request.binding

theorem Reconciled.asks {loaded : List LazyBinding} {w w' : Context × Logged σ}
    (h : Reconciled loaded w) (hasks : Asks fetcher.logged w w') : Reconciled loaded w' := by
  cases hasks with
  | @ask ctx s b scope url key hlazy hexpand hcache htried =>
      have hb : b ∈ ctx.lazies := mem_of_lazy? hlazy
      have hlog := exchanges_request fetcher ⟨b.name, key, url⟩ s
      generalize request fetcher.logged ⟨b.name, key, url⟩ s = r at hlog ⊢
      have hsame (a : LazyBinding) (ha : a ∈ ctx.lazies) (hname : a.name = b.name) : a = b :=
        List.inj_on_of_nodup_map h.nodup ha hb hname
      refine ⟨?_, ?_, ?_⟩
      · rw [update_names]
        exact h.nodup
      · have hbalanced : List.Forall₂ (fun now loaded => now ∈ ctx.lazies ∧ Balanced s.exchanges loaded now)
            ctx.lazies loaded :=
          (List.forall₂_and_left _ _).2 ⟨fun _ ha => ha, h.balanced.flip⟩
        rw [hlog, update, List.forall₂_map_right_iff]
        refine hbalanced.flip.imp fun loaded now hnow => ?_
        obtain ⟨hmem, hnow⟩ := hnow
        split
        · rename_i hname
          rw [LazyBinding.learn_name, beq_iff_eq] at hname
          cases hsame now hmem hname
          exact hnow.learn rfl hcache htried
        · rename_i hname
          rw [LazyBinding.learn_name, beq_iff_eq] at hname
          exact hnow.other fun heq => hname heq.symm
      · intro e he
        have hnames : e.request.binding ∈ ctx.lazies.map (·.name) := by
          rw [hlog] at he
          rcases List.mem_append.1 he with he | he
          · obtain ⟨a, ha, hname⟩ := h.known e he
            exact List.mem_map.2 ⟨a, ha, hname⟩
          · cases List.mem_singleton.1 he
            exact List.mem_map.2 ⟨b, hb, rfl⟩
        rw [← update_names] at hnames
        exact List.mem_map.1 hnames

theorem Reconciled.moves {loaded : List LazyBinding} {w w' : Context × Logged σ}
    (h : Reconciled loaded w) (hmoves : Relation.ReflTransGen (Moves fetcher.logged) w w') :
    Reconciled loaded w' := by
  induction hmoves with
  | refl => exact h
  | tail _ hstep ih =>
      cases hstep with
      | asks hasks => exact ih.asks hasks
      | inserts hinsert =>
          obtain ⟨-, rfl⟩ := insert_eq_ok hinsert
          exact ⟨ih.nodup, ih.balanced, ih.known⟩

theorem reconciled_ofDocument {doc : Document} {world : σ} {ctx : Context} {s : Logged σ}
    (h : outcome (ofDocument store.logged fetcher.logged doc) ⟨world, []⟩ = (.ok ctx, s)) :
    Reconciled ctx.lazies (ctx, s) := by
  obtain ⟨hnodup, htried⟩ := ofDocument_lazies store.logged fetcher.logged h
  have hlog : s.exchanges = [] := by
    have := quiet_ofDocument store fetcher doc ⟨world, []⟩
    rwa [h] at this
  refine ⟨hnodup, ?_, by simp [hlog]⟩
  rw [hlog, List.forall₂_same]
  intro b hb
  exact ⟨rfl, rfl, rfl, by simp [exchangesFor], by simp [exchangesFor, htried b hb],
    by simp [htried b hb], by simp [htried b hb]⟩

/-! ### The account -/

/-- What a log says about a lazy binding, `loaded` when the context was made and `now` later. -/
structure Account (log : List Exchange) (loaded now : LazyBinding) : Prop where
  same : now.name = loaded.name ∧ now.target = loaded.target ∧ now.template = loaded.template
  /-- What was loaded stands in front of the cache as it was. -/
  kept : loaded.cache <+: now.cache
  /-- No key that was loaded is tried. -/
  fresh : ∀ key ∈ now.attempted, key ∉ Dictionary.keys loaded.cache
  /-- Every key that was added was tried. -/
  added : ∀ key ∈ Dictionary.keys now.cache, key ∉ Dictionary.keys loaded.cache → key ∈ now.attempted
  /-- The keys requested are the keys tried, one request for each. -/
  once : now.attempted.Nodup ∧ ((exchangesFor now.name log).map Exchange.key).Perm now.attempted
  /-- What was added is what the one answer about its key held. -/
  answered : ∀ key value, (key, value) ∈ now.cache → key ∉ Dictionary.keys loaded.cache →
    ∃ e bytes, (exchangesFor now.name log).filter (·.key == key) = [e] ∧ e.answer = .ok bytes ∧
      Json.parse bytes = .ok value

theorem filter_key_eq {log : List Exchange} (hnodup : (log.map Exchange.key).Nodup) {e : Exchange}
    (he : e ∈ log) : log.filter (·.key == e.key) = [e] := by
  induction log with
  | nil => cases he
  | cons a rest ih =>
      rw [List.map_cons, List.nodup_cons] at hnodup
      obtain ⟨ha, hrest⟩ := hnodup
      rcases List.mem_cons.1 he with rfl | he
      · have hnone : rest.filter (·.key == e.key) = [] := by
          refine List.filter_eq_nil_iff.2 fun a' ha' heq => ha ?_
          exact List.mem_map.2 ⟨a', ha', beq_iff_eq.1 heq⟩
        rw [List.filter_cons_of_pos (by simp), hnone]
      · have hne : (a.key == e.key) = false := by
          refine beq_eq_false_iff_ne.2 fun heq => ha ?_
          exact List.mem_map.2 ⟨e, he, heq.symm⟩
        rw [List.filter_cons_of_neg (by simp [hne]), ih hrest he]

theorem Balanced.account {log : List Exchange} {loaded now : LazyBinding}
    (h : Balanced log loaded now) : Account log loaded now := by
  have hperm : ((exchangesFor now.name log).map Exchange.key).Perm now.attempted := by
    rw [h.attempted_eq]
    exact (List.reverse_perm _).symm
  have hadded {key : String} {value : Json.Value} (hmem : (key, value) ∈ now.cache)
      (hnew : key ∉ Dictionary.keys loaded.cache) :
      ∃ e ∈ exchangesFor now.name log, e.key = key ∧ decoded? e.answer = some value := by
    rw [h.cache_eq, List.mem_append] at hmem
    rcases hmem with hmem | hmem
    · exact absurd (List.mem_map_of_mem hmem) hnew
    · obtain ⟨e, he, hentry⟩ := List.mem_filterMap.1 hmem
      exact ⟨e, he, Exchange.added?_eq_some.1 hentry⟩
  refine ⟨⟨h.name_eq, h.target_eq, h.template_eq⟩, ?_, h.fresh, ?_, ⟨h.nodup, hperm⟩, ?_⟩
  · rw [h.cache_eq]
    exact List.prefix_append _ _
  · intro key hkey hnew
    obtain ⟨⟨_, value⟩, hmem, rfl⟩ := List.mem_map.1 hkey
    obtain ⟨e, he, hkey, -⟩ := hadded hmem hnew
    exact hperm.mem_iff.1 (List.mem_map.2 ⟨e, he, hkey⟩)
  · intro key value hmem hnew
    obtain ⟨e, he, rfl, hvalue⟩ := hadded hmem hnew
    obtain ⟨bytes, hanswer, hparse⟩ := decoded?_eq_some.1 hvalue
    refine ⟨e, bytes, ?_, hanswer, hparse⟩
    exact filter_key_eq (hperm.nodup_iff.2 h.nodup) he

/-- The lazy bindings of a context later in a session are those it was made with, under names of their
own, each in agreement with the log, and there are no exchanges but theirs. -/
structure Accounted (made : Context) (now : Context × Logged σ) : Prop where
  names_nodup : (now.1.lazies.map (·.name)).Nodup
  accounts : List.Forall₂ (Account now.2.exchanges) made.lazies now.1.lazies
  exchanges_known : ∀ e ∈ now.2.exchanges, ∃ b ∈ now.1.lazies, b.name = e.request.binding

/-- **Every lazy fetch is accounted for**, whatever the document, the store and the fetcher, and whatever
calls there have been. -/
theorem lazy_fetches_accounted (store : Store (StateM σ)) (fetcher : Fetcher (StateM σ))
    (doc : Document) (calls : List Call) {world : σ} {ctx : Context} {s : Logged σ}
    (hmade : outcome (ofDocument store.logged fetcher.logged doc) ⟨world, []⟩ = (.ok ctx, s)) :
    Accounted ctx (exec (performAll fetcher.logged calls) (ctx, s)).2 := by
  have h := (reconciled_ofDocument hmade).moves (performAll_moves fetcher.logged calls (ctx, s))
  exact ⟨h.nodup, h.balanced.imp fun _ _ => Balanced.account, h.known⟩

theorem request_canned (r : LazyRequest) (w : Desk) (log : List Exchange) : ∃ w' : Desk,
    request (Fetcher.logged CannedAnswers.fetcher) r ⟨w, log⟩
        = (w.answers.serve r.url, ⟨w', log ++ [⟨r, w.answers.serve r.url⟩]⟩) ∧
      w'.answers.serve = w.answers.serve := by
  have hasked : (StateT.run ((Fetcher.logged CannedAnswers.fetcher).fetchUncached r)
      (⟨w, log⟩ : Logged Desk)).run = (w.answers.serve r.url,
        ⟨{ w with answers.requests := w.answers.requests ++ [⟨none, r.url⟩] },
          log ++ [⟨r, w.answers.serve r.url⟩]⟩) :=
    rfl
  rw [request, hasked]
  dsimp only
  unfold complain
  split
  · exact ⟨_, rfl, rfl⟩
  · split <;> exact ⟨_, rfl, rfl⟩

/-- A binding that has loaded one key is called for it and for two others, of which one is not answered: there
are two requests, and one entry is added. -/
theorem lazy_fetches_accounted_languages :
    let desk := Desk.prepared [("langs.json", "\x7b\"old\":1\x7d")] [("http://x/new", "2")]
    let ctx : Context := ⟨[], [languagesOf [("old", .number (.int 1))] []]⟩
    let calls := [lookUp "old", lookUp "new", lookUp "lost", lookUp "new", lookUp "lost"]
    outcome (ofDocument (Store.logged MemoryStore.store) (Fetcher.logged CannedAnswers.fetcher)
        ⟨[languages], []⟩) ⟨desk, []⟩ = (.ok ctx, ⟨desk, []⟩) ∧
      let now := (exec (performAll (Fetcher.logged CannedAnswers.fetcher) calls) (ctx, ⟨desk, []⟩)).2
      now.2.exchanges.map Exchange.request
          = [⟨"langs", "new", "http://x/new"⟩, ⟨"langs", "lost", "http://x/lost"⟩] ∧
        now.1.lazies = [languagesOf [("old", .number (.int 1)), ("new", .number (.int 2))] ["lost", "new"]] ∧
        Accounted ctx now := by
  intro desk ctx calls
  have hparse : Json.parse "\x7b\"old\":1\x7d".toUTF8 = .ok (.object [("old", .number (.int 1))]) := by
    with_unfolding_all rfl
  have hpersisted : (LazyBinding.new "langs" "langs.json" "http://x/{repo}").withPersisted
      (some "\x7b\"old\":1\x7d".toUTF8) = (languagesOf [("old", .number (.int 1))] [], none) := by
    rw [LazyBinding.withPersisted, hparse]
    rfl
  have hmade : outcome (ofDocument (Store.logged MemoryStore.store)
      (Fetcher.logged CannedAnswers.fetcher) ⟨[languages], []⟩) ⟨desk, []⟩ = (.ok ctx, ⟨desk, []⟩) := by
    simp only [ofDocument, List.foldlM_cons, List.foldlM_nil, bind_pure]
    change outcome (addLazy (Store.logged MemoryStore.store) empty languages "http://x/{repo}") ⟨desk, []⟩ = _
    rw [outcome_addLazy (Store.logged MemoryStore.store) "http://x/{repo}" rfl rfl hpersisted]
    rfl
  have haccounted := lazy_fetches_accounted MemoryStore.store CannedAnswers.fetcher ⟨[languages], []⟩ calls hmade
  obtain ⟨w₁, hnew, hserve₁⟩ := request_canned ⟨"langs", "new", "http://x/" ++ "new"⟩ desk []
  obtain ⟨w₂, hlost, -⟩ := request_canned ⟨"langs", "lost", "http://x/" ++ "lost"⟩ w₁
    [⟨⟨"langs", "new", "http://x/" ++ "new"⟩, desk.answers.serve ("http://x/" ++ "new")⟩]
  have hanswer : Json.parse "2".toUTF8 = .ok (.number (.int 2)) := by with_unfolding_all rfl
  have hserved : desk.answers.serve ("http://x/" ++ "new") = .ok "2".toUTF8 := rfl
  have hlearned : (languagesOf [("old", .number (.int 1))] []).learn "new"
      (desk.answers.serve ("http://x/" ++ "new"))
        = languagesOf [("old", .number (.int 1)), ("new", .number (.int 2))] ["new"] := by
    rw [hserved, LazyBinding.learn, decoded?_eq_some.2 ⟨_, rfl, hanswer⟩]
    rfl
  have hunlearned : (languagesOf [("old", .number (.int 1)), ("new", .number (.int 2))] ["new"]).learn "lost"
      (w₁.answers.serve ("http://x/" ++ "lost"))
        = languagesOf [("old", .number (.int 1)), ("new", .number (.int 2))] ["lost", "new"] := by
    rw [hserve₁]
    rfl
  have hcalls : ∃ e e', (exec (performAll (Fetcher.logged CannedAnswers.fetcher) calls) (ctx, ⟨desk, []⟩)).2
      = (⟨[], [languagesOf [("old", .number (.int 1)), ("new", .number (.int 2))] ["lost", "new"]]⟩,
        ⟨w₂, [⟨⟨"langs", "new", "http://x/new"⟩, e⟩, ⟨⟨"langs", "lost", "http://x/lost"⟩, e'⟩]⟩) := by
    refine ⟨desk.answers.serve ("http://x/" ++ "new"), w₁.answers.serve ("http://x/" ++ "lost"), ?_⟩
    simp only [calls, ctx, performAll_cons]
    rw [perform_lookUp "old", if_pos (.inl rfl), perform_lookUp "new", if_neg (by decide), hnew, hlearned,
      perform_lookUp "lost", if_neg (by decide), List.nil_append, hlost, hunlearned, perform_lookUp "new",
      if_pos (.inl rfl), perform_lookUp "lost", if_pos (.inr rfl)]
    rfl
  obtain ⟨e, e', hcalls⟩ := hcalls
  refine ⟨hmade, ?_, ?_, haccounted⟩
  · rw [hcalls]
    rfl
  · rw [hcalls]

end Context

end StaticPage
