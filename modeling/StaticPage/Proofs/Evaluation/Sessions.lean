import Mathlib.Data.List.Nodup
import StaticPage.Http.Canned
import StaticPage.Proofs.Evaluation.Requests
import StaticPage.Storage.Memory

/-!
# Sessions

A session makes a context from a document and then calls it: a body is evaluated, a path is looked up,
or a name is given a value. The calls may come in any order and any number.

A context is made by binding the names of the document one after the other, and `bind_cases` says all
that binding one name can do to a context. What a document's context has in common with those that come
after it in a session follows from that, from `Asks` and from `insert`.
-/

namespace StaticPage

variable {σ α β : Type}

namespace LazyBinding

variable (b : LazyBinding) (bytes : Option ByteArray)

@[simp] theorem withPersisted_name : (b.withPersisted bytes).1.name = b.name := by
  unfold withPersisted
  split
  · rfl
  · split <;> rfl

@[simp] theorem withPersisted_target : (b.withPersisted bytes).1.target = b.target := by
  unfold withPersisted
  split
  · rfl
  · split <;> rfl

@[simp] theorem withPersisted_template : (b.withPersisted bytes).1.template = b.template := by
  unfold withPersisted
  split
  · rfl
  · split <;> rfl

@[simp] theorem withPersisted_attempted : (b.withPersisted bytes).1.attempted = b.attempted := by
  unfold withPersisted
  split
  · rfl
  · split <;> rfl

end LazyBinding

namespace Context

/-! ### Making a context -/

/-- Runs a computation that may fail from a world: its outcome, and the world as it leaves it. -/
def outcome (x : ExceptT Failure (StateM σ) α) (s : σ) : Except Failure α × σ :=
  (x.run.run s).run

@[simp] theorem outcome_pure (a : α) (s : σ) :
    outcome (pure a : ExceptT Failure (StateM σ) α) s = (.ok a, s) := rfl

@[simp] theorem outcome_throw (f : Failure) (s : σ) :
    outcome (throw f : ExceptT Failure (StateM σ) α) s = (.error f, s) := rfl

@[simp] theorem outcome_lift (x : StateM σ α) (s : σ) :
    outcome (liftM x : ExceptT Failure (StateM σ) α) s = (.ok (x.run s).run.1, (x.run s).run.2) := rfl

@[simp] theorem outcome_except (x : Except Failure α) (s : σ) :
    outcome (liftM x : ExceptT Failure (StateM σ) α) s = (x, s) := by
  cases x <;> rfl

theorem outcome_bind (x : ExceptT Failure (StateM σ) α) (f : α → ExceptT Failure (StateM σ) β) (s : σ) :
    outcome (x >>= f) s =
      match outcome x s with
      | (.ok a, s) => outcome (f a) s
      | (.error e, s) => (.error e, s) := by
  simp only [outcome, ExceptT.run_bind, StateT.run_bind, Id.run_bind]
  rcases ((x.run.run s).run) with ⟨_ | _, _⟩ <;> rfl

theorem outcome_bind_eq_ok {x : ExceptT Failure (StateM σ) α} {f : α → ExceptT Failure (StateM σ) β}
    {s s' : σ} {b : β} (h : outcome (x >>= f) s = (.ok b, s')) :
    ∃ a s₁, outcome x s = (.ok a, s₁) ∧ outcome (f a) s₁ = (.ok b, s') := by
  rw [outcome_bind] at h
  rcases hx : outcome x s with ⟨a | a, s₁⟩
  · rw [hx] at h
    cases h
  · rw [hx] at h
    exact ⟨a, s₁, rfl, h⟩

variable [MonadWarn (StateM σ)] (store : Store (StateM σ)) (fetcher : Fetcher (StateM σ))

theorem insert_eq_ok {ctx ctx' : Context} {name : String} {value : Json.Value}
    (h : ctx.insert name value = .ok ctx') :
    ctx.isTaken name = false ∧ ctx' = { ctx with values := ctx.values ++ [(name, value)] } := by
  unfold insert at h
  split at h
  · cases h
  · rename_i htaken
    cases h
    exact ⟨by simpa using htaken, rfl⟩

theorem addLazy_eq_ok {ctx ctx' : Context} {b : Binding} {template : String} {s s' : σ}
    (h : outcome (addLazy store ctx b template) s = (.ok ctx', s')) :
    ctx.isTaken b.name = false ∧ ∃ bytes, ctx' = { ctx with
      lazies := ctx.lazies ++ [((LazyBinding.new b.name b.target template).withPersisted bytes).1] } := by
  unfold addLazy at h
  dsimp only at h
  split at h
  · rw [outcome_bind] at h
    cases h
  · rename_i htaken
    obtain ⟨loaded, s₁, -, h⟩ := outcome_bind_eq_ok h
    cases loaded with
    | error fault => cases h
    | ok bytes =>
        refine ⟨by simpa using htaken, bytes, ?_⟩
        dsimp only at h
        split at h
        · obtain ⟨-, s₂, -, h⟩ := outcome_bind_eq_ok h
          cases h
          rfl
        · cases h
          rfl

theorem outcome_addLazy {ctx : Context} {b : Binding} (template : String) {s : σ}
    {bytes : Option ByteArray} {lazyBinding : LazyBinding} (hfree : ctx.isTaken b.name = false)
    (hload : ((store.load b.target).run s).run = (.ok bytes, s))
    (hpersisted : (LazyBinding.new b.name b.target template).withPersisted bytes
      = (lazyBinding, none)) :
    outcome (addLazy store ctx b template) s
      = (.ok { ctx with lazies := ctx.lazies ++ [lazyBinding] }, s) := by
  unfold addLazy
  dsimp only
  rw [if_neg (by simp [hfree]), outcome_bind, outcome_lift, hload]
  dsimp only
  rw [hpersisted]
  rfl

/-- Binding a name gives it a value, or a lazy binding with what the store keeps for it. Either way
the name was free. -/
theorem bind_cases {ctx ctx' : Context} {b : Binding} {s s' : σ}
    (h : outcome (bind store fetcher ctx b) s = (.ok ctx', s')) :
    ctx.isTaken b.name = false ∧
      ((∃ value, ctx' = { ctx with values := ctx.values ++ [(b.name, value)] }) ∨
        ∃ template bytes, b.origin = .lazy template ∧ ctx' = { ctx with
          lazies := ctx.lazies ++
            [((LazyBinding.new b.name b.target template).withPersisted bytes).1] }) := by
  unfold bind at h
  cases horigin : b.origin with
  | eager url =>
      rw [horigin] at h
      obtain ⟨bytes, s₁, -, h⟩ := outcome_bind_eq_ok h
      obtain ⟨value, s₂, -, h⟩ := outcome_bind_eq_ok h
      rw [outcome_except] at h
      obtain ⟨htaken, rfl⟩ := insert_eq_ok (congrArg Prod.fst h)
      exact ⟨htaken, .inl ⟨value, rfl⟩⟩
  | lazy template =>
      rw [horigin] at h
      obtain ⟨htaken, bytes, rfl⟩ := addLazy_eq_ok store h
      exact ⟨htaken, .inr ⟨template, bytes, rfl, rfl⟩⟩
  | manual =>
      rw [horigin] at h
      obtain ⟨bytes, s₁, -, h⟩ := outcome_bind_eq_ok h
      obtain ⟨value, s₂, -, h⟩ := outcome_bind_eq_ok h
      rw [outcome_except] at h
      obtain ⟨htaken, rfl⟩ := insert_eq_ok (congrArg Prod.fst h)
      exact ⟨htaken, .inl ⟨value, rfl⟩⟩

/-- A property of the context without names that binding a name keeps is one of every document's
context. -/
theorem ofDocument_induction {P : Context → Prop} (hempty : P empty)
    {doc : Document} (hbind : ∀ {ctx ctx' b s s'}, b ∈ doc.bindings →
      outcome (bind store fetcher ctx b) s = (.ok ctx', s') → P ctx → P ctx')
    {s s' : σ} {ctx : Context} (h : outcome (ofDocument store fetcher doc) s = (.ok ctx, s')) :
    P ctx := by
  unfold ofDocument at h
  generalize empty = start at h hempty
  generalize doc.bindings = bindings at h hbind
  induction bindings generalizing start s with
  | nil =>
      cases h
      exact hempty
  | cons b rest ih =>
      rw [List.foldlM_cons] at h
      obtain ⟨ctx₁, s₁, h₁, h⟩ := outcome_bind_eq_ok h
      have hctx₁ : P ctx₁ := hbind List.mem_cons_self h₁ hempty
      exact ih ctx₁ hctx₁ h fun hb => hbind (List.mem_cons_of_mem _ hb)

theorem mem_of_lazy? {ctx : Context} {name : String} {b : LazyBinding} (h : ctx.lazy? name = some b) :
    b ∈ ctx.lazies :=
  List.mem_of_find?_eq_some h

theorem update_names {ctx : Context} {b : LazyBinding} :
    (ctx.update b).lazies.map (·.name) = ctx.lazies.map (·.name) := by
  simp only [update, List.map_map]
  refine List.map_congr_left fun a _ => ?_
  simp only [Function.comp_apply]
  split
  · rename_i h
    exact (beq_iff_eq.1 h).symm
  · rfl

theorem not_mem_names {ctx : Context} {name : String} (h : ctx.isTaken name = false) :
    name ∉ ctx.lazies.map (·.name) := by
  simp only [isTaken, lazy?, Bool.or_eq_false_iff, Option.isSome_eq_false_iff, Option.isNone_iff_eq_none,
    List.find?_eq_none, beq_iff_eq] at h
  simpa using h.2

theorem ofDocument_lazies {doc : Document} {s s' : σ} {ctx : Context}
    (h : outcome (ofDocument store fetcher doc) s = (.ok ctx, s')) :
    (ctx.lazies.map (·.name)).Nodup ∧ ∀ b ∈ ctx.lazies, b.attempted = [] := by
  refine ofDocument_induction store fetcher (P := fun ctx => (ctx.lazies.map (·.name)).Nodup ∧
    ∀ b ∈ ctx.lazies, b.attempted = []) (by simp [empty]) ?_ h
  rintro ctx ctx' b s s' - hbind ⟨hnodup, htried⟩
  obtain ⟨htaken, ⟨value, rfl⟩ | ⟨template, bytes, -, rfl⟩⟩ := bind_cases store fetcher hbind
  · exact ⟨hnodup, htried⟩
  · refine ⟨?_, ?_⟩
    · rw [List.map_append]
      refine hnodup.append (by simp) ?_
      simpa [LazyBinding.new] using not_mem_names htaken
    · intro a ha
      rcases List.mem_append.1 ha with ha | ha
      · exact htried a ha
      · cases List.mem_singleton.1 ha
        simp [LazyBinding.new]

/-! ### Calling a context -/

inductive Call where
  | evaluate (transform : String → String) (nodes : List Node)
  | resolve (scope : Scope) (path : String)
  | insert (name : String) (value : Json.Value)

/-- Performs a call. Giving a value to a name that is taken changes nothing. -/
def Call.perform {m : Type → Type} [Monad m] [MonadWarn m] (fetcher : Fetcher m) :
    Call → StateT Context m Unit
  | .evaluate transform nodes => discard (Context.evaluate fetcher transform nodes)
  | .resolve scope path => discard (Context.resolve fetcher scope path)
  | .insert name value => modify fun ctx => (ctx.insert name value).toOption.getD ctx

def performAll {m : Type → Type} [Monad m] [MonadWarn m] (fetcher : Fetcher m) (calls : List Call) :
    StateT Context m Unit :=
  calls.forM (Call.perform fetcher)

/-- A lazy binding asks, or a free name is given a value. -/
inductive Moves : Context × σ → Context × σ → Prop where
  | asks {w w' : Context × σ} (h : Asks fetcher w w') : Moves w w'
  | inserts {w : Context × σ} {ctx : Context} {name : String} {value : Json.Value}
      (h : w.1.insert name value = .ok ctx) : Moves w (ctx, w.2)

variable {fetcher}

theorem ByRequests.moves {x : StateT Context (StateM σ) α} (hx : ByRequests fetcher x)
    (w : Context × σ) : Relation.ReflTransGen (Moves fetcher) w (exec x w).2 := by
  have hle : Asks fetcher ≤ Moves fetcher := fun _ _ => Moves.asks
  exact Relation.ReflTransGen.mono hle w _ (hx w)

theorem perform_moves (call : Call) (w : Context × σ) :
    Relation.ReflTransGen (Moves fetcher) w (exec (call.perform fetcher) w).2 := by
  cases call with
  | evaluate transform nodes => exact (byRequests_evaluate nodes).moves w
  | resolve scope path => exact (byRequests_resolve scope path).moves w
  | insert name value =>
      change Relation.ReflTransGen (Moves fetcher) w
        ((w.1.insert name value).toOption.getD w.1, w.2)
      cases h : w.1.insert name value with
      | error f => exact .refl
      | ok ctx => exact .single (.inserts h)

theorem perform_resolve_lazy {ctx : Context} {s : σ} {b : LazyBinding} {scope : Scope} {path url key : String}
    (hpath : splitPath path = (b.name, none)) (hknown : ctx.known? scope b.name = none)
    (hlazy : ctx.lazy? b.name = some b)
    (hexpand : b.template.expand (ctx.placeholderText? scope) = some (url, key)) :
    (exec ((Call.resolve scope path).perform fetcher) (ctx, s)).2 =
      if (b.cache.lookup key).isSome ∨ b.attempted.contains key = true then (ctx, s)
      else (ctx.update (b.learn key (request fetcher ⟨b.name, key, url⟩ s).1),
        (request fetcher ⟨b.name, key, url⟩ s).2) := by
  change (exec (Context.resolve fetcher scope path) (ctx, s)).2 = _
  unfold Context.resolve
  simp only [exec_bind, exec_get, hpath, hknown, hlazy]
  rw [exec_pure, exec_lazyValue, hexpand]
  dsimp only
  cases b.cache.lookup key with
  | some value => simp
  | none => cases b.attempted.contains key <;> simp

theorem performAll_cons (fetcher : Fetcher (StateM σ)) (call : Call) (calls : List Call) (w : Context × σ) :
    (exec (performAll fetcher (call :: calls)) w).2
      = (exec (performAll fetcher calls) (exec (call.perform fetcher) w).2).2 :=
  rfl

/-- A session is a chain of requests and of names given values. -/
theorem performAll_moves (fetcher : Fetcher (StateM σ)) (calls : List Call) (w : Context × σ) :
    Relation.ReflTransGen (Moves fetcher) w (exec (performAll fetcher calls) w).2 := by
  induction calls generalizing w with
  | nil => exact .refl
  | cons call rest ih =>
      exact (perform_moves call w).trans (ih _)

end Context

/-! ### A world in memory -/

/-- A world with a memory store and prepared answers, in which the warnings are noted. -/
structure Desk where
  store : MemoryStore
  answers : CannedAnswers
  warnings : List Warning

namespace Desk

instance : MonadWarn (StateM Desk) where
  warn w := modify fun d => { d with warnings := d.warnings ++ [w] }

instance : MonadStateOf MemoryStore (StateM Desk) where
  get := return (← getThe Desk).store
  set store := modifyThe Desk fun d => { d with store }
  modifyGet f := modifyGetThe Desk fun d => let (a, store) := f d.store; (a, { d with store })

instance : MonadStateOf CannedAnswers (StateM Desk) where
  get := return (← getThe Desk).answers
  set answers := modifyThe Desk fun d => { d with answers }
  modifyGet f := modifyGetThe Desk fun d => let (a, answers) := f d.answers; (a, { d with answers })

def prepared (stored answers : List (String × String)) : Desk where
  store := ⟨stored.map fun (target, text) => (target, text.toUTF8)⟩
  answers := ⟨answers.map fun (url, text) => (url, .body text.toUTF8), none, []⟩
  warnings := []

end Desk

namespace Context

variable [MonadWarn (StateM σ)] {fetcher : Fetcher (StateM σ)}

/-- A lazy binding of the languages of repositories. -/
def languages : Binding := ⟨"langs", "langs.json", .lazy "http://x/{repo}", 1⟩

/-- The binding with what it has fetched and tried. -/
def languagesOf (cache : List (String × Json.Value)) (attempted : List String) : LazyBinding :=
  ⟨"langs", "langs.json", .parse "http://x/{repo}", cache, attempted⟩

def lookUp (repo : String) : Call :=
  .resolve ⟨[("repo", .string repo)], []⟩ "langs"

theorem expand_languages (ctx : Context) (repo : String) : (Template.parse "http://x/{repo}").expand
    (ctx.placeholderText? ⟨[("repo", .string repo)], []⟩) = some ("http://x/" ++ repo, repo) := by
  have hparts : (Template.parse "http://x/{repo}").parts = [.literal "http://x/", .hole ⟨"repo", none⟩] := by
    with_unfolding_all rfl
  have htext : ctx.placeholderText? ⟨[("repo", .string repo)], []⟩ ⟨"repo", none⟩ = some repo := rfl
  simp [Template.expand, Template.placeholders, hparts, Template.expandParts, htext]

theorem perform_lookUp (repo : String) (cache : List (String × Json.Value)) (attempted : List String) (s : σ) :
    (exec ((lookUp repo).perform fetcher) (⟨[], [languagesOf cache attempted]⟩, s)).2 =
      if (cache.lookup repo).isSome ∨ attempted.contains repo = true then
        (⟨[], [languagesOf cache attempted]⟩, s)
      else
        (⟨[], [(languagesOf cache attempted).learn repo
            (request fetcher ⟨"langs", repo, "http://x/" ++ repo⟩ s).1]⟩,
          (request fetcher ⟨"langs", repo, "http://x/" ++ repo⟩ s).2) := by
  have hpath : splitPath "langs" = ("langs", none) := by with_unfolding_all rfl
  have hupdate (answer : Except FetchFault ByteArray) :
      update ⟨[], [languagesOf cache attempted]⟩ ((languagesOf cache attempted).learn repo answer)
        = ⟨[], [(languagesOf cache attempted).learn repo answer]⟩ := by
    simp [update, languagesOf]
  rw [lookUp, perform_resolve_lazy (b := languagesOf cache attempted) hpath rfl rfl (expand_languages _ repo),
    hupdate]
  rfl

end Context

end StaticPage
