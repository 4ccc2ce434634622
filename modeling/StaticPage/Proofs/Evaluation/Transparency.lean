import StaticPage.Proofs.Evaluation.Sessions

/-!
# Caching does not show

Beside the evaluation that keeps what lazy bindings fetched stands one that keeps nothing. It knows a
`Glossary` only, the values and URL templates that names stand for, and asks for a URL again whenever a
path leads there. Where the answer to a URL never changes, and a template has but one placeholder, the two
agree.

The reason is that the key of an expansion determines its URL if all placeholders of the template are
one: the URL is then the template filled with the key. What is kept for a key is therefore what its URL
answers, and a key that was tried without success has a URL without a value. `Truthful` says this of a
context. A request keeps it, so it holds along every chain of requests.
-/

namespace StaticPage

variable {σ α β : Type}

/-! ### Templates with one placeholder -/

namespace Template

/-- A template whose placeholders are all the same. -/
def Single (t : Template) : Prop :=
  ∀ p ∈ t.placeholders, ∀ q ∈ t.placeholders, p = q

def holes (parts : List TemplatePart) : List Placeholder :=
  parts.filterMap fun
    | .hole p => some p
    | .literal _ => none

@[simp] theorem holes_nil : holes [] = [] := rfl

@[simp] theorem holes_literal (text : String) (rest : List TemplatePart) :
    holes (.literal text :: rest) = holes rest := rfl

@[simp] theorem holes_hole (p : Placeholder) (rest : List TemplatePart) :
    holes (.hole p :: rest) = p :: holes rest := rfl

theorem expandParts_congr {resolve resolve' : Placeholder → Option String} {parts : List TemplatePart}
    (h : ∀ p ∈ holes parts, resolve p = resolve' p) :
    expandParts resolve parts = expandParts resolve' parts := by
  induction parts with
  | nil => rfl
  | cons part rest ih =>
      cases part with
      | literal text => rw [expandParts, expandParts, ih h]
      | hole p =>
          rw [expandParts, expandParts, h p (by simp),
            ih fun q hq => h q (List.mem_cons_of_mem _ hq)]

theorem isSome_of_expandParts {resolve : Placeholder → Option String} {parts : List TemplatePart}
    {url : String} (h : expandParts resolve parts = some url) {p : Placeholder}
    (hp : p ∈ holes parts) : (resolve p).isSome := by
  induction parts generalizing url with
  | nil => cases hp
  | cons part rest ih =>
      cases part with
      | literal text =>
          rw [expandParts, Option.map_eq_some_iff] at h
          obtain ⟨tail, htail, -⟩ := h
          exact ih htail hp
      | hole q =>
          rw [expandParts, Option.bind_eq_some_iff] at h
          obtain ⟨text, htext, h⟩ := h
          obtain ⟨tail, htail, -⟩ := Option.map_eq_some_iff.1 h
          rcases List.mem_cons.1 hp with rfl | hp
          · simp [htext]
          · exact ih htail hp

/-- The URL of a template with a text in place of every placeholder. -/
def filled? (t : Template) (text : String) : Option String :=
  expandParts (fun _ => some text) t.parts

/-- With one placeholder, a URL is the template filled with its key. -/
theorem Single.filled? {t : Template} (hsingle : t.Single) {resolve : Placeholder → Option String}
    {url key : String} (h : t.expand resolve = some (url, key)) : t.filled? key = some url := by
  obtain ⟨url', hurl, heq⟩ := Option.map_eq_some_iff.1 h
  obtain ⟨rfl, hkey⟩ := Prod.mk.inj heq
  rw [← hurl]
  refine expandParts_congr fun p hp => ?_
  have hhead : t.placeholders.head? = some p := by
    cases hlist : t.placeholders with
    | nil =>
        rw [show holes t.parts = t.placeholders from rfl, hlist] at hp
        cases hp
    | cons q rest => rw [List.head?_cons, hsingle q (by simp [hlist]) p hp]
  obtain ⟨text, htext⟩ := Option.isSome_iff_exists.1 (isSome_of_expandParts hurl hp)
  rw [hhead, Option.bind_some, htext, Option.getD_some] at hkey
  rw [htext, hkey]

end Template

/-! ### Evaluation without a memory -/

/-- A fetcher that has one answer for each URL, and keeps nothing. -/
def Fetcher.answering {m : Type → Type} [Monad m] (answer : String → Except FetchFault ByteArray) :
    Fetcher m where
  fetch _ url := pure (answer url)
  fetchUncached r := pure (answer r.url)
  persist := pure (.ok ())

/-- What names stand for as far as evaluation cannot change it: values and URL templates. -/
structure Glossary where
  values : List (String × Json.Value)
  templates : List (String × Template)

namespace Glossary

variable (g : Glossary) (answer : String → Except FetchFault ByteArray)

def known? (scope : Scope) (name : String) : Option Json.Value :=
  (scope.get? name).or (g.values.lookup name)

def placeholderText? (scope : Scope) (p : Placeholder) : Option String :=
  (g.known? scope p.head).bind fun value => (Context.descend value p.rest).map Json.Value.display

def fetched? (scope : Scope) (t : Template) : Option Json.Value :=
  (t.expand (g.placeholderText? scope)).bind fun expanded => decoded? (answer expanded.1)

/-- The value at a path, absent if it is null or nothing is there. -/
def resolve? (scope : Scope) (path : String) : Option Json.Value :=
  let (head, rest) := Context.splitPath path
  match g.known? scope head with
  | some value => Context.descend value rest
  | none => ((g.templates.lookup head).bind (g.fetched? answer scope)).bind (Context.descend · rest)

mutual

def block (transform : String → String) (scope : Scope) : Node → Block
  | .prose id text => .prose id (transform text)
  | .field path => .field path (g.resolve? answer scope path)
  | .loop header body =>
    .loop header.source ((Context.frames header (g.resolve? answer scope header.source)).map fun frame =>
      blocks transform (scope.child frame) body)

/-- The blocks of a body, each by itself. -/
def blocks (transform : String → String) (scope : Scope) : List Node → List Block
  | [] => []
  | n :: rest => block transform scope n :: blocks transform scope rest

end

theorem blocks_eq_map (transform : String → String) (scope : Scope) (nodes : List Node) :
    g.blocks answer transform scope nodes = nodes.map (g.block answer transform scope) := by
  induction nodes with
  | nil => rfl
  | cons n rest ih => rw [blocks, ih, List.map_cons]

end Glossary

namespace Context

def glossary (ctx : Context) : Glossary :=
  ⟨ctx.values, ctx.lazies.map fun b => (b.name, b.template)⟩

theorem lookup_templates (ctx : Context) (name : String) :
    ctx.glossary.templates.lookup name = (ctx.lazy? name).map (·.template) := by
  unfold glossary lazy?
  induction ctx.lazies with
  | nil => rfl
  | cons b rest ih =>
      rw [List.map_cons, List.lookup_cons, List.find?_cons, ih, BEq.comm]
      cases b.name == name <;> rfl

/-! ### Truthful caches -/

variable {answer : String → Except FetchFault ByteArray}

/-- A lazy binding that keeps for each key it has tried what is answered at the template filled with
that key, and nothing else. -/
structure TruthfulBinding (answer : String → Except FetchFault ByteArray) (b : LazyBinding) : Prop where
  single : b.template.Single
  cache_eq : ∀ key, b.cache.lookup key =
    if key ∈ b.attempted then (b.template.filled? key).bind fun url => decoded? (answer url) else none

theorem TruthfulBinding.learn {b : LazyBinding} (h : TruthfulBinding answer b) {url key : String}
    (hfilled : b.template.filled? key = some url) (hcache : b.cache.lookup key = none) :
    TruthfulBinding answer (b.learn key (answer url)) := by
  refine ⟨by simpa using h.single, fun other => ?_⟩
  rw [LazyBinding.learn_cache, LazyBinding.learn_attempted, LazyBinding.learn_template]
  by_cases hother : other = key
  · rw [hother, if_pos List.mem_cons_self, hfilled, Option.bind_some]
    cases decoded? (answer url) with
    | none => exact hcache
    | some value => exact Dictionary.lookup_set_self key value b.cache
  · have hkeep : ((decoded? (answer url)).elim b.cache fun value =>
        Dictionary.set key value b.cache).lookup other = b.cache.lookup other := by
      cases decoded? (answer url) with
      | none => rfl
      | some value => exact Dictionary.lookup_set_of_ne hother value b.cache
    rw [hkeep, h.cache_eq other]
    simp only [List.mem_cons, hother, false_or]

/-- A context whose lazy bindings are truthful, under names of their own. -/
structure Truthful (answer : String → Except FetchFault ByteArray) (ctx : Context) : Prop where
  nodup : (ctx.lazies.map (·.name)).Nodup
  bindings : ∀ b ∈ ctx.lazies, TruthfulBinding answer b

/-! ### Agreement -/

/-- A context that is truthful, and in which names stand for what a glossary says. -/
structure Agrees (answer : String → Except FetchFault ByteArray) (g : Glossary) (ctx : Context) :
    Prop where
  truthful : Truthful answer ctx
  glossary_eq : ctx.glossary = g

/-- A computation that gives one result wherever the context agrees with a glossary, and keeps the
agreement. -/
def Yields (answer : String → Except FetchFault ByteArray) (g : Glossary)
    (x : StateT Context (StateM σ) α) (a : α) : Prop :=
  ∀ w, Agrees answer g w.1 → (exec x w).1 = a ∧ Agrees answer g (exec x w).2.1

variable {g : Glossary}

theorem yields_pure (a : α) : Yields answer g (pure a : StateT Context (StateM σ) α) a :=
  fun _ h => ⟨rfl, h⟩

theorem Yields.bind {x : StateT Context (StateM σ) α} {f : α → StateT Context (StateM σ) β} {a : α}
    {b : β} (hx : Yields answer g x a) (hf : Yields answer g (f a) b) :
    Yields answer g (x >>= f) b := by
  intro w h
  obtain ⟨rfl, h⟩ := hx w h
  exact hf _ h

theorem Yields.mapM {γ : Type} {f : γ → StateT Context (StateM σ) α} {out : γ → α}
    (hf : ∀ a, Yields answer g (f a) (out a)) (as : List γ) :
    Yields answer g (as.mapM f) (as.map out) := by
  induction as with
  | nil => exact yields_pure []
  | cons a as ih =>
      rw [List.mapM_cons]
      exact (hf a).bind (ih.bind (yields_pure _))

/-! ### Requests keep the agreement -/

variable [MonadWarn (StateM σ)] {fetcher : Fetcher (StateM σ)}

/-- A fetcher whose answer to a lazy request is fixed by the URL. -/
def AnswersAs (fetcher : Fetcher (StateM σ)) (answer : String → Except FetchFault ByteArray) : Prop :=
  ∀ (r : LazyRequest) (s : σ), ((fetcher.fetchUncached r).run s).run.1 = answer r.url

/-- A request leaves what names stand for, and what is kept afterwards is truthful. -/
theorem Truthful.asks (hfixed : AnswersAs fetcher answer) {w w' : Context × σ}
    (h : Truthful answer w.1) (hasks : Asks fetcher w w') :
    Truthful answer w'.1 ∧ w'.1.glossary = w.1.glossary := by
  cases hasks with
  | @ask ctx s b scope url key hlazy hexpand hcache htried =>
      have hb : b ∈ ctx.lazies := mem_of_lazy? hlazy
      have hanswer : (request fetcher ⟨b.name, key, url⟩ s).1 = answer url := hfixed ⟨b.name, key, url⟩ s
      have hfilled : b.template.filled? key = some url := (h.bindings b hb).single.filled? hexpand
      rw [hanswer]
      refine ⟨⟨?_, ?_⟩, ?_⟩
      · rw [update_names]
        exact h.nodup
      · intro a ha
        obtain ⟨a', ha', rfl⟩ := List.mem_map.1 ha
        split
        · exact (h.bindings b hb).learn hfilled hcache
        · exact h.bindings a' ha'
      · simp only [glossary, update, List.map_map, Glossary.mk.injEq, true_and]
        refine List.map_congr_left fun a ha => ?_
        simp only [Function.comp_apply]
        split
        · rename_i hname
          rw [LazyBinding.learn_name, beq_iff_eq] at hname
          rw [List.inj_on_of_nodup_map h.nodup ha hb hname, LazyBinding.learn_name,
            LazyBinding.learn_template]
        · rfl

theorem Agrees.requests (hfixed : AnswersAs fetcher answer) {g : Glossary} {w w' : Context × σ}
    (h : Agrees answer g w.1) (hasks : Relation.ReflTransGen (Asks fetcher) w w') :
    Agrees answer g w'.1 := by
  induction hasks with
  | refl => exact h
  | tail _ hstep ih =>
      obtain ⟨htruthful, hglossary⟩ := ih.truthful.asks hfixed hstep
      exact ⟨htruthful, hglossary.trans ih.glossary_eq⟩

/-! ### Evaluation agrees with evaluation without a memory -/

/-- What a truthful binding has kept, or fetches now, is what its URL answers. -/
theorem exec_lazyValue_eq (hfixed : AnswersAs fetcher answer) {b : LazyBinding} (scope : Scope)
    {w : Context × σ} (h : TruthfulBinding answer b) :
    (exec (lazyValue fetcher b scope) w).1 = w.1.glossary.fetched? answer scope b.template := by
  have htext : w.1.placeholderText? scope = w.1.glossary.placeholderText? scope := rfl
  rw [exec_lazyValue, Glossary.fetched?, ← htext]
  cases hexpand : b.template.expand (w.1.placeholderText? scope) with
  | none => rfl
  | some expanded =>
      obtain ⟨url, key⟩ := expanded
      have hkept := h.cache_eq key
      rw [h.single.filled? hexpand, Option.bind_some] at hkept
      simp only [Option.bind_some]
      cases hcache : b.cache.lookup key with
      | some value =>
          rw [hcache] at hkept
          split at hkept
          · exact hkept
          · cases hkept
      | none =>
          rw [hcache] at hkept
          dsimp only
          split
          · rename_i htried
            rwa [if_pos (by simpa using htried)] at hkept
          · exact congrArg decoded? (hfixed ⟨b.name, key, url⟩ w.2)

theorem yields_resolve (hfixed : AnswersAs fetcher answer) (scope : Scope) (path : String) :
    Yields answer g (resolve fetcher scope path) (g.resolve? answer scope path) := by
  rintro w ⟨htruthful, rfl⟩
  refine ⟨?_, Agrees.requests hfixed ⟨htruthful, rfl⟩ (byRequests_resolve scope path w)⟩
  have hknown (name : String) : w.1.glossary.known? scope name = w.1.known? scope name := rfl
  simp only [resolve, exec_bind, exec_get, Glossary.resolve?, hknown]
  cases w.1.known? scope (splitPath path).1 with
  | some value => rfl
  | none =>
      rw [lookup_templates]
      dsimp only
      cases hlazy : w.1.lazy? (splitPath path).1 with
      | none => rfl
      | some b =>
          have hb := htruthful.bindings b (mem_of_lazy? hlazy)
          simp only [Option.map_some, Option.bind_some, exec_bind, exec_pure]
          rw [exec_lazyValue_eq hfixed scope hb]

variable {transform : String → String}

mutual

theorem yields_evalNode (hfixed : AnswersAs fetcher answer) (scope : Scope) :
    (n : Node) → Yields answer g (evalNode fetcher transform scope n)
      (g.block answer transform scope n)
  | .prose id text => by
      rw [evalNode, Glossary.block]
      exact yields_pure _
  | .field path => by
      rw [evalNode, Glossary.block]
      exact (yields_resolve hfixed scope path).bind (yields_pure _)
  | .loop header body => by
      rw [evalNode, Glossary.block]
      exact (yields_resolve hfixed scope header.source).bind
        ((Yields.mapM (fun frame => yields_evalNodes hfixed (scope.child frame) body) _).bind
          (yields_pure _))

theorem yields_evalNodes (hfixed : AnswersAs fetcher answer) (scope : Scope) :
    (nodes : List Node) → Yields answer g (evalNodes fetcher transform scope nodes)
      (g.blocks answer transform scope nodes)
  | [] => by
      rw [evalNodes, Glossary.blocks]
      exact yields_pure _
  | n :: rest => by
      rw [evalNodes, Glossary.blocks]
      exact (yields_evalNode hfixed scope n).bind
        ((yields_evalNodes hfixed scope rest).bind (yields_pure _))

end

/-! ### Sessions -/

theorem Truthful.moves (hfixed : AnswersAs fetcher answer) {w w' : Context × σ}
    (h : Truthful answer w.1) (hmoves : Relation.ReflTransGen (Moves fetcher) w w') :
    Truthful answer w'.1 := by
  induction hmoves with
  | refl => exact h
  | tail _ hstep ih =>
      cases hstep with
      | asks hasks => exact (ih.asks hfixed hasks).1
      | inserts hinsert =>
          obtain ⟨-, rfl⟩ := insert_eq_ok hinsert
          exact ⟨ih.nodup, ih.bindings⟩

theorem ofDocument_templates {store : Store (StateM σ)} {doc : Document} {s s' : σ} {ctx : Context}
    (h : outcome (ofDocument store fetcher doc) s = (.ok ctx, s')) :
    ∀ a ∈ ctx.lazies, ∃ b ∈ doc.bindings, ∃ template, b.origin = .lazy template ∧
      a.template = .parse template := by
  refine ofDocument_induction store fetcher (P := fun ctx => ∀ a ∈ ctx.lazies, ∃ b ∈ doc.bindings,
    ∃ template, b.origin = .lazy template ∧ a.template = .parse template) (by simp [empty]) ?_ h
  intro ctx ctx' b s s' hb hbind ih
  obtain ⟨-, ⟨value, rfl⟩ | ⟨template, bytes, horigin, rfl⟩⟩ := bind_cases store fetcher hbind
  · exact ih
  · intro a ha
    rcases List.mem_append.1 ha with ha | ha
    · exact ih a ha
    · cases List.mem_singleton.1 ha
      exact ⟨b, hb, template, horigin, by simp [LazyBinding.new]⟩

/-- A context in which it does not show what lazy bindings have kept and tried. -/
structure Transparent (fetcher : Fetcher (StateM σ)) (answer : String → Except FetchFault ByteArray)
    (w : Context × σ) : Prop where
  /-- A path leads where it leads without a memory. -/
  resolve_eq : ∀ scope path,
    (exec (resolve fetcher scope path) w).1 = w.1.glossary.resolve? answer scope path
  /-- A body has the blocks that it has without a memory. -/
  evaluate_eq : ∀ transform nodes,
    (exec (evaluate fetcher transform nodes) w).1 = w.1.glossary.blocks answer transform .root nodes
  /-- A node has the block that it has by itself, whatever stands before it. -/
  independent : ∀ transform before n after, ∃ block,
    (exec (evaluate fetcher transform [n]) w).1 = [block] ∧
      (exec (evaluate fetcher transform (before ++ n :: after)) w).1[before.length]? = some block

theorem Truthful.transparent (hfixed : AnswersAs fetcher answer) {w : Context × σ}
    (h : Truthful answer w.1) : Transparent fetcher answer w := by
  have hagrees : Agrees answer w.1.glossary w.1 := ⟨h, rfl⟩
  have hblocks (transform : String → String) (nodes : List Node) :
      (exec (evaluate fetcher transform nodes) w).1
        = w.1.glossary.blocks answer transform .root nodes :=
    (yields_evalNodes hfixed .root nodes w hagrees).1
  refine ⟨fun scope path => (yields_resolve hfixed scope path w hagrees).1, hblocks, ?_⟩
  intro transform before n after
  refine ⟨w.1.glossary.block answer transform .root n, ?_, ?_⟩
  · rw [hblocks, Glossary.blocks_eq_map, List.map_singleton]
  · rw [hblocks, Glossary.blocks_eq_map, List.map_append, List.getElem?_append_right (by simp)]
    simp

/-- **Caching does not show** where the answer to a URL is fixed, no template has two placeholders, and
nothing was kept before: neither at the beginning of a session nor after any calls. -/
theorem caching_transparent (store : Store (StateM σ)) (hfixed : AnswersAs fetcher answer)
    {doc : Document} (hsingle : ∀ b ∈ doc.bindings, ∀ template, b.origin = .lazy template →
      (Template.parse template).Single)
    {s₀ s : σ} {ctx : Context} (hmade : outcome (ofDocument store fetcher doc) s₀ = (.ok ctx, s))
    (hunkept : ∀ b ∈ ctx.lazies, b.cache = []) (calls : List Call) :
    Transparent fetcher answer (exec (performAll fetcher calls) (ctx, s)).2 := by
  obtain ⟨hnodup, htried⟩ := ofDocument_lazies store fetcher hmade
  have htruthful : Truthful answer ctx := by
    refine ⟨hnodup, fun a ha => ⟨?_, fun key => ?_⟩⟩
    · obtain ⟨b, hb, template, horigin, htemplate⟩ := ofDocument_templates hmade a ha
      rw [htemplate]
      exact hsingle b hb template horigin
    · rw [htried a ha, hunkept a ha]
      rfl
  have hmoves := performAll_moves fetcher calls (ctx, s)
  exact Truthful.transparent hfixed (Truthful.moves hfixed (w := (ctx, s)) htruthful hmoves)

/-- A template with its one placeholder twice, called in loops over numbers that repeat and over a name
that is not answered. -/
theorem caching_transparent_stars :
    let b : Binding := ⟨"stars", "stars.json", .lazy "http://x/{r.id}?q={ r.id }", 1⟩
    let answer (url : String) : Except FetchFault ByteArray :=
      if url = "http://x/1?q=1" then .ok "2".toUTF8 else .error (.other url)
    let fetcher : Fetcher (StateM Desk) := Fetcher.answering answer
    let desk := Desk.prepared [] []
    let ctx : Context := ⟨[], [.new "stars" "stars.json" "http://x/{r.id}?q={ r.id }"]⟩
    let item (id : Json.Value) : Json.Value := .object [("id", id)]
    let calls : List Call := [.insert "repos" (.array [item (.number (.int 1)), item (.string "x"),
      item (.number (.int 1)), item .null]), .evaluate id [.loop ⟨["r"], "repos", []⟩ [.field "stars"]]]
    outcome (ofDocument MemoryStore.store fetcher ⟨[b], []⟩) desk = (.ok ctx, desk) ∧
      Transparent fetcher answer (exec (performAll fetcher calls) (ctx, desk)).2 := by
  intro b answer fetcher desk ctx item calls
  have hmade : outcome (ofDocument MemoryStore.store fetcher ⟨[b], []⟩) desk = (.ok ctx, desk) := by
    simp only [ofDocument, List.foldlM_cons, List.foldlM_nil, bind_pure]
    change outcome (addLazy MemoryStore.store empty b "http://x/{r.id}?q={ r.id }") desk = _
    rw [outcome_addLazy MemoryStore.store "http://x/{r.id}?q={ r.id }" rfl rfl rfl]
    rfl
  have hplaceholders : (Template.parse "http://x/{r.id}?q={ r.id }").placeholders
      = [⟨"r", some "id"⟩, ⟨"r", some "id"⟩] := by
    with_unfolding_all rfl
  have hsingle : (Template.parse "http://x/{r.id}?q={ r.id }").Single := by
    unfold Template.Single
    rw [hplaceholders]
    decide
  refine ⟨hmade, caching_transparent MemoryStore.store (fun _ _ => rfl) ?_ hmade ?_ calls⟩
  · intro a ha template horigin
    cases List.mem_singleton.1 ha
    cases horigin
    exact hsingle
  · intro a ha
    cases List.mem_singleton.1 ha
    rfl

end Context

end StaticPage
