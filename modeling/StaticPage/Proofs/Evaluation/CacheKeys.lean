import StaticPage.Proofs.Evaluation.Replays
import StaticPage.Proofs.Evaluation.Transparency

/-!
# The keys of lazy caches

An answer is kept under the text of the first placeholder. Where another placeholder follows, two URLs may
have one key, and what is kept is the answer to the URL that was asked first. `single_iff` says that this is
so for every template with two different placeholders and for no other. In a run, the value of a lookup is
thus the answer to a URL with its key, the one that was asked for: `exists_source`. With one placeholder it is
the URL of the lookup itself.
-/

namespace StaticPage

variable {σ : Type}

namespace Template

/-! ### Keys and URLs -/

/-- A text in one place only makes the URL longer once for each time that the placeholder is there. -/
theorem expandParts_lengths (p : Placeholder) (parts : List TemplatePart) :
    ∃ url longer, expandParts (fun _ => some "") parts = some url ∧
      expandParts (fun q => some (if q = p then "x" else "")) parts = some longer ∧
      longer.length = url.length + (holes parts).count p := by
  induction parts with
  | nil => exact ⟨"", "", rfl, rfl, rfl⟩
  | cons part rest ih =>
      obtain ⟨url, longer, hurl, hlonger, hlength⟩ := ih
      cases part with
      | literal text =>
          refine ⟨text ++ url, text ++ longer, by rw [expandParts, hurl]; rfl,
            by rw [expandParts, hlonger]; rfl, ?_⟩
          rw [holes_literal, String.length_append, String.length_append]
          omega
      | hole q =>
          refine ⟨"" ++ url, (if q = p then "x" else "") ++ longer, by rw [expandParts, hurl]; rfl,
            by rw [expandParts, hlonger]; rfl, ?_⟩
          rw [holes_hole, String.length_append, String.length_append, List.count_cons, hlength]
          have hx : "x".length = 1 := rfl
          by_cases hq : q = p
          · simp only [hq, if_true, beq_self_eq_true, hx, String.length_empty]
            omega
          · simp only [hq, if_false, beq_iff_eq, String.length_empty]
            omega

/-- The key tells URLs apart if and only if there is but one placeholder. -/
theorem single_iff (t : Template) : t.Single ↔
    ∀ (resolve resolve' : Placeholder → Option String) (url url' key key' : String),
      t.expand resolve = some (url, key) → t.expand resolve' = some (url', key') → url ≠ url' → key ≠ key' := by
  refine ⟨fun hsingle resolve resolve' url url' key key' h h' hne hkey => ?_, fun hkeys => ?_⟩
  · apply hne
    apply Option.some.inj
    rw [← hsingle.filled? h, ← hsingle.filled? h', hkey]
  · by_contra hsingle
    obtain ⟨first, others, hlist⟩ : ∃ first others, t.placeholders = first :: others := by
      refine List.exists_cons_of_ne_nil fun hnil => hsingle fun p hp => ?_
      rw [hnil] at hp
      cases hp
    -- the key is that of the first placeholder, so that another one can change the URL behind it
    obtain ⟨p, hp, hne⟩ : ∃ p ∈ t.placeholders, p ≠ first := by
      by_contra hall
      push Not at hall
      exact hsingle fun p hp q hq => (hall p hp).trans (hall q hq).symm
    obtain ⟨url, longer, hurl, hlonger, hlength⟩ := expandParts_lengths p t.parts
    have hcount : 0 < (holes t.parts).count p := List.count_pos_iff.2 hp
    have hfirst : t.placeholders.head? = some first := by rw [hlist, List.head?_cons]
    refine hkeys (fun _ => some "") (fun q => some (if q = p then "x" else "")) url longer "" "" ?_ ?_ ?_ rfl
    · rw [expand, hurl, hfirst]
      rfl
    · rw [expand, hlonger, hfirst, Option.map_some, Option.bind_some, if_neg hne.symm, Option.getD_some]
    · rintro rfl
      omega

end Template

namespace Context

variable [MonadWarn (StateM σ)] {store : Store (StateM σ)} {fetcher : Fetcher (StateM σ)}

/-! ### What the requests ask for -/

/-- Each exchange was about an expansion of the template of its binding. -/
def Spelled (w : Context × Logged σ) : Prop :=
  ∀ e ∈ w.2.exchanges, ∀ b, w.1.lazy? e.request.binding = some b →
    ∃ resolve, b.template.expand resolve = some (e.request.url, e.key)

theorem Spelled.asks {w w' : Context × Logged σ} (h : Spelled w) (hasks : Asks fetcher.logged w w') :
    Spelled w' := by
  cases hasks with
  | @ask ctx s b scope url key hlazy hexpand hcache htried =>
      intro e he a ha
      rw [lazy?_update, Option.map_eq_some_iff] at ha
      obtain ⟨before, hbefore, rfl⟩ := ha
      have htemplate : (if before.name == (b.learn key (request fetcher.logged ⟨b.name, key, url⟩ s).1).name
          then b.learn key (request fetcher.logged ⟨b.name, key, url⟩ s).1 else before).template
            = before.template := by
        split
        · rename_i hname
          rw [LazyBinding.learn_name, beq_iff_eq, lazy?_name hbefore] at hname
          rw [hname, hlazy] at hbefore
          rw [LazyBinding.learn_template, Option.some.inj hbefore]
        · rfl
      rw [htemplate]
      rw [exchanges_request, List.mem_append, List.mem_singleton] at he
      rcases he with he | rfl
      · exact h e he before hbefore
      · dsimp only at hbefore
        rw [hlazy] at hbefore
        cases hbefore
        exact ⟨_, hexpand⟩

theorem Spelled.moves {w w' : Context × Logged σ} (h : Spelled w)
    (hmoves : Relation.ReflTransGen (Moves fetcher.logged) w w') : Spelled w' := by
  induction hmoves with
  | refl => exact h
  | tail _ hstep ih =>
      cases hstep with
      | asks hasks => exact ih.asks hasks
      | inserts hinsert =>
          obtain ⟨-, rfl⟩ := insert_eq_ok hinsert
          exact ih

/-- In a balanced cache that was empty, a value is what the one exchange about its key brought. -/
theorem Balanced.exchange {log : List Exchange} {loaded now : LazyBinding} (h : Balanced log loaded now)
    (hempty : loaded.cache = []) {key : String} {value : Json.Value}
    (hcache : now.cache.lookup key = some value) :
    ∃ e, (exchangesFor now.name log).filter (·.key == key) = [e] ∧ decoded? e.answer = some value := by
  obtain ⟨before, after, hsplit, -⟩ := List.lookup_eq_some_iff.1 hcache
  have hmem : (key, value) ∈ now.cache := by
    rw [hsplit]
    exact List.mem_append_right _ List.mem_cons_self
  have hnew : key ∉ Dictionary.keys loaded.cache := by simp [hempty]
  obtain ⟨e, bytes, hfilter, hanswer, hparse⟩ := h.account.answered key value hmem hnew
  exact ⟨e, hfilter, decoded?_eq_some.2 ⟨bytes, hanswer, hparse⟩⟩

omit [MonadWarn (StateM σ)] in
/-- What is kept under a key is what the one exchange about it brought, and that was about an expansion of the
template with this key. -/
theorem exists_exchange {loaded : List LazyBinding} {w : Context × Logged σ} (h : Reconciled loaded w)
    (hempty : ∀ b ∈ loaded, b.cache = []) (hspelled : Spelled w) {name key : String} {b : LazyBinding}
    {value : Json.Value} (hlazy : w.1.lazy? name = some b) (hcache : b.cache.lookup key = some value) :
    ∃ e, (exchangesFor name w.2.exchanges).filter (·.key == key) = [e] ∧ decoded? e.answer = some value ∧
      ∃ resolve, b.template.expand resolve = some (e.request.url, key) := by
  obtain ⟨before, hbefore, hbalanced⟩ := exists_of_forall₂ h.balanced (mem_of_lazy? hlazy)
  obtain ⟨e, honly, hanswered⟩ := hbalanced.exchange (hempty before hbefore) hcache
  rw [lazy?_name hlazy] at honly
  have hmem : e ∈ (exchangesFor name w.2.exchanges).filter (·.key == key) := by
    rw [honly]
    exact List.mem_singleton_self e
  obtain ⟨hfor, hkey⟩ := List.mem_filter.1 hmem
  obtain ⟨hlog, hbinding⟩ := List.mem_filter.1 hfor
  obtain ⟨resolve, hresolve⟩ := hspelled e hlog b (by rw [beq_iff_eq.1 hbinding, hlazy])
  rw [beq_iff_eq.1 hkey] at hresolve
  exact ⟨e, honly, hanswered, resolve, hresolve⟩

/-- What a log says about the value of a lookup, which expands to a URL and a key. -/
structure Source (log : List Exchange) (b : LazyBinding) (url key : String) (value : Json.Value)
    (e : Exchange) : Prop where
  /-- It is the one exchange of the binding about the key. -/
  only : (exchangesFor b.name log).filter (·.key == key) = [e]
  /-- Its answer has the value. -/
  answered : decoded? e.answer = some value
  /-- It was about an expansion of the template with this key. -/
  expansion : ∃ resolve, b.template.expand resolve = some (e.request.url, key)
  /-- With one placeholder, it was about the URL. -/
  same : b.template.Single → e.request.url = url

/-- The value of a lookup is the answer to a URL that has its key. -/
theorem exists_source {loaded : List LazyBinding} {w : Context × Logged σ} (h : Reconciled loaded w)
    (hempty : ∀ b ∈ loaded, b.cache = []) (hspelled : Spelled w) {b : LazyBinding}
    (hlazy : w.1.lazy? b.name = some b) {scope : Scope} {value : Json.Value}
    (hvalue : (exec (lazyValue fetcher.logged b scope) w).1 = some value) :
    ∃ url key e, b.template.expand (w.1.placeholderText? scope) = some (url, key) ∧
      Source (exec (lazyValue fetcher.logged b scope) w).2.2.exchanges b url key value e := by
  cases hexpand : b.template.expand (w.1.placeholderText? scope) with
  | none =>
      rw [exec_lazyValue, hexpand] at hvalue
      cases hvalue
  | some expanded =>
      obtain ⟨url, key⟩ := expanded
      have hasks : Relation.ReflTransGen (Asks fetcher.logged) w (exec (lazyValue fetcher.logged b scope) w).2 :=
        byRequests_lazyValue scope hlazy
      have hmoves := Relation.ReflTransGen.mono (fun _ _ => Moves.asks) _ _ hasks
      -- after the lookup, its value is kept under the key
      have hend : Relation.ReflTransGen (Asks fetcher.logged) (exec (lazyValue fetcher.logged b scope) w).2
        (exec (lazyValue fetcher.logged b scope) w).2 := .refl
      obtain ⟨b', hlazy', htemplate, hsettled⟩ := settled_lazyValue hlazy hexpand hend
      obtain ⟨e, honly, hanswered, resolve, hresolve⟩ := exists_exchange (h.moves hmoves) hempty
        (hspelled.moves hmoves) hlazy' (hsettled.cache_eq.trans hvalue)
      rw [htemplate] at hresolve
      refine ⟨url, key, e, rfl, honly, hanswered, ⟨resolve, hresolve⟩, fun hsingle => ?_⟩
      exact Option.some.inj ((hsingle.filled? hresolve).symm.trans (hsingle.filled? hexpand))

/-- **The lazy cache key tells the URLs of a template apart exactly if it has one placeholder.** In a run from
empty caches, the value of a lookup is the answer to the one request about its key, whose URL is an
expansion of the template with this key, and with one placeholder is the URL of the lookup. -/
theorem lazy_values_by_key (store : Store (StateM σ)) (fetcher : Fetcher (StateM σ)) (doc : Document)
    {world : σ} {ctx : Context} {s : Logged σ}
    (hmade : outcome (ofDocument store.logged fetcher.logged doc) ⟨world, []⟩ = (.ok ctx, s))
    (hempty : ∀ b ∈ ctx.lazies, b.cache = []) :
    (∀ t : Template, t.Single ↔
      ∀ (resolve resolve' : Placeholder → Option String) (url url' key key' : String),
        t.expand resolve = some (url, key) → t.expand resolve' = some (url', key') → url ≠ url' →
          key ≠ key') ∧
    ∀ now, Relation.ReflTransGen (Moves fetcher.logged) (ctx, s) now → ∀ b scope value,
      now.1.lazy? b.name = some b → (exec (lazyValue fetcher.logged b scope) now).1 = some value →
        ∃ url key e, b.template.expand (now.1.placeholderText? scope) = some (url, key) ∧
          Source (exec (lazyValue fetcher.logged b scope) now).2.2.exchanges b url key value e := by
  refine ⟨Template.single_iff, fun now hmoves b scope value hlazy hvalue => ?_⟩
  have hreconciled := reconciled_ofDocument hmade
  have hspelled : Spelled (ctx, s) := by
    have hlog : s.exchanges = [] := by
      have := quiet_ofDocument store fetcher doc ⟨world, []⟩
      rwa [hmade] at this
    intro e he
    rw [hlog] at he
    cases he
  exact exists_source (hreconciled.moves hmoves) hempty (hspelled.moves hmoves) hlazy hvalue

/-! ### Two URLs with one key -/

def pagesTemplate : Template where
  raw := "http://x/{owner}/{name}"
  parts := [.literal "http://x/", .hole ⟨"owner", none⟩, .literal "/", .hole ⟨"name", none⟩]

theorem parse_pagesTemplate : Template.parse "http://x/{owner}/{name}" = pagesTemplate := by
  with_unfolding_all rfl

/-- The pages of an owner as they are known before a lookup. -/
def unaskedPages : Context := ⟨[], [⟨"page", "page.json", pagesTemplate, [], []⟩]⟩

def askedPages (value : Json.Value) : Context :=
  ⟨[], [⟨"page", "page.json", pagesTemplate, [("a", value)], ["a"]⟩]⟩

def page (name : String) : Scope := ⟨[("owner", .string "a"), ("name", .string name)], []⟩

def pagesFetcher : Fetcher (StateM Desk) :=
  Fetcher.answering fun url => .ok (if url = "http://x/a/b" then "1" else "2").toUTF8

theorem expand_page (ctx : Context) (name : String) :
    pagesTemplate.expand (ctx.placeholderText? (page name)) = some ("http://x/a/" ++ (name ++ ""), "a") := rfl

theorem splitPath_page : splitPath "page" = ("page", none) := by
  with_unfolding_all rfl

theorem exec_resolve_unasked {f : Fetcher (StateM σ)} {name : String} {value : Json.Value} {s s' : σ}
    (text : String)
    (hanswer : request f ⟨"page", "a", "http://x/a/" ++ (name ++ "")⟩ s = (.ok text.toUTF8, s'))
    (hparse : Json.parse text.toUTF8 = .ok value) :
    exec (resolve f (page name) "page") (unaskedPages, s) = (value.present?, askedPages value, s') := by
  have hknown : unaskedPages.known? (page name) "page" = none := rfl
  have hlazy : unaskedPages.lazy? "page" = some ⟨"page", "page.json", pagesTemplate, [], []⟩ := rfl
  simp only [resolve, exec_bind, exec_get, splitPath_page, hknown, hlazy, exec_pure]
  rw [exec_lazyValue, expand_page]
  simp only [List.lookup_nil, List.contains_nil, hanswer]
  rw [if_neg (by decide), LazyBinding.learn, decoded?_eq_some.2 ⟨_, rfl, hparse⟩]
  rfl

theorem exec_resolve_asked (f : Fetcher (StateM σ)) (name : String) (value : Json.Value) (s : σ) :
    exec (resolve f (page name) "page") (askedPages value, s) = (value.present?, askedPages value, s) := by
  have hknown : (askedPages value).known? (page name) "page" = none := rfl
  have hlazy : (askedPages value).lazy? "page"
      = some ⟨"page", "page.json", pagesTemplate, [("a", value)], ["a"]⟩ := rfl
  simp only [resolve, exec_bind, exec_get, splitPath_page, hknown, hlazy, exec_pure]
  rw [exec_lazyValue, expand_page]
  rfl

theorem parse_one : Json.parse "1".toUTF8 = .ok (.number (.int 1)) := by
  with_unfolding_all rfl

theorem parse_two : Json.parse "2".toUTF8 = .ok (.number (.int 2)) := by
  with_unfolding_all rfl

/-- A page is looked up after another one. -/
theorem lazy_values_by_key_pages :
    let f := pagesFetcher.logged
    let start : Context × Logged Desk := (unaskedPages, ⟨.prepared [] [], []⟩)
    let now := (exec (resolve f (page "b") "page") start).2
    ∃ b url key e, b.template.expand (now.1.placeholderText? (page "c")) = some (url, key) ∧
      Source (exec (lazyValue f b (page "c")) now).2.2.exchanges b url key (.number (.int 1)) e := by
  intro f start now
  let pages : Binding := ⟨"page", "page.json", .lazy "http://x/{owner}/{name}", 1⟩
  have hmade : outcome (ofDocument (Store.logged (MemoryStore.store (m := StateM Desk))) f ⟨[pages], []⟩)
      ⟨.prepared [] [], []⟩ = (.ok unaskedPages, ⟨.prepared [] [], []⟩) := by
    simp only [ofDocument, List.foldlM_cons, List.foldlM_nil, bind_pure]
    change outcome (addLazy (Store.logged MemoryStore.store) empty pages "http://x/{owner}/{name}") _ = _
    rw [outcome_addLazy (Store.logged MemoryStore.store) "http://x/{owner}/{name}" rfl rfl rfl,
      LazyBinding.new, parse_pagesTemplate]
    rfl
  have hempty : ∀ b ∈ unaskedPages.lazies, b.cache = [] := by
    intro b hb
    cases List.mem_singleton.1 hb
    rfl
  have hnow : now.1 = askedPages (.number (.int 1)) := by
    change (exec (resolve f (page "b") "page") start).2.1 = _
    rw [exec_resolve_unasked "1" rfl parse_one]
  let b : LazyBinding := ⟨"page", "page.json", pagesTemplate, [("a", .number (.int 1))], ["a"]⟩
  have hlazy : now.1.lazy? b.name = some b := by
    rw [hnow]
    rfl
  have hvalue : (exec (lazyValue f b (page "c")) now).1 = some (.number (.int 1)) := by
    rw [exec_lazyValue, expand_page]
    rfl
  have hmoves : Relation.ReflTransGen (Moves f) start now := (byRequests_resolve (page "b") "page").moves start
  exact ⟨b, (lazy_values_by_key MemoryStore.store pagesFetcher ⟨[pages], []⟩ hmade hempty).2 now hmoves b
    (page "c") _ hlazy hvalue⟩

/-- The URLs of two pages of one owner have one key. Whichever is looked up first from an empty cache, the other
one is answered with its value. -/
theorem lazy_value_of_other_page :
    let t := Template.parse "http://x/{owner}/{name}"
    let start : Context × Desk := (unaskedPages, .prepared [] [])
    let first := exec (resolve pagesFetcher (page "b") "page") start
    let second := exec (resolve pagesFetcher (page "c") "page") start
    t.expand (start.1.placeholderText? (page "b")) = some ("http://x/a/b", "a") ∧
      t.expand (start.1.placeholderText? (page "c")) = some ("http://x/a/c", "a") ∧
      first.1 = some (.number (.int 1)) ∧ second.1 = some (.number (.int 2)) ∧
      exec (resolve pagesFetcher (page "c") "page") first.2 = (some (.number (.int 1)), first.2) := by
  intro t start first second
  have hfirst : first = (some (.number (.int 1)), askedPages (.number (.int 1)), .prepared [] []) :=
    exec_resolve_unasked "1" rfl parse_one
  have hsecond : second = (some (.number (.int 2)), askedPages (.number (.int 2)), .prepared [] []) :=
    exec_resolve_unasked "2" rfl parse_two
  refine ⟨?_, ?_, ?_, ?_, ?_⟩
  · rw [show t = pagesTemplate from parse_pagesTemplate]
    rfl
  · rw [show t = pagesTemplate from parse_pagesTemplate]
    rfl
  · rw [hfirst]
  · rw [hsecond]
  · rw [hfirst]
    exact exec_resolve_asked pagesFetcher "c" (.number (.int 1)) (.prepared [] [])

end Context

end StaticPage
