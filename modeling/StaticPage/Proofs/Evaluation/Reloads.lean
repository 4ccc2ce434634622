import StaticPage.Proofs.Evaluation.Caches

/-!
# Caches that can be taken up again

Keeping a cache wraps its values in one more object, and what reads them back follows a fixed number of
levels. A value may come in an answer nested as deep as that, and then be one level too deep in the cache:
the whole cache is lost. This is the only way in which a cache of integers is not taken up as it was kept.
-/

namespace StaticPage

variable {σ : Type}

namespace LazyBinding

/-- What is taken up has left a level for the object around it. -/
theorem shallow_withPersisted {b : LazyBinding} (hb : b.cache = []) (bytes : Option ByteArray) :
    ∀ e ∈ (b.withPersisted bytes).1.cache, Json.Shallow 126 e.2 := by
  have hnone : ∀ e ∈ b.cache, Json.Shallow 126 e.2 := by
    rw [hb]
    exact fun e he => absurd he List.not_mem_nil
  unfold withPersisted
  split
  · exact hnone
  · split
    · rename_i hparse
      cases Json.constructive_shallow.parse hparse with
      | object hentries => exact hentries
    · exact hnone
    · exact hnone

/-- A cache of integers is taken up as it was kept exactly if its values leave a level for the object that
they are kept in. -/
theorem withPersisted_cache_iff {a b : LazyBinding} (ha : a.Lawful)
    (hintegral : ∀ e ∈ a.cache, Json.Integral e.2) (hb : b.cache = []) :
    (b.withPersisted (some a.persisted)).1.cache = a.cache ↔ ∀ e ∈ a.cache, Json.Tame 126 e.2 := by
  refine ⟨fun h e he => ?_, fun htame => by rw [withPersisted_persisted b ha htame]⟩
  obtain ⟨depth, htame⟩ := hintegral e he
  exact Json.tame_of_shallow htame (shallow_withPersisted hb _ e (h ▸ he))

end LazyBinding

namespace Context

variable [MonadWarn (StateM σ)] {fetcher : Fetcher (StateM σ)}

theorem Lawful.moves {w w' : Context × σ} (h : Relation.ReflTransGen (Moves fetcher) w w')
    (hw : w.1.Lawful) : w'.1.Lawful := by
  induction h with
  | refl => exact hw
  | tail _ hstep ih =>
      cases hstep with
      | asks hasks => exact (hasks.lawful ih).1
      | inserts hinsert =>
          obtain ⟨-, rfl⟩ := insert_eq_ok hinsert
          exact ⟨ih.nodup, ih.lawful⟩

/-! ### A session of one look-up -/

theorem perform_resolve_asks {ctx : Context} {s s' : σ} {b : LazyBinding} {scope : Scope}
    {path url key : String} {bytes : ByteArray} {value : Json.Value}
    (hpath : splitPath path = (b.name, none)) (hknown : ctx.known? scope b.name = none)
    (hlazy : ctx.lazy? b.name = some b)
    (hexpand : b.template.expand (ctx.placeholderText? scope) = some (url, key))
    (hcache : b.cache.lookup key = none) (htried : b.attempted.contains key = false)
    (hanswer : request fetcher ⟨b.name, key, url⟩ s = (.ok bytes, s')) (hparse : Json.parse bytes = .ok value) :
    (exec ((Call.resolve scope path).perform fetcher) (ctx, s)).2
      = (ctx.update ((b.attempt key).keep key value), s') := by
  have hlearn : b.learn key (.ok bytes) = (b.attempt key).keep key value := by
    rw [LazyBinding.learn, decoded?_eq_some.2 ⟨bytes, rfl, hparse⟩]
  rw [perform_resolve_lazy hpath hknown hlazy hexpand, hcache, htried, hanswer, hlearn]
  exact if_neg (by simp)

def unasked : Context := ⟨[], [languagesOf [] []]⟩

theorem ofDocument_languages (answers : List (String × String)) :
    outcome (ofDocument MemoryStore.store CannedAnswers.fetcher ⟨[languages], []⟩)
      (Desk.prepared [] answers) = (.ok unasked, Desk.prepared [] answers) := by
  simp only [ofDocument, List.foldlM_cons, List.foldlM_nil, bind_pure]
  change outcome (addLazy MemoryStore.store empty languages "http://x/{repo}") _ = _
  rw [outcome_addLazy MemoryStore.store "http://x/{repo}" rfl rfl rfl]
  rfl

theorem asked_languages {answer : String} {value : Json.Value}
    (hparse : Json.parse answer.toUTF8 = .ok value) :
    (exec (performAll CannedAnswers.fetcher [lookUp "site"])
        (unasked, Desk.prepared [] [("http://x/site", answer)])).2.1.lazies
      = [languagesOf [("site", value)] ["site"]] := by
  have hrequest : (request CannedAnswers.fetcher ⟨"langs", "site", "http://x/" ++ "site"⟩
      (Desk.prepared [] [("http://x/site", answer)])).1 = .ok answer.toUTF8 :=
    rfl
  rw [performAll_cons, unasked, perform_lookUp, if_neg (by decide), hrequest, LazyBinding.learn,
    decoded?_eq_some.2 ⟨_, rfl, hparse⟩]
  rfl

/-! ### Sessions -/

/-- **A lazy cache of integers is taken up again** by a binding of the same name and target exactly if no
value in it nests more than 126 levels, whatever the store and the fetcher, and whatever calls there have
been. -/
theorem reloaded_cache_iff (store : Store (StateM σ)) (fetcher : Fetcher (StateM σ)) {doc : Document}
    {s₀ s : σ} {ctx : Context} (hmade : outcome (ofDocument store fetcher doc) s₀ = (.ok ctx, s))
    (calls : List Call) {b : LazyBinding}
    (hb : b ∈ (exec (performAll fetcher calls) (ctx, s)).2.1.lazies)
    (hintegral : ∀ e ∈ b.cache, Json.Integral e.2) (template : String) :
    ((LazyBinding.new b.name b.target template).withPersisted (some b.persisted)).1.cache = b.cache ↔
      ∀ e ∈ b.cache, Json.Tame 126 e.2 := by
  have hlawful : (exec (performAll fetcher calls) (ctx, s)).2.1.Lawful :=
    (lawful_ofDocument hmade).moves (performAll_moves fetcher calls (ctx, s))
  exact LazyBinding.withPersisted_cache_iff (hlawful.lawful hb) hintegral rfl

/-- The languages of one repository are looked up, and kept. -/
theorem reloaded_cache_iff_languages :
    let answer := "\x7b\"Rust\":100\x7d"
    let desk := Desk.prepared [] [("http://x/site", answer)]
    let b := languagesOf [("site", .object [("Rust", .number (.int 100))])] ["site"]
    outcome (ofDocument MemoryStore.store CannedAnswers.fetcher ⟨[languages], []⟩) desk
        = (.ok unasked, desk) ∧
      b ∈ (exec (performAll CannedAnswers.fetcher [lookUp "site"]) (unasked, desk)).2.1.lazies ∧
      (∀ e ∈ b.cache, Json.Integral e.2) ∧
      (((LazyBinding.new "langs" "langs.json" "http://x/{repo}").withPersisted (some b.persisted)).1.cache
        = b.cache ↔ ∀ e ∈ b.cache, Json.Tame 126 e.2) := by
  intro answer desk b
  have hmade := ofDocument_languages [("http://x/site", answer)]
  have hparse : Json.parse answer.toUTF8 = .ok (.object [("Rust", .number (.int 100))]) := by
    with_unfolding_all rfl
  have hb : b ∈ (exec (performAll CannedAnswers.fetcher [lookUp "site"]) (unasked, desk)).2.1.lazies := by
    rw [asked_languages hparse]
    exact List.mem_singleton_self b
  have hintegral : ∀ e ∈ b.cache, Json.Integral e.2 := by
    intro e he
    cases List.mem_singleton.1 he
    refine ⟨1, .object fun e he => ?_⟩
    cases List.mem_singleton.1 he
    exact .number (by decide) (by decide)
  exact ⟨hmade, hb, hintegral, reloaded_cache_iff MemoryStore.store CannedAnswers.fetcher hmade
    [lookUp "site"] hb hintegral "http://x/{repo}"⟩

/-- Empty lists inside each other, one more than `depth`. -/
def brackets : (depth : Nat) → Json.Value
  | 0 => .array []
  | depth + 1 => .array [brackets depth]

theorem tame_brackets (depth : Nat) : Json.Tame (depth + 1) (brackets depth) := by
  induction depth with
  | zero => exact .array fun v hv => absurd hv List.not_mem_nil
  | succ depth ih => exact .array fun v hv => List.mem_singleton.1 hv ▸ ih

theorem distinct_brackets (depth : Nat) : Json.Distinct (brackets depth) := by
  induction depth with
  | zero => exact .array fun v hv => absurd hv List.not_mem_nil
  | succ depth ih => exact .array fun v hv => List.mem_singleton.1 hv ▸ ih

theorem lt_of_tame_brackets {depth level : Nat} (h : Json.Tame level (brackets depth)) : depth < level := by
  induction depth generalizing level with
  | zero =>
      cases h
      exact Nat.succ_pos _
  | succ depth ih =>
      cases h with
      | array hitems => exact Nat.succ_lt_succ (ih (hitems _ (List.mem_singleton_self _)))

/-- An answer of 127 lists inside each other is read, and its cache is not taken up again. -/
theorem reload_loses_brackets :
    let desk := Desk.prepared [] [("http://x/site", (brackets 126).indented)]
    let b := languagesOf [("site", brackets 126)] ["site"]
    outcome (ofDocument MemoryStore.store CannedAnswers.fetcher ⟨[languages], []⟩) desk
        = (.ok unasked, desk) ∧
      (exec (performAll CannedAnswers.fetcher [lookUp "site"]) (unasked, desk)).2.1.lazies = [b] ∧
      (∀ e ∈ b.cache, Json.Integral e.2) ∧
      ((LazyBinding.new "langs" "langs.json" "http://x/{repo}").withPersisted (some b.persisted)).1.cache
        ≠ b.cache := by
  intro desk b
  have hmade := ofDocument_languages [("http://x/site", (brackets 126).indented)]
  have hparse : Json.parse (brackets 126).indented.toUTF8 = .ok (brackets 126) :=
    Json.parse_indented (Json.fits_of_tame (tame_brackets 126) (distinct_brackets 126))
  have hlazies := asked_languages hparse
  have hlawful : b.Lawful := by
    refine .object (List.nodup_singleton _) fun e he => ?_
    cases List.mem_singleton.1 he
    exact distinct_brackets 126
  have hintegral : ∀ e ∈ b.cache, Json.Integral e.2 := by
    intro e he
    cases List.mem_singleton.1 he
    exact ⟨127, tame_brackets 126⟩
  refine ⟨hmade, hlazies, hintegral, fun hcache => ?_⟩
  have htame := (LazyBinding.withPersisted_cache_iff hlawful hintegral rfl).1 hcache
  exact absurd (lt_of_tame_brackets (htame _ (List.mem_singleton_self _))) (Nat.lt_irrefl 126)

end Context

end StaticPage
