import StaticPage.Document.Parser
import StaticPage.Proofs.Evaluation.Reloads
import StaticPage.Proofs.Storage.Keeping

/-!
# What persisting keeps

The caches of a context are kept one after the other, each at the place that the target of its binding leads
to. In the end there is at every place what the last of the bindings has kept there, `holds_last`. So a cache
is lost only where the target of a later binding leads to the same place: the names of bindings are unique,
their targets need not be.
-/

namespace StaticPage

variable {σ κ : Type} [DecidableEq κ] {store : Store (StateM σ)} {place : σ → String → κ} {p : κ}
  {s s' : σ} {values : List (String × Json.Value)} {lazies : List LazyBinding} {a b : LazyBinding}

namespace Context

/-- The last of some lazy bindings whose target leads to a place. -/
def lastAt? (place : String → κ) (p : κ) (lazies : List LazyBinding) : Option LazyBinding :=
  lazies.reverse.find? fun a => place a.target = p

theorem lastAt?_cons (place : String → κ) (p : κ) (b : LazyBinding) (rest : List LazyBinding) :
    lastAt? place p (b :: rest)
      = (lastAt? place p rest).or (if place b.target = p then some b else none) := by
  simp [lastAt?, List.find?_singleton]

theorem of_lastAt? {place : String → κ} (h : lastAt? place p lazies = some a) :
    a ∈ lazies ∧ place a.target = p :=
  ⟨List.mem_reverse.1 (List.mem_of_find?_eq_some h), by simpa using List.find?_some h⟩

/-! ### One cache after the other -/

omit [DecidableEq κ] in
theorem persist_cons (h : outcome (persist store ⟨values, b :: lazies⟩) s = (.ok (), s')) :
    ∃ s₁, after (store.save b.target b.persisted) s = (.ok (), s₁) ∧
      outcome (persist store ⟨values, lazies⟩) s₁ = (.ok (), s') := by
  change outcome (_ >>= fun _ => persist store ⟨values, lazies⟩) s = _ at h
  obtain ⟨⟨⟩, s₁, hsave, hrest⟩ := outcome_bind_eq_ok h
  obtain ⟨r, s₂, hwrite, hsave⟩ := outcome_bind_eq_ok hsave
  cases r with
  | error fault => cases hsave
  | ok saved =>
      cases hsave
      exact ⟨s₁, outcome_lift_eq_ok.1 hwrite, hrest⟩

/-- Under a target there is in the end what the last binding at its place has kept, or what was kept there
before. -/
theorem holds_after_persist (hstore : store.KeepsAt place)
    (h : outcome (persist store ⟨values, lazies⟩) s = (.ok (), s')) {target : String} {old : ByteArray}
    (hold : store.Holds s target old) :
    store.Holds s' target ((lastAt? (place s) (place s target) lazies).elim old (·.persisted)) := by
  induction lazies generalizing s old with
  | nil =>
      cases h
      exact hold
  | cons b rest ih =>
      obtain ⟨s₁, hsave, hrest⟩ := persist_cons h
      have hnext : store.Holds s₁ target (if place s b.target = place s target then b.persisted else old) := by
        split
        · rename_i hplace
          exact hstore.replaces hsave hold hplace.symm
        · rename_i hplace
          exact hstore.keeps hsave hold fun heq => hplace heq.symm
      have hkept := ih hrest hnext
      rw [hstore.stays hsave] at hkept
      rw [lastAt?_cons]
      cases hlast : lastAt? (place s) (place s target) rest with
      | some a =>
          rw [hlast] at hkept
          exact hkept
      | none =>
          rw [hlast] at hkept
          split at hkept
          · rename_i hplace
            rwa [if_pos hplace]
          · rename_i hplace
            rwa [if_neg hplace]

theorem holds_last (hstore : store.KeepsAt place)
    (h : outcome (persist store ⟨values, lazies⟩) s = (.ok (), s')) (hb : b ∈ lazies) :
    ∃ a, lastAt? (place s) (place s b.target) lazies = some a ∧ store.Holds s' b.target a.persisted := by
  induction lazies generalizing s with
  | nil => cases hb
  | cons c rest ih =>
      obtain ⟨s₁, hsave, hrest⟩ := persist_cons h
      have hplace : place s₁ = place s := hstore.stays hsave
      rw [lastAt?_cons]
      rcases List.mem_cons.1 hb with rfl | hb
      · have hkept := holds_after_persist hstore hrest (hstore.holds hsave)
        rw [hplace] at hkept
        cases hlast : lastAt? (place s) (place s b.target) rest with
        | some a =>
            rw [hlast] at hkept
            exact ⟨a, rfl, hkept⟩
        | none =>
            rw [hlast] at hkept
            exact ⟨b, if_pos rfl, hkept⟩
      · obtain ⟨a, hlast, hkept⟩ := ih hrest hb
        rw [hplace] at hlast
        rw [hlast]
        exact ⟨a, rfl, hkept⟩

end Context

/-! ### Sessions -/

/-- A new binding of the same name and target takes a cache up from some bytes, without a warning. -/
def LazyBinding.TakesUp (b : LazyBinding) (bytes : ByteArray) (cache : List (String × Json.Value)) : Prop :=
  ∀ template : String, (LazyBinding.new b.name b.target template).withPersisted (some bytes)
    = ({ LazyBinding.new b.name b.target template with cache }, none)

theorem LazyBinding.TakesUp.parse_eq {bytes : ByteArray} {cache : List (String × Json.Value)}
    (h : b.TakesUp bytes cache) : Json.parse bytes = .ok (.object cache) := by
  have htaken := h ""
  unfold withPersisted at htaken
  dsimp only at htaken
  split at htaken
  · rename_i entries hparse
    cases htaken
    exact hparse
  · cases htaken
  · cases htaken

namespace Context

/-- What persisting has kept of the lazy bindings of a document. -/
structure Kept (store : Store (StateM σ)) (place : String → κ) (doc : Document) (ctx : Context) (s : σ) :
    Prop where
  /-- The lazy bindings of the document are those whose caches are kept. -/
  declared : ctx.lazies.map LazyBinding.identity = doc.bindings.filterMap Binding.lazyIdentity?
  /-- Under the target of each there is the cache of the last one at its place. -/
  last {b : LazyBinding} (hb : b ∈ ctx.lazies) : ∃ a bytes,
    lastAt? place (place b.target) ctx.lazies = some a ∧ store.Holds s b.target bytes ∧
      b.TakesUp bytes a.cache
  /-- Nothing is lost exactly if bindings at one place have the same cache. -/
  whole : (∀ b ∈ ctx.lazies, ∃ bytes, store.Holds s b.target bytes ∧ b.TakesUp bytes b.cache) ↔
    ∀ a ∈ ctx.lazies, ∀ b ∈ ctx.lazies, place a.target = place b.target → a.cache = b.cache

variable [MonadWarn (StateM σ)] {fetcher : Fetcher (StateM σ)}

omit [DecidableEq κ] in
theorem identity_of_moves {w w' : Context × σ} (h : Relation.ReflTransGen (Moves fetcher) w w')
    (hw : w.1.Lawful) : w'.1.lazies.map LazyBinding.identity = w.1.lazies.map LazyBinding.identity := by
  induction h with
  | refl => rfl
  | tail hbefore hstep ih =>
      cases hstep with
      | asks hasks => exact (hasks.lawful (hw.moves hbefore)).2.trans ih
      | inserts hinsert =>
          obtain ⟨-, rfl⟩ := insert_eq_ok hinsert
          exact ih

/-- **Persisting keeps the last cache at every place**, whatever the document and the fetcher, and whatever
calls there have been: the cache of a binding is lost only where a later one has a target that leads to the
same place. -/
theorem persist_keeps_last (hstore : store.KeepsAt place) (fetcher : Fetcher (StateM σ)) {doc : Document}
    {s₀ s₁ : σ} {ctx : Context} (hmade : outcome (ofDocument store fetcher doc) s₀ = (.ok ctx, s₁))
    (calls : List Call) {now : Context} {s s' : σ}
    (hcalled : (exec (performAll fetcher calls) (ctx, s₁)).2 = (now, s))
    (htame : ∀ b ∈ now.lazies, ∀ e ∈ b.cache, Json.Tame 126 e.2)
    (hpersisted : outcome (now.persist store) s = (.ok (), s')) : Kept store (place s) doc now s' := by
  have hmoves := performAll_moves fetcher calls (ctx, s₁)
  rw [hcalled] at hmoves
  have hmadeLawful : ctx.Lawful := lawful_ofDocument hmade
  have hlawful : now.Lawful := Lawful.moves hmoves hmadeLawful
  have hlast {b : LazyBinding} (hb : b ∈ now.lazies) : ∃ a bytes,
      lastAt? (place s) (place s b.target) now.lazies = some a ∧ store.Holds s' b.target bytes ∧
        b.TakesUp bytes a.cache := by
    obtain ⟨a, ha, hkept⟩ := holds_last hstore hpersisted hb
    have hmem := (of_lastAt? ha).1
    exact ⟨a, a.persisted, ha, hkept, fun template =>
      LazyBinding.withPersisted_persisted _ (hlawful.lawful hmem) (htame a hmem)⟩
  refine ⟨(identity_of_moves hmoves hmadeLawful).trans (ofDocument_identity hmade), hlast, ?_, ?_⟩
  · intro hown a ha b hb hplace
    -- each of the two has the cache of the last binding at their place
    have hcache {b : LazyBinding} (hb : b ∈ now.lazies) : ∃ c,
        lastAt? (place s) (place s b.target) now.lazies = some c ∧ c.cache = b.cache := by
      obtain ⟨c, bytes, hc, hholds, htakes⟩ := hlast hb
      obtain ⟨bytes', hholds', htakes'⟩ := hown b hb
      obtain rfl := hholds.unique hholds'
      have hparse := htakes.parse_eq
      rw [htakes'.parse_eq, Except.ok.injEq, Json.Value.object.injEq] at hparse
      exact ⟨c, hc, hparse.symm⟩
    obtain ⟨c, hc, hcacheA⟩ := hcache ha
    obtain ⟨c', hc', hcacheB⟩ := hcache hb
    rw [hplace, hc'] at hc
    cases hc
    exact hcacheA.symm.trans hcacheB
  · intro hsame b hb
    obtain ⟨a, bytes, ha, hholds, htakes⟩ := hlast hb
    obtain ⟨hmem, hplace⟩ := of_lastAt? ha
    rw [hsame a hmem b hb hplace] at htakes
    exact ⟨bytes, hholds, htakes⟩

/-! ### Two bindings with one target -/

def twins : Document where
  bindings := [⟨"a", "l.json", .lazy "http://x/\x7bp\x7d", 1⟩, ⟨"b", "l.json", .lazy "http://y/\x7bp\x7d", 2⟩]
  nodes := []

def askTwins : List Call :=
  ["a", "b"].map fun name => .resolve ⟨[("p", .string "1")], []⟩ name

def twinsDesk : Desk :=
  Desk.prepared [] [("http://x/1", "1"), ("http://y/1", "2")]

/-- The two bindings with what they have been answered. -/
def twinsAsked : Context where
  values := []
  lazies := [⟨"a", "l.json", .parse "http://x/\x7bp\x7d", [("1", .number (.int 1))], ["1"]⟩,
    ⟨"b", "l.json", .parse "http://y/\x7bp\x7d", [("1", .number (.int 2))], ["1"]⟩]

def twinsMade : Context :=
  ⟨[], [.new "a" "l.json" "http://x/\x7bp\x7d", .new "b" "l.json" "http://y/\x7bp\x7d"]⟩

theorem ofDocument_twins : outcome (ofDocument MemoryStore.store CannedAnswers.fetcher twins) twinsDesk
    = (.ok twinsMade, twinsDesk) :=
  rfl

def twinsAskedDesk : Desk :=
  { twinsDesk with answers.requests := [⟨none, "http://x/1"⟩, ⟨none, "http://y/1"⟩] }

theorem performAll_twins : (exec (performAll CannedAnswers.fetcher askTwins) (twinsMade, twinsDesk)).2
    = (twinsAsked, twinsAskedDesk) := by
  let scope : Scope := ⟨[("p", .string "1")], []⟩
  let first : LazyBinding := .new "a" "l.json" "http://x/\x7bp\x7d"
  let second : LazyBinding := .new "b" "l.json" "http://y/\x7bp\x7d"
  have hfirst : first.template.expand (twinsMade.placeholderText? scope) = some ("http://x/1", "1") := by
    with_unfolding_all rfl
  have hsecond (ctx : Context) :
      second.template.expand (ctx.placeholderText? scope) = some ("http://y/1", "1") := by
    with_unfolding_all rfl
  have hone : Json.parse "1".toUTF8 = .ok (.number (.int 1)) := by with_unfolding_all rfl
  have htwo : Json.parse "2".toUTF8 = .ok (.number (.int 2)) := by with_unfolding_all rfl
  change (exec ((Call.resolve scope "b").perform CannedAnswers.fetcher)
    (exec ((Call.resolve scope "a").perform CannedAnswers.fetcher) (twinsMade, twinsDesk)).2).2 = _
  rw [perform_resolve_asks (b := first) (by with_unfolding_all rfl) rfl rfl hfirst rfl rfl rfl hone,
    perform_resolve_asks (b := second) (by with_unfolding_all rfl) rfl rfl (hsecond _) rfl rfl rfl htwo]
  rfl

theorem tame_twins : ∀ b ∈ twinsAsked.lazies, ∀ e ∈ b.cache, Json.Tame 126 e.2 := by
  intro b hb e he
  simp only [twinsAsked, List.mem_cons, List.not_mem_nil, or_false] at hb
  rcases hb with rfl | rfl
  · cases List.mem_singleton.1 he
    exact .number (by decide) (by decide)
  · cases List.mem_singleton.1 he
    exact .number (by decide) (by decide)

/-- The world after the caches of the two have been kept, the second in place of the first. -/
def twinsKeptDesk : Desk :=
  (outcome (twinsAsked.persist MemoryStore.store) twinsAskedDesk).2

theorem persist_keeps_last_twins :
    outcome (ofDocument MemoryStore.store CannedAnswers.fetcher twins) twinsDesk = (.ok twinsMade, twinsDesk) ∧
      (exec (performAll CannedAnswers.fetcher askTwins) (twinsMade, twinsDesk)).2
        = (twinsAsked, twinsAskedDesk) ∧
      (∀ b ∈ twinsAsked.lazies, ∀ e ∈ b.cache, Json.Tame 126 e.2) ∧
      outcome (twinsAsked.persist MemoryStore.store) twinsAskedDesk = (.ok (), twinsKeptDesk) ∧
      Kept MemoryStore.store (fun target => target) twins twinsAsked twinsKeptDesk :=
  ⟨ofDocument_twins, performAll_twins, tame_twins, rfl, persist_keeps_last Desk.keepsAt CannedAnswers.fetcher
    ofDocument_twins askTwins performAll_twins tame_twins rfl⟩

/-- Of two bindings that share a target, the first one finds the cache of the second when it is made anew. -/
theorem persist_loses_twin :
    Document.parse "!a = l.json << http://x/\x7bp\x7d\n!b = l.json << http://y/\x7bp\x7d\n" = .ok twins ∧
      outcome (ofDocument MemoryStore.store CannedAnswers.fetcher twins) twinsDesk
        = (.ok twinsMade, twinsDesk) ∧
      (exec (performAll CannedAnswers.fetcher askTwins) (twinsMade, twinsDesk)).2
        = (twinsAsked, twinsAskedDesk) ∧
      (∀ b ∈ twinsAsked.lazies, ∀ e ∈ b.cache, Json.Tame 126 e.2) ∧
      outcome (twinsAsked.persist MemoryStore.store) twinsAskedDesk = (.ok (), twinsKeptDesk) ∧
      ∃ b ∈ twinsAsked.lazies, ¬ ∃ bytes, Store.Holds MemoryStore.store twinsKeptDesk b.target bytes ∧
        b.TakesUp bytes b.cache := by
  have hparse : Document.parse "!a = l.json << http://x/\x7bp\x7d\n!b = l.json << http://y/\x7bp\x7d\n"
      = .ok twins := by with_unfolding_all rfl
  refine ⟨hparse, ofDocument_twins, performAll_twins, tame_twins, rfl, _, List.mem_cons_self, ?_⟩
  rintro ⟨bytes, hholds, htakes⟩
  let second : LazyBinding := ⟨"b", "l.json", .parse "http://y/\x7bp\x7d", [("1", .number (.int 2))], ["1"]⟩
  have hkept : Store.Holds MemoryStore.store twinsKeptDesk "l.json" second.persisted :=
    Desk.holds_iff.2 rfl
  obtain rfl := hholds.unique hkept
  have hsecond : Json.parse second.persisted = .ok (.object second.cache) := by with_unfolding_all rfl
  have hfirst := htakes.parse_eq
  rw [hsecond] at hfirst
  cases hfirst

end Context

end StaticPage
