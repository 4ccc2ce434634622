import StaticPage.Proofs.Evaluation.Accounting

/-!
# Looking up again

When a lazy binding has been asked for a key, the key is settled: its value is kept, or it was tried in
vain. Requests settle keys and never change what is settled, so that a path that has been looked up leads
to the same value ever after. `Replays` lifts this to whole computations. From any world that stands to a
later one of the first run in a relation that recalls its lookups, the second run takes the same course.
With equality for the relation, a context answers everything a second time as it did the first time, and
without a request.
-/

namespace StaticPage

variable {σ τ α β : Type}

/-- What a lazy binding has to say about a key is settled: the value is kept or was tried in vain. -/
structure LazyBinding.Settled (b : LazyBinding) (key : String) (value : Option Json.Value) : Prop where
  cache_eq : b.cache.lookup key = value
  tried : value = none → key ∈ b.attempted

theorem LazyBinding.Settled.learn {b : LazyBinding} {key other : String} {value : Option Json.Value}
    (h : b.Settled key value) (hcache : b.cache.lookup other = none) (htried : other ∉ b.attempted)
    (answer : Except FetchFault ByteArray) : (b.learn other answer).Settled key value := by
  have hne : key ≠ other := by
    rintro rfl
    exact htried (h.tried (h.cache_eq.symm.trans hcache))
  refine ⟨?_, fun hnone => ?_⟩
  · rw [learn_cache, ← h.cache_eq]
    cases decoded? answer with
    | none => rfl
    | some new => exact Dictionary.lookup_set_of_ne hne new b.cache
  · rw [learn_attempted]
    exact List.mem_cons_of_mem _ (h.tried hnone)

/-- The answer about a key settles it. -/
theorem LazyBinding.settled_learn {b : LazyBinding} {key : String} (hcache : b.cache.lookup key = none)
    (answer : Except FetchFault ByteArray) : (b.learn key answer).Settled key (decoded? answer) := by
  refine ⟨?_, fun _ => ?_⟩
  · rw [learn_cache]
    cases decoded? answer with
    | none => exact hcache
    | some value => exact Dictionary.lookup_set_self key value b.cache
  · rw [learn_attempted]
    exact List.mem_cons_self

namespace Context

theorem lazy?_update (ctx : Context) (b : LazyBinding) (name : String) :
    (ctx.update b).lazy? name
      = (ctx.lazy? name).map fun a => if a.name == b.name then b else a := by
  have hname (a : LazyBinding) : ((if a.name == b.name then b else a).name == name)
      = (a.name == name) := by
    split
    · rename_i h
      rw [beq_iff_eq.1 h]
    · rfl
  rw [lazy?, lazy?, update, List.find?_map]
  refine congrArg _ (congrArg (List.find? · ctx.lazies) ?_)
  funext a
  exact hname a

/-- A later context has the values of an earlier one and its lazy bindings, with all that was settled. -/
structure Keeps (ctx later : Context) : Prop where
  values_eq : later.values = ctx.values
  unknown : ∀ name, ctx.lazy? name = none → later.lazy? name = none
  known : ∀ name b, ctx.lazy? name = some b → ∃ b', later.lazy? name = some b' ∧
    b'.template = b.template ∧ ∀ key value, b.Settled key value → b'.Settled key value

theorem Keeps.refl (ctx : Context) : Keeps ctx ctx :=
  ⟨rfl, fun _ h => h, fun _ b h => ⟨b, h, rfl, fun _ _ h => h⟩⟩

theorem Keeps.trans {ctx ctx' ctx'' : Context} (h : Keeps ctx ctx') (h' : Keeps ctx' ctx'') :
    Keeps ctx ctx'' := by
  refine ⟨h'.values_eq.trans h.values_eq, fun name hname => h'.unknown name (h.unknown name hname), ?_⟩
  intro name b hb
  obtain ⟨b', hb', htemplate, hsettled⟩ := h.known name b hb
  obtain ⟨b'', hb'', htemplate', hsettled'⟩ := h'.known name b' hb'
  exact ⟨b'', hb'', htemplate'.trans htemplate, fun key value hkey =>
    hsettled' key value (hsettled key value hkey)⟩

variable [MonadWarn (StateM σ)] {fetcher : Fetcher (StateM σ)} {transform : String → String}

theorem Asks.keeps {w w' : Context × σ} (h : Asks fetcher w w') : Keeps w.1 w'.1 := by
  cases h with
  | @ask ctx s b scope url key hlazy hexpand hcache htried =>
      generalize (request fetcher ⟨b.name, key, url⟩ s).1 = answer
      refine ⟨rfl, fun name hname => ?_, fun name a ha => ?_⟩
      · rw [lazy?_update, hname]
        rfl
      · rw [lazy?_update, ha]
        dsimp only [Option.map]
        by_cases hname : a.name = b.name
        · rw [if_pos (by simpa using hname)]
          -- the first binding of a name is the one that is asked
          obtain rfl : a = b := by
            rw [← lazy?_name ha, hname, hlazy] at ha
            exact (Option.some.inj ha).symm
          exact ⟨_, rfl, LazyBinding.learn_template _ _ _, fun other value hother =>
            hother.learn hcache htried answer⟩
        · rw [if_neg (by simpa using hname)]
          exact ⟨a, rfl, rfl, fun _ _ h => h⟩

theorem keeps_of_requests {w w' : Context × σ} (h : Relation.ReflTransGen (Asks fetcher) w w') :
    Keeps w.1 w'.1 := by
  induction h with
  | refl => exact .refl _
  | tail _ hstep ih => exact ih.trans hstep.keeps

/-- What a lazy binding is asked for is settled ever after. -/
theorem settled_lazyValue {b : LazyBinding} {scope : Scope} {url key : String} {w later : Context × σ}
    (hlazy : w.1.lazy? b.name = some b)
    (hexpand : b.template.expand (w.1.placeholderText? scope) = some (url, key))
    (hlater : Relation.ReflTransGen (Asks fetcher) (exec (lazyValue fetcher b scope) w).2 later) :
    ∃ b', later.1.lazy? b.name = some b' ∧ b'.template = b.template ∧
      b'.Settled key (exec (lazyValue fetcher b scope) w).1 := by
  have hkeeps := keeps_of_requests hlater
  rw [exec_lazyValue, hexpand] at hkeeps ⊢
  dsimp only at hkeeps ⊢
  cases hcache : b.cache.lookup key with
  | some value =>
      rw [hcache] at hkeeps
      obtain ⟨b', hb', htemplate, hsettled⟩ := hkeeps.known _ _ hlazy
      exact ⟨b', hb', htemplate, hsettled key _ ⟨hcache, by simp⟩⟩
  | none =>
      rw [hcache] at hkeeps
      dsimp only at hkeeps ⊢
      by_cases htried : b.attempted.contains key = true
      · rw [if_pos htried] at hkeeps ⊢
        obtain ⟨b', hb', htemplate, hsettled⟩ := hkeeps.known _ _ hlazy
        exact ⟨b', hb', htemplate, hsettled key _ ⟨hcache, fun _ => by simpa using htried⟩⟩
      · rw [if_neg htried] at hkeeps ⊢
        generalize request fetcher ⟨b.name, key, url⟩ w.2 = r at hkeeps ⊢
        have hupdated : (w.1.update (b.learn key r.1)).lazy? b.name = some (b.learn key r.1) := by
          rw [lazy?_update, hlazy]
          simp
        obtain ⟨b', hb', htemplate, hsettled⟩ := hkeeps.known _ _ hupdated
        refine ⟨b', hb', htemplate.trans (LazyBinding.learn_template _ _ _), ?_⟩
        exact hsettled key _ (LazyBinding.settled_learn hcache r.1)

/-! ### Computations that are run again -/

/-- A computation replays another one: from a world in relation to one that comes later than the run of
the other, it has the same result and leaves the relation as it is. -/
def Replays (fetcher : Fetcher (StateM σ)) (R : Context × σ → Context × τ → Prop)
    (x : StateT Context (StateM σ) α) (y : StateT Context (StateM τ) α) : Prop :=
  ∀ w later v, Relation.ReflTransGen (Asks fetcher) (exec x w).2 later → R later v →
    (exec y v).1 = (exec x w).1 ∧ R later (exec y v).2

variable {R : Context × σ → Context × τ → Prop}

theorem replays_pure (a : α) : Replays fetcher R (pure a) (pure a) :=
  fun _ _ _ _ h => ⟨rfl, h⟩

theorem Replays.bind {x : StateT Context (StateM σ) α} {y : StateT Context (StateM τ) α}
    {f : α → StateT Context (StateM σ) β} {g : α → StateT Context (StateM τ) β}
    (hxy : Replays fetcher R x y) (hf : ∀ a, ByRequests fetcher (f a))
    (hfg : ∀ a, Replays fetcher R (f a) (g a)) : Replays fetcher R (x >>= f) (y >>= g) := by
  intro w later v hlater hv
  rw [exec_bind] at hlater
  rw [exec_bind, exec_bind]
  obtain ⟨hvalue, hv⟩ := hxy w later v ((hf _ _).trans hlater) hv
  rw [hvalue]
  exact hfg _ _ later _ hlater hv

theorem Replays.mapM {γ : Type} {f : γ → StateT Context (StateM σ) α}
    {g : γ → StateT Context (StateM τ) α} (hf : ∀ a, ByRequests fetcher (f a))
    (hfg : ∀ a, Replays fetcher R (f a) (g a)) (as : List γ) :
    Replays fetcher R (as.mapM f) (as.mapM g) := by
  induction as with
  | nil => exact replays_pure []
  | cons a as ih =>
      rw [List.mapM_cons, List.mapM_cons]
      refine (hfg a).bind (fun _ => (ByRequests.mapM hf as).bind fun _ => byRequests_pure _) fun _ => ?_
      exact ih.bind (fun _ => byRequests_pure _) fun _ => replays_pure _

variable [MonadWarn (StateM τ)] {other : Fetcher (StateM τ)}

/-- A relation recalls lookups: what the first context has as a value, the second one has as well, and
what is settled there, the second one answers so, and stays in the relation. -/
structure Recalls (other : Fetcher (StateM τ)) (R : Context × σ → Context × τ → Prop) : Prop where
  values_eq : ∀ {w v}, R w v → v.1.values = w.1.values
  unknown : ∀ {w v}, R w v → ∀ name, w.1.lazy? name = none → v.1.lazy? name = none
  known : ∀ {w v}, R w v → ∀ name b, w.1.lazy? name = some b → ∃ c, v.1.lazy? name = some c ∧
    c.template = b.template ∧ ∀ scope url key value,
      c.template.expand (v.1.placeholderText? scope) = some (url, key) → b.Settled key value →
        (exec (lazyValue other c scope) v).1 = value ∧ R w (exec (lazyValue other c scope) v).2

theorem known?_congr {ctx ctx' : Context} (h : ctx'.values = ctx.values) :
    ctx'.known? = ctx.known? := by
  funext scope name
  rw [known?, known?, value?, value?, h]

theorem placeholderText?_congr {ctx ctx' : Context} (h : ctx'.values = ctx.values) :
    ctx'.placeholderText? = ctx.placeholderText? := by
  funext scope p
  rw [placeholderText?, placeholderText?, known?_congr h]

/-- A path that has been looked up is looked up again. -/
theorem Recalls.resolve (hR : Recalls other R) (scope : Scope) (path : String) :
    Replays fetcher R (resolve fetcher scope path) (resolve other scope path) := by
  intro w later v hlater hv
  have hkeeps : Keeps w.1 later.1 :=
    keeps_of_requests ((byRequests_resolve scope path w).trans hlater)
  have hvalues : v.1.values = w.1.values := (hR.values_eq hv).trans hkeeps.values_eq
  simp only [Context.resolve, exec_bind, exec_get, known?_congr hvalues] at hlater ⊢
  cases hknown : w.1.known? scope (splitPath path).1 with
  | some value => exact ⟨rfl, hv⟩
  | none =>
      rw [hknown] at hlater
      dsimp only at hlater ⊢
      cases hlazy : w.1.lazy? (splitPath path).1 with
      | none =>
          rw [hR.unknown hv _ (hkeeps.unknown _ hlazy)]
          exact ⟨rfl, hv⟩
      | some b =>
          rw [hlazy] at hlater
          simp only [exec_bind, exec_pure] at hlater ⊢
          have hname := lazy?_name hlazy
          obtain ⟨b', hb', htemplate, -⟩ := hkeeps.known _ _ hlazy
          obtain ⟨c, hc, htemplate', hrecall⟩ := hR.known hv _ _ hb'
          rw [hc]
          simp only [exec_bind, exec_pure]
          have hexpand : c.template.expand (v.1.placeholderText? scope)
              = b.template.expand (w.1.placeholderText? scope) := by
            rw [htemplate', htemplate, placeholderText?_congr hvalues]
          cases hexpanded : b.template.expand (w.1.placeholderText? scope) with
          | none =>
              rw [exec_lazyValue, exec_lazyValue, hexpand, hexpanded]
              exact ⟨rfl, hv⟩
          | some expanded =>
              obtain ⟨url, key⟩ := expanded
              obtain ⟨b'', hb'', -, hsettled⟩ := settled_lazyValue (by rw [hname, hlazy]) hexpanded hlater
              obtain rfl : b'' = b' := by
                rw [hname, hb'] at hb''
                exact (Option.some.inj hb'').symm
              obtain ⟨hvalue, hv⟩ := hrecall scope url key _ (hexpand.trans hexpanded) hsettled
              exact ⟨by rw [hvalue], hv⟩

mutual

theorem Recalls.evalNode (hR : Recalls other R) (scope : Scope) :
    (n : Node) → Replays fetcher R (evalNode fetcher transform scope n) (evalNode other transform scope n)
  | .prose id text => by
      rw [Context.evalNode, Context.evalNode]
      exact replays_pure _
  | .field path => by
      rw [Context.evalNode, Context.evalNode]
      exact (hR.resolve scope path).bind (fun _ => byRequests_pure _) fun _ => replays_pure _
  | .loop header body => by
      rw [Context.evalNode, Context.evalNode]
      refine (hR.resolve scope header.source).bind (fun _ => ?_) fun _ => ?_
      · exact (ByRequests.mapM (fun frame => byRequests_evalNodes (scope.child frame) body) _).bind
          fun _ => byRequests_pure _
      · refine Replays.bind ?_ (fun _ => byRequests_pure _) fun _ => replays_pure _
        exact .mapM (fun frame => byRequests_evalNodes (scope.child frame) body)
          (fun frame => Recalls.evalNodes hR (scope.child frame) body) _

theorem Recalls.evalNodes (hR : Recalls other R) (scope : Scope) :
    (nodes : List Node) →
      Replays fetcher R (evalNodes fetcher transform scope nodes) (evalNodes other transform scope nodes)
  | [] => by
      rw [Context.evalNodes, Context.evalNodes]
      exact replays_pure _
  | n :: rest => by
      rw [Context.evalNodes, Context.evalNodes]
      refine (Recalls.evalNode hR scope n).bind (fun _ => ?_) fun _ => ?_
      · exact (byRequests_evalNodes scope rest).bind fun _ => byRequests_pure _
      · exact (Recalls.evalNodes hR scope rest).bind (fun _ => byRequests_pure _) fun _ => replays_pure _

end

/-! ### A context that is asked again -/

/-- What is settled in a context is answered there without a request. -/
theorem recalls_eq : Recalls fetcher (Eq : Context × σ → Context × σ → Prop) := by
  refine ⟨by rintro w _ rfl; rfl, by rintro w _ rfl name h; exact h, ?_⟩
  rintro w _ rfl name b hb
  refine ⟨b, hb, rfl, fun scope url key value hexpand hsettled => ?_⟩
  rw [exec_lazyValue, hexpand]
  dsimp only
  rw [hsettled.cache_eq]
  cases value with
  | some value => exact ⟨rfl, rfl⟩
  | none =>
      dsimp only
      rw [if_pos (by simpa using hsettled.tried rfl)]
      exact ⟨rfl, rfl⟩

/-- A call that gives no name a value. -/
def Call.Asking : Call → Prop
  | .insert _ _ => False
  | _ => True

theorem byRequests_performAll {calls : List Call} (hcalls : ∀ call ∈ calls, call.Asking) :
    ByRequests fetcher (performAll fetcher calls) := by
  induction calls with
  | nil => exact byRequests_pure _
  | cons call rest ih =>
      have hcall : ByRequests fetcher (call.perform fetcher) := by
        have := hcalls call List.mem_cons_self
        cases call with
        | evaluate transform nodes => exact (byRequests_evaluate nodes).bind fun _ => byRequests_pure _
        | resolve scope path => exact (byRequests_resolve scope path).bind fun _ => byRequests_pure _
        | insert => cases this
      exact hcall.bind fun _ => ih fun call h => hcalls call (List.mem_cons_of_mem _ h)

/-- The context and the world after a computation and then some calls. -/
def afterwards (fetcher : Fetcher (StateM σ)) (x : StateT Context (StateM σ) α) (calls : List Call)
    (w : Context × σ) : Context × σ :=
  (exec (performAll fetcher calls) (exec x w).2).2

theorem exec_afterwards {x : StateT Context (StateM σ) α} (hx : Replays fetcher Eq x x) {calls : List Call}
    (hcalls : ∀ call ∈ calls, call.Asking) (w : Context × σ) :
    exec x (afterwards fetcher x calls w) = ((exec x w).1, afterwards fetcher x calls w) := by
  obtain ⟨hvalue, hsame⟩ := hx w _ _ (byRequests_performAll hcalls _) rfl
  exact Prod.ext hvalue hsame.symm

/-- **Lookups are consistent**, whatever the context and however the fetcher changes its answers: after a path
was looked up or a body evaluated, and any lookups and evaluations in between, the same once more gives
the same result, without an exchange and with every cache and everything else as it is. -/
theorem lookups_consistent (fetcher : Fetcher (StateM σ)) (w : Context × Logged σ) {calls : List Call}
    (hcalls : ∀ call ∈ calls, call.Asking) :
    (∀ scope path,
      let again := afterwards fetcher.logged (resolve fetcher.logged scope path) calls w
      exec (resolve fetcher.logged scope path) again
        = ((exec (resolve fetcher.logged scope path) w).1, again)) ∧
    ∀ transform nodes,
      let again := afterwards fetcher.logged (evaluate fetcher.logged transform nodes) calls w
      exec (evaluate fetcher.logged transform nodes) again
        = ((exec (evaluate fetcher.logged transform nodes) w).1, again) := by
  refine ⟨fun scope path => ?_, fun transform nodes => ?_⟩
  · exact exec_afterwards (recalls_eq.resolve scope path) hcalls w
  · exact exec_afterwards (recalls_eq.evalNodes .root nodes) hcalls w

end Context

/-! ### A clock -/

/-- A world in which each fetch brings the number of those before it. -/
structure Clock where
  ticks : Nat

namespace Clock

instance : MonadWarn (StateM Clock) where
  warn _ := pure ()

/-- The number of fetches so far, and one fetch more. -/
def tick : StateM Clock (Except FetchFault ByteArray) :=
  modifyGet fun c => (.ok (toString c.ticks).toUTF8, ⟨c.ticks + 1⟩)

def fetcher : Fetcher (StateM Clock) where
  fetch _ _ := tick
  fetchUncached _ := tick
  persist := pure (.ok ())

end Clock

namespace Context

/-- Two lookups of one path, and an evaluation between them, with a fetcher whose answers differ. -/
theorem lookups_consistent_clock :
    let f := Clock.fetcher.logged
    let w : Context × Logged Clock :=
      (⟨[], [.new "now" "now.json" "http://clock/\x7bzone\x7d"]⟩, ⟨⟨0⟩, []⟩)
    let scope : Scope := ⟨[("zone", .string "utc")], []⟩
    let calls : List Call := [.evaluate id [.field "now"], .resolve scope "now.zone"]
    let again := afterwards f (resolve f scope "now") calls w
    (exec (resolve f scope "now") w).1 = some (.number (.int 0)) ∧
      exec (resolve f scope "now") again = (some (.number (.int 0)), again) ∧
      (Clock.tick ⟨0⟩).1 ≠ (Clock.tick ⟨1⟩).1 := by
  intro f w scope calls again
  have hfirst : (exec (resolve f scope "now") w).1 = some (.number (.int 0)) := by
    with_unfolding_all rfl
  have hcalls : ∀ call ∈ calls, call.Asking := by
    simp [calls, Call.Asking]
  have hagain := (lookups_consistent Clock.fetcher w hcalls).1 scope "now"
  dsimp only at hagain
  refine ⟨hfirst, ?_, ?_⟩
  · rw [← hfirst]
    exact hagain
  · intro h
    have htexts : "0".toUTF8 = "1".toUTF8 := Except.ok.inj h
    exact absurd (String.toByteArray_inj.1 htexts) (by decide)

end Context

end StaticPage
