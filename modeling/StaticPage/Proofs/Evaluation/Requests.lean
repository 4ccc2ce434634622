import Mathlib.Logic.Relation
import StaticPage.Evaluation.Context

/-!
# Evaluation as a chain of requests

Evaluation reads a context and changes it in one place only: where a lazy binding asks for a key that
it has neither kept nor tried, and learns the answer. Everything the proofs know about how a
computation moves a context is that it is a chain of such requests, `Asks`, whatever the fetcher
answers and whatever it does to its own world. A property of contexts that one request keeps is
therefore kept by looking a path up and by evaluating a body, however deep its loops nest.

Computations run in a monad that carries the fetcher's world, `StateM σ`. A world of any type stands
for a fetcher that answers as it likes, by the calls it has seen or by anything else.
-/

namespace StaticPage

variable {σ α β : Type}

/-! ### What a lazy binding learns -/

/-- The value in an answer, if it has one: the fetch succeeded and brought JSON. -/
def decoded? (answer : Except FetchFault ByteArray) : Option Json.Value :=
  match answer with
  | .error _ => none
  | .ok bytes => (Json.parse bytes).toOption

theorem decoded?_eq_some {answer : Except FetchFault ByteArray} {value : Json.Value} :
    decoded? answer = some value ↔ ∃ bytes, answer = .ok bytes ∧ Json.parse bytes = .ok value := by
  cases answer with
  | error cause => simp [decoded?]
  | ok bytes => cases hparse : Json.parse bytes <;> simp [decoded?, hparse, Except.toOption]

namespace LazyBinding

/-- A lazy binding that has tried a key and kept the value of the answer, if there is one. -/
def learn (b : LazyBinding) (key : String) (answer : Except FetchFault ByteArray) : LazyBinding :=
  match decoded? answer with
  | some value => (b.attempt key).keep key value
  | none => b.attempt key

variable (b : LazyBinding) (key : String) (answer : Except FetchFault ByteArray)

@[simp] theorem learn_name : (b.learn key answer).name = b.name := by
  unfold learn; split <;> rfl

@[simp] theorem learn_target : (b.learn key answer).target = b.target := by
  unfold learn; split <;> rfl

@[simp] theorem learn_template : (b.learn key answer).template = b.template := by
  unfold learn; split <;> rfl

@[simp] theorem learn_attempted : (b.learn key answer).attempted = key :: b.attempted := by
  unfold learn; split <;> rfl

theorem learn_cache :
    (b.learn key answer).cache
      = (decoded? answer).elim b.cache fun value => Dictionary.set key value b.cache := by
  unfold learn
  cases decoded? answer <;> rfl

end LazyBinding

namespace Context

/-! ### Running computations -/

/-- Runs a computation from a context and a world: its result, and the two as it leaves them. -/
def exec (x : StateT Context (StateM σ) α) (w : Context × σ) : α × Context × σ :=
  let r := ((x.run w.1).run w.2).run
  (r.1.1, r.1.2, r.2)

@[simp] theorem exec_pure (a : α) (w : Context × σ) :
    exec (pure a : StateT Context (StateM σ) α) w = (a, w) := rfl

@[simp] theorem exec_bind (x : StateT Context (StateM σ) α) (f : α → StateT Context (StateM σ) β)
    (w : Context × σ) : exec (x >>= f) w = exec (f (exec x w).1) (exec x w).2 := rfl

@[simp] theorem exec_map (f : α → β) (x : StateT Context (StateM σ) α) (w : Context × σ) :
    exec (f <$> x) w = (f (exec x w).1, (exec x w).2) := rfl

@[simp] theorem exec_get (w : Context × σ) :
    exec (get : StateT Context (StateM σ) Context) w = (w.1, w) := rfl

@[simp] theorem exec_set (ctx : Context) (w : Context × σ) :
    exec (set ctx : StateT Context (StateM σ) PUnit) w = (⟨⟩, ctx, w.2) := rfl

@[simp] theorem exec_lift (x : StateM σ α) (w : Context × σ) :
    exec (liftM x : StateT Context (StateM σ) α) w
      = ((x.run w.2).run.1, w.1, (x.run w.2).run.2) := rfl

variable [MonadWarn (StateM σ)]

@[simp] theorem exec_warn (warning : Warning) (w : Context × σ) :
    exec (warn warning : StateT Context (StateM σ) Unit) w
      = ((), w.1, ((warn warning : StateM σ Unit).run w.2).run.2) := rfl

/-! ### One request -/

/-- What is warned of an answer without a value. -/
def complain (request : LazyRequest) (answer : Except FetchFault ByteArray) : StateM σ Unit :=
  match answer with
  | .error _ => warn (.lazyFetchFailed request.binding request.key)
  | .ok bytes =>
    match Json.parse bytes with
    | .error _ => warn (.lazyAnswerNotJson request.binding request.key)
    | .ok _ => pure ()

/-- The answer to a request, and the world after it and its warning. -/
def request (fetcher : Fetcher (StateM σ)) (r : LazyRequest) (s : σ) :
    Except FetchFault ByteArray × σ :=
  let (answer, s) := ((fetcher.fetchUncached r).run s).run
  (answer, ((complain r answer).run s).run.2)

variable (fetcher : Fetcher (StateM σ)) {transform : String → String}

/-- Looking a lazy binding up: no value without a whole expansion, the value kept for the key, no
value if the key was tried in vain, and otherwise a request. -/
theorem exec_lazyValue (b : LazyBinding) (scope : Scope) (w : Context × σ) :
    exec (lazyValue fetcher b scope) w =
      match b.template.expand (w.1.placeholderText? scope) with
      | none => (none, w)
      | some (url, key) =>
        match b.cache.lookup key with
        | some value => (some value, w)
        | none =>
          if b.attempted.contains key then (none, w)
          else
            let (answer, s) := request fetcher ⟨b.name, key, url⟩ w.2
            (decoded? answer, w.1.update (b.learn key answer), s) := by
  have hname (key : String) : (b.attempt key).name = b.name := rfl
  simp only [lazyValue, exec_bind, exec_get]
  cases b.template.expand (w.1.placeholderText? scope) with
  | none => rfl
  | some expanded =>
      obtain ⟨url, key⟩ := expanded
      cases hcached : b.cache.lookup key with
      | some value => simp only [hcached, exec_pure]
      | none =>
          cases htried : b.attempted.contains key with
          | true => simp only [hcached, htried, if_true, exec_pure]
          | false =>
              simp only [hcached, htried, Bool.false_eq_true, if_false, exec_bind, exec_lift, hname,
                request]
              rcases ((fetcher.fetchUncached ⟨b.name, key, url⟩).run w.2).run with ⟨answer, s⟩
              cases answer with
              | error cause => simp [decoded?, LazyBinding.learn, complain]
              | ok bytes =>
                  cases hparse : Json.parse bytes <;>
                    simp [hparse, decoded?, LazyBinding.learn, complain, Except.toOption]

/-- A lazy binding asks for a key that it has neither kept nor tried, and learns the answer. -/
inductive Asks : Context × σ → Context × σ → Prop where
  | ask {ctx : Context} {s : σ} {b : LazyBinding} {scope : Scope} {url key : String}
      (hlazy : ctx.lazy? b.name = some b)
      (hexpand : b.template.expand (ctx.placeholderText? scope) = some (url, key))
      (hcache : b.cache.lookup key = none) (htried : key ∉ b.attempted) :
      Asks (ctx, s)
        (ctx.update (b.learn key (request fetcher ⟨b.name, key, url⟩ s).1),
          (request fetcher ⟨b.name, key, url⟩ s).2)

/-! ### Chains of requests -/

/-- A computation that moves a context and a world by requests only. -/
def ByRequests (x : StateT Context (StateM σ) α) : Prop :=
  ∀ w, Relation.ReflTransGen (Asks fetcher) w (exec x w).2

variable {fetcher}

theorem byRequests_pure (a : α) : ByRequests fetcher (pure a) :=
  fun _ => .refl

theorem ByRequests.bind {x : StateT Context (StateM σ) α} {f : α → StateT Context (StateM σ) β}
    (hx : ByRequests fetcher x) (hf : ∀ a, ByRequests fetcher (f a)) :
    ByRequests fetcher (x >>= f) :=
  fun w => (hx w).trans (hf _ _)

theorem ByRequests.mapM {γ : Type} {f : γ → StateT Context (StateM σ) α}
    (hf : ∀ a, ByRequests fetcher (f a)) (as : List γ) : ByRequests fetcher (as.mapM f) := by
  induction as with
  | nil => exact byRequests_pure []
  | cons a as ih =>
      rw [List.mapM_cons]
      exact (hf a).bind fun _ => ih.bind fun _ => byRequests_pure _

theorem byRequests_lazyValue {b : LazyBinding} {w : Context × σ} (scope : Scope)
    (hlazy : w.1.lazy? b.name = some b) :
    Relation.ReflTransGen (Asks fetcher) w (exec (lazyValue fetcher b scope) w).2 := by
  rw [exec_lazyValue]
  split
  · exact .refl
  · rename_i url key hexpand
    split
    · exact .refl
    · rename_i hcache
      split
      · exact .refl
      · rename_i htried
        exact .single (.ask hlazy hexpand hcache (by simpa using htried))

theorem lazy?_name {ctx : Context} {name : String} {b : LazyBinding} (h : ctx.lazy? name = some b) :
    b.name = name := by
  have := List.find?_some h
  simpa using this

theorem byRequests_resolve (scope : Scope) (path : String) :
    ByRequests fetcher (resolve fetcher scope path) := by
  intro w
  simp only [resolve, exec_bind, exec_get]
  split
  · exact .refl
  · split
    · exact .refl
    · rename_i b hlazy
      exact byRequests_lazyValue scope (by rw [lazy?_name hlazy, hlazy])

mutual

theorem byRequests_evalNode (scope : Scope) :
    (n : Node) → ByRequests fetcher (evalNode fetcher transform scope n)
  | .prose id text => by
      rw [evalNode]
      exact byRequests_pure _
  | .field path => by
      rw [evalNode]
      exact (byRequests_resolve scope path).bind fun _ => byRequests_pure _
  | .loop header body => by
      rw [evalNode]
      exact (byRequests_resolve scope header.source).bind fun _ =>
        (ByRequests.mapM (fun frame => byRequests_evalNodes (scope.child frame) body) _).bind
          fun _ => byRequests_pure _

theorem byRequests_evalNodes (scope : Scope) :
    (nodes : List Node) → ByRequests fetcher (evalNodes fetcher transform scope nodes)
  | [] => by
      rw [evalNodes]
      exact byRequests_pure _
  | n :: rest => by
      rw [evalNodes]
      exact (byRequests_evalNode scope n).bind fun _ =>
        (byRequests_evalNodes scope rest).bind fun _ => byRequests_pure _

end

theorem byRequests_evaluate (nodes : List Node) :
    ByRequests fetcher (evaluate fetcher transform nodes) :=
  byRequests_evalNodes .root nodes

end Context

end StaticPage
