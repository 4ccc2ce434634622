import StaticPage.Proofs.Evaluation.Replays
import StaticPage.Proofs.Http.Rebindings
import StaticPage.Proofs.Http.Runs

/-!
# Evaluating and keeping without a network

Requests leave the files alone. If every request fails, a body is evaluated with the caches that another
evaluation has ended with as it was evaluated there, `recalls_offline`: what was fetched then is in the
caches, and what could not be fetched cannot be fetched now. Caches that were kept can be kept again.
-/

namespace StaticPage

open Context FileTree Relation

variable {answers : Answers} {d : DataDirectory} {w w' v : World} {ctx ctx' : Context}

/-! ### Requests -/

theorem tree_complain (r : LazyRequest) (answer : Except FetchFault ByteArray) (w : World) :
    (after (complain r answer) w).2.tree = w.tree := by
  unfold complain
  split
  · rfl
  · split <;> rfl

theorem request_eq (fetcher : Fetcher (StateM World)) (r : LazyRequest) (w : World) :
    request fetcher r w = ((after (fetcher.fetchUncached r) w).1,
      (after (complain r (after (fetcher.fetchUncached r) w).1) (after (fetcher.fetchUncached r) w).2).2) :=
  rfl

theorem tree_request (answers : Answers) (d : DataDirectory) (r : LazyRequest) (w : World) :
    (request (answers.fetcher d).fetcher r w).2.tree = w.tree := by
  rcases hfetch : after ((answers.fetcher d).fetcher.fetchUncached r) w with ⟨answer, w₁⟩
  rw [request_eq, hfetch, tree_complain]
  rcases (HttpFetcher.fetchUncached_cases hfetch).1 with rfl | rfl <;> rfl

theorem tree_of_requests {s s' : Context × World}
    (h : ReflTransGen (Asks (answers.fetcher d).fetcher) s s') : s'.2.tree = s.2.tree := by
  induction h with
  | refl => rfl
  | tail _ hstep ih =>
      cases hstep with
      | ask => exact (tree_request answers d _ _).trans ih

theorem request_fails (hfail : answers.Fail) (d : DataDirectory) (r : LazyRequest) (w : World) :
    decoded? (request (answers.fetcher d).fetcher r w).1 = none := by
  rcases hfetch : after ((answers.fetcher d).fetcher.fetchUncached r) w with ⟨answer, w₁⟩
  obtain ⟨cause, rfl⟩ := HttpFetcher.fetchUncached_fails hfail hfetch
  rw [request_eq, hfetch]
  rfl

/-! ### Lookups -/

def LazyBinding.memory (b : LazyBinding) : Template × List (String × Json.Value) :=
  (b.template, b.cache)

/-- A context in a world with a file tree has the values of another one and answers from the same caches. -/
structure Recollects (t : FileTree) (s s' : Context × World) : Prop where
  values : s'.1.values = s.1.values
  memory (name : String) :
    (s'.1.lazy? name).map LazyBinding.memory = (s.1.lazy? name).map LazyBinding.memory
  tree : s'.2.tree = t

theorem memory_update {b : LazyBinding} {key : String} {answer : Except FetchFault ByteArray}
    (hb : ctx.lazy? b.name = some b) (hanswer : decoded? answer = none) (name : String) :
    ((ctx.update (b.learn key answer)).lazy? name).map LazyBinding.memory
      = (ctx.lazy? name).map LazyBinding.memory := by
  rw [lazy?_update, Option.map_map]
  cases ha : ctx.lazy? name with
  | none => rfl
  | some a =>
      simp only [Option.map_some, Function.comp_apply, LazyBinding.learn_name]
      split
      · rename_i hname
        rw [← lazy?_name ha, beq_iff_eq.1 hname, hb] at ha
        cases ha
        rw [LazyBinding.memory, LazyBinding.learn_template, LazyBinding.learn_cache, hanswer]
        rfl
      · rfl

/-- Where every request fails, what is settled in one context is answered so in one that recollects it. -/
theorem recalls_offline (hfail : answers.Fail) (d : DataDirectory) (t : FileTree) :
    Recalls (answers.fetcher d).fetcher (Recollects t) := by
  refine ⟨fun h => h.values, fun {w v} h name hnone => ?_, fun {w v} h name b hb => ?_⟩
  · have hmemory := h.memory name
    rw [hnone] at hmemory
    simpa using hmemory
  · have hmemory := h.memory name
    rw [hb, Option.map_some, Option.map_eq_some_iff] at hmemory
    obtain ⟨c, hc, hmemory⟩ := hmemory
    obtain ⟨htemplate, hcache⟩ := Prod.mk.inj hmemory
    refine ⟨c, hc, htemplate, fun scope url key value hexpand hsettled => ?_⟩
    rw [exec_lazyValue, hexpand]
    dsimp only
    rw [hcache, hsettled.cache_eq]
    cases value with
    | some value => exact ⟨rfl, h⟩
    | none =>
        dsimp only
        split
        · exact ⟨rfl, h⟩
        · have hnone := request_fails hfail d ⟨c.name, key, url⟩ v.2
          have htree := tree_request answers d ⟨c.name, key, url⟩ v.2
          have hname : v.1.lazy? c.name = some c := by rw [lazy?_name hc, hc]
          refine ⟨hnone, h.values, fun other => ?_, htree.trans h.tree⟩
          exact (memory_update hname hnone other).trans (h.memory other)

theorem lazy?_identity (ctx : Context) (name : String) : (ctx.lazy? name).map LazyBinding.identity
    = (ctx.lazies.map LazyBinding.identity).find? (·.1 == name) := by
  rw [lazy?, List.find?_map]
  rfl

/-- A context with the caches that a later one ends with recollects it. -/
theorem recollects_recalling {later : Context} (hvalues : later.values = ctx.values)
    (hidentity : later.lazies.map LazyBinding.identity = ctx.lazies.map LazyBinding.identity) (w v : World) :
    Recollects v.tree (later, w) (later.recalling ctx, v) := by
  refine ⟨hvalues.symm, fun name => ?_, rfl⟩
  have hsame : (later.lazy? name).map LazyBinding.identity = (ctx.lazy? name).map LazyBinding.identity := by
    rw [lazy?_identity, lazy?_identity, hidentity]
  rw [lazy?_recalling, Option.map_map]
  cases ha : ctx.lazy? name with
  | none =>
      rw [ha] at hsame
      rw [Option.map_eq_none_iff.1 hsame]
      rfl
  | some a =>
      rw [ha, Option.map_some, Option.map_eq_some_iff] at hsame
      obtain ⟨b, hb, hidentity⟩ := hsame
      simp only [LazyBinding.identity, Prod.mk.injEq] at hidentity
      simp [LazyBinding.memory, lazy?_name ha, hb, hidentity]

/-! ### Keeping caches -/

theorem placed_save {target : String} {bytes : ByteArray}
    (h : after ((answers.fetcher d).store.save target bytes) w = (.ok (), w')) :
    Evolves [placeOf w.tree.here (d.pathOf target)] w.tree w'.tree ∧
      w'.tree.Placed (d.pathOf target) bytes := by
  have hwritten : after ((FileTree.access (m := StateM World)).writeDeep (d.pathOf target) bytes) w
      = (.ok (), w') := h
  obtain ⟨t, rfl, hevolves, hplaced⟩ := evolves_writeDeep hwritten
  exact ⟨hevolves, hplaced rfl⟩

theorem save_again {target : String} {old : ByteArray} (h : w.tree.Placed (d.pathOf target) old)
    (answers : Answers) (bytes : ByteArray) :
    ∃ w', after ((answers.fetcher d).store.save target bytes) w = (.ok (), w') ∧
      Evolves [placeOf w.tree.here (d.pathOf target)] w.tree w'.tree := by
  obtain ⟨t, hwritten, hevolves, -⟩ := Placed.writeDeep (s := w) h bytes
  exact ⟨_, hwritten, hevolves⟩

/-- Caches that were kept are there. Targets with places of their own do not get in each other's way. -/
theorem placed_persist (h : outcome (ctx.persist (answers.fetcher d).store) w = (.ok (), w'))
    (hplaces : (ctx.lazies.map fun a => placeOf w.tree.here (d.pathOf a.target)).Nodup) :
    Evolves (ctx.lazies.map fun a => placeOf w.tree.here (d.pathOf a.target)) w.tree w'.tree ∧
      ∀ a ∈ ctx.lazies, w'.tree.Placed (d.pathOf a.target) a.persisted := by
  unfold Context.persist at h
  generalize ctx.lazies = lazies at h hplaces ⊢
  induction lazies generalizing w with
  | nil =>
      cases h
      exact ⟨.refl _ _, fun a ha => by cases ha⟩
  | cons a rest ih =>
      change outcome (_ >>= fun _ => rest.forM _) w = _ at h
      obtain ⟨⟨⟩, w₁, hsave, h⟩ := outcome_bind_eq_ok h
      obtain ⟨r, w₂, hwrite, hsave⟩ := outcome_bind_eq_ok hsave
      cases r with
      | error fault => cases hsave
      | ok saved =>
          cases hsave
          obtain ⟨hevolves, hplaced⟩ := placed_save (outcome_lift_eq_ok.1 hwrite)
          rw [List.map_cons, List.nodup_cons, ← hevolves.here] at hplaces
          obtain ⟨hlater, hothers⟩ := ih h hplaces.2
          rw [List.forall_mem_cons]
          refine ⟨?_, hplaced.later hlater hplaces.1, hothers⟩
          rw [hevolves.here] at hlater
          rw [List.map_cons]
          exact (hevolves.mono (by simp)).trans (hlater.mono (by simp))

theorem persist_again (answers : Answers)
    (h : ∀ a ∈ ctx.lazies, ∃ bytes, w.tree.Placed (d.pathOf a.target) bytes) :
    ∃ w', outcome (ctx.persist (answers.fetcher d).store) w = (.ok (), w') ∧
      Evolves (ctx.lazies.map fun a => placeOf w.tree.here (d.pathOf a.target)) w.tree w'.tree := by
  unfold Context.persist
  generalize ctx.lazies = lazies at h ⊢
  induction lazies generalizing w with
  | nil => exact ⟨w, rfl, .refl _ _⟩
  | cons a rest ih =>
      rw [List.forall_mem_cons] at h
      obtain ⟨⟨old, hplaced⟩, hothers⟩ := h
      obtain ⟨w₁, hsave, hevolves⟩ := save_again hplaced answers a.persisted
      obtain ⟨w', hrest, hlater⟩ := ih fun b hb => by
        obtain ⟨bytes, hplaced⟩ := hothers b hb
        exact hplaced.exists_later hevolves
      refine ⟨w', ?_, ?_⟩
      · change outcome (_ >>= fun _ => rest.forM _) w = _
        rw [outcome_bind, outcome_bind, outcome_lift_eq_ok.2 hsave]
        exact hrest
      · rw [hevolves.here] at hlater
        rw [List.map_cons]
        exact (hevolves.mono (by simp)).trans (hlater.mono (by simp))

end StaticPage
