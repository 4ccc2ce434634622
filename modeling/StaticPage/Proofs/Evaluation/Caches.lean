import StaticPage.Proofs.Evaluation.Sessions
import StaticPage.Proofs.Json.DistinctKeys

/-!
# Caches that are kept and taken up again

A cache that was loaded or learnt has every key once, at any depth, so that it is taken up again as it was
kept if its values are tame. What else a lazy binding is, its name, its target and its template, no request
changes.
-/

namespace StaticPage

variable {σ : Type}

/-- What a binding becomes if it is lazy, apart from what is kept for it. -/
def Binding.lazyIdentity? (b : Binding) : Option (String × String × Template) :=
  match b.origin with
  | .lazy template => some (b.name, b.target, .parse template)
  | _ => none

namespace LazyBinding

/-- The cache of a lazy binding is one that a JSON object can hold. -/
def Lawful (b : LazyBinding) : Prop :=
  Json.Distinct (.object b.cache)

def identity (b : LazyBinding) : String × String × Template :=
  (b.name, b.target, b.template)

theorem Lawful.withPersisted {b : LazyBinding} (h : b.Lawful) (bytes : Option ByteArray) :
    (b.withPersisted bytes).1.Lawful := by
  unfold LazyBinding.withPersisted
  split
  · exact h
  · split
    · rename_i hparse
      exact Json.distinct_of_parse hparse
    · exact h
    · exact h

theorem lawful_new (name target template : String) : (new name target template).Lawful :=
  .object List.nodup_nil fun e he => by cases he

theorem Lawful.learn {b : LazyBinding} (h : b.Lawful) (key : String)
    (answer : Except FetchFault ByteArray) : (b.learn key answer).Lawful := by
  unfold Lawful
  rw [learn_cache]
  cases hvalue : decoded? answer with
  | none => exact h
  | some value =>
      obtain ⟨bytes, -, hparse⟩ := decoded?_eq_some.1 hvalue
      exact Json.Distinct.set h key (Json.distinct_of_parse hparse)

/-- A cache is taken up as it was kept. -/
theorem withPersisted_persisted (b : LazyBinding) {a : LazyBinding} (ha : a.Lawful)
    (htame : ∀ e ∈ a.cache, Json.Tame 126 e.2) :
    b.withPersisted (some a.persisted) = ({ b with cache := a.cache }, none) := by
  have hfits : Json.Fits Json.Reader.maxDepth (.object a.cache) :=
    Json.fits_of_tame (.object htame) ha
  have hparse : Json.parse a.persisted = .ok (.object a.cache) := Json.parse_indented hfits
  rw [withPersisted]
  simp only [hparse]

theorem learn_identity (b : LazyBinding) (key : String) (answer : Except FetchFault ByteArray) :
    (b.learn key answer).identity = b.identity := by
  simp [identity]

end LazyBinding

namespace Context

/-- The lazy bindings of a context have names of their own, and their caches can be kept. -/
structure Lawful (ctx : Context) : Prop where
  nodup : (ctx.lazies.map (·.name)).Nodup
  lawful {b : LazyBinding} (hb : b ∈ ctx.lazies) : b.Lawful

theorem Lawful.lazy?_name {ctx : Context} (h : ctx.Lawful) {b : LazyBinding} (hb : b ∈ ctx.lazies) :
    ctx.lazy? b.name = some b := by
  obtain ⟨a, ha⟩ : ∃ a, ctx.lazy? b.name = some a := by
    rw [← Option.isSome_iff_exists, lazy?, List.find?_isSome]
    exact ⟨b, hb, beq_self_eq_true _⟩
  rw [ha, List.inj_on_of_nodup_map h.nodup (mem_of_lazy? ha) hb (Context.lazy?_name ha)]

variable [MonadWarn (StateM σ)] {store : Store (StateM σ)} {fetcher : Fetcher (StateM σ)}

theorem lawful_ofDocument {doc : Document} {s s' : σ} {ctx : Context}
    (h : outcome (ofDocument store fetcher doc) s = (.ok ctx, s')) : ctx.Lawful := by
  refine ⟨(ofDocument_lazies store fetcher h).1, fun {b} hb => ?_⟩
  refine ofDocument_induction store fetcher (P := fun ctx => ∀ b ∈ ctx.lazies, b.Lawful)
    (fun b hb => by cases hb) ?_ h b hb
  intro ctx ctx' b s s' _ hbind hctx
  obtain ⟨-, ⟨value, rfl⟩ | ⟨template, bytes, -, rfl⟩⟩ := bind_cases store fetcher hbind
  · exact hctx
  · intro a ha
    rcases List.mem_append.1 ha with ha | ha
    · exact hctx a ha
    · cases List.mem_singleton.1 ha
      exact (LazyBinding.lawful_new _ _ _).withPersisted bytes

/-- Binding a name adds a lazy binding if it is one, and none otherwise. -/
theorem bind_identity {ctx ctx' : Context} {b : Binding} {s s' : σ}
    (h : outcome (bind store fetcher ctx b) s = (.ok ctx', s')) :
    ctx'.lazies.map LazyBinding.identity
      = ctx.lazies.map LazyBinding.identity ++ b.lazyIdentity?.toList := by
  cases horigin : b.origin with
  | lazy template =>
      rw [bind, horigin] at h
      obtain ⟨-, bytes, rfl⟩ := addLazy_eq_ok store h
      simp [Binding.lazyIdentity?, horigin, LazyBinding.identity, LazyBinding.new]
  | _ =>
      obtain ⟨-, ⟨value, rfl⟩ | ⟨template, bytes, hlazy, -⟩⟩ := bind_cases store fetcher h
      · simp [Binding.lazyIdentity?, horigin]
      · rw [horigin] at hlazy
        cases hlazy

theorem foldlM_identity {bindings : List Binding} {ctx ctx' : Context} {s s' : σ}
    (h : outcome (bindings.foldlM (bind store fetcher) ctx) s = (.ok ctx', s')) :
    ctx'.lazies.map LazyBinding.identity
      = ctx.lazies.map LazyBinding.identity ++ bindings.filterMap Binding.lazyIdentity? := by
  induction bindings generalizing ctx s with
  | nil =>
      cases h
      rw [List.filterMap_nil, List.append_nil]
  | cons b rest ih =>
      rw [List.foldlM_cons] at h
      obtain ⟨ctx₁, s₁, hbind, hrest⟩ := outcome_bind_eq_ok h
      rw [ih hrest, bind_identity hbind, List.append_assoc]
      cases hb : b.lazyIdentity? with
      | none => rw [List.filterMap_cons_none hb, Option.toList_none, List.nil_append]
      | some identity => rw [List.filterMap_cons_some hb, Option.toList_some, List.singleton_append]

theorem ofDocument_identity {doc : Document} {s s' : σ} {ctx : Context}
    (h : outcome (ofDocument store fetcher doc) s = (.ok ctx, s')) :
    ctx.lazies.map LazyBinding.identity = doc.bindings.filterMap Binding.lazyIdentity? :=
  foldlM_identity h

theorem Asks.lawful {w w' : Context × σ} (h : Asks fetcher w w') (hw : w.1.Lawful) :
    w'.1.Lawful ∧ w'.1.lazies.map LazyBinding.identity = w.1.lazies.map LazyBinding.identity := by
  cases h with
  | @ask ctx s b scope url key hlazy hexpand hcache htried =>
      have hb : b ∈ ctx.lazies := mem_of_lazy? hlazy
      refine ⟨⟨?_, fun {a} ha => ?_⟩, ?_⟩
      · rw [update_names]
        exact hw.nodup
      · obtain ⟨c, hc, rfl⟩ := List.mem_map.1 ha
        split
        · exact (hw.lawful hb).learn _ _
        · exact hw.lawful hc
      · rw [update, List.map_map]
        refine List.map_congr_left fun a ha => ?_
        simp only [Function.comp_apply]
        split
        · rename_i hname
          rw [LazyBinding.learn_name, beq_iff_eq] at hname
          rw [LazyBinding.learn_identity, List.inj_on_of_nodup_map hw.nodup ha hb hname]
        · rfl

theorem lawful_of_requests {w w' : Context × σ} (h : Relation.ReflTransGen (Asks fetcher) w w')
    (hw : w.1.Lawful) :
    w'.1.Lawful ∧ w'.1.lazies.map LazyBinding.identity = w.1.lazies.map LazyBinding.identity := by
  induction h with
  | refl => exact ⟨hw, rfl⟩
  | tail _ hstep ih =>
      obtain ⟨hlawful, hsame⟩ := hstep.lawful ih.1
      exact ⟨hlawful, hsame.trans ih.2⟩

end Context

end StaticPage
