import StaticPage.Proofs.Evaluation.Caches
import StaticPage.Proofs.Files.Rewrites
import StaticPage.Proofs.Files.Trails
import StaticPage.Proofs.Http.Exchanges
import StaticPage.Proofs.Http.Openings

/-!
# Binding again without a network

Whatever a server answers, a binding that has got a value has left the bytes of it in the file of its
target, `bind_leaves`. If every request fails, it is given what this file holds, `bind_rebinds`.
-/

namespace StaticPage

open Context FileTree

/-- Answers none of which brings a page, nor says that one has not changed. -/
def Answers.Fail (answers : Answers) : Prop :=
  ∀ moment request answer, answers moment request = .ok answer →
    answer.status ≠ 304 ∧ (answer.status = 200 → ∃ cause, answer.body = .error cause)

variable {answers : Answers} {d : DataDirectory} {target url : String} {w w' : World} {bytes : ByteArray}

namespace HttpFetcher

/-- A fetch changes the file of its target only, and the bytes that it brings are there. -/
theorem fetch_leaves {r : Except FetchFault ByteArray}
    (h : after ((answers.fetcher d).fetch target url) w = (r, w')) :
    Evolves [placeOf w.tree.here (d.pathOf target)] w.tree w'.tree ∧
      ∀ bytes, r = .ok bytes → w'.tree.read (d.pathOf target) = .ok bytes := by
  cases exchange_of_fetch h with
  | failed hw =>
      refine ⟨?_, fun bytes hr => by cases hr⟩
      rcases hw with rfl | rfl
      · exact .refl _ _
      · exact .refl _ _
  | @changed u answer body saved _ hurl hanswer hstatus hbody hsave =>
      obtain ⟨t, rfl, hevolves, hplaced⟩ := evolves_writeDeep hsave
      refine ⟨hevolves, fun bytes hr => ?_⟩
      cases saved with
      | error fault => cases hr
      | ok kept =>
          cases hr
          exact (hplaced rfl).read
  | unchanged hurl hanswer hstatus hload =>
      refine ⟨.refl _ _, fun bytes hr => ?_⟩
      cases hr
      exact DataDirectory.holds_iff.1 hload

variable (hfail : answers.Fail)

include hfail

theorem fetch_fails (d : DataDirectory) (target url : String) (w : World) :
    ∃ cause w', after ((answers.fetcher d).fetch target url) w = (.error cause, w') ∧
      w'.tree = w.tree := by
  rcases hfetch : after ((answers.fetcher d).fetch target url) w with ⟨r, w'⟩
  cases exchange_of_fetch hfetch with
  | @failed cause _ hw =>
      refine ⟨cause, w', rfl, ?_⟩
      rcases hw with rfl | rfl <;> rfl
  | changed hurl hanswer hstatus hbody hsave =>
      obtain ⟨cause, hlost⟩ := (hfail _ _ _ hanswer).2 hstatus
      rw [hbody] at hlost
      cases hlost
  | unchanged hurl hanswer hstatus hload => exact absurd hstatus (hfail _ _ _ hanswer).1

theorem fetchUncached_fails {r : Except FetchFault ByteArray}
    (h : after ((answers.fetcher d).fetchUncached url) w = (r, w')) : ∃ cause, r = .error cause := by
  obtain ⟨-, hfault | ⟨u, answer, body, -, hanswer, hstatus, hbody, -⟩⟩ := fetchUncached_cases h
  · exact hfault
  · obtain ⟨cause, hlost⟩ := (hfail _ _ _ hanswer).2 hstatus
    rw [hbody] at hlost
    cases hlost

end HttpFetcher

/-! ### One binding -/

section

variable {ctx ctx' : Context} {b : Binding} {v : World} {value : Json.Value}

theorem eagerBytes_leaves
    (h : outcome (eagerBytes (answers.fetcher d).store (answers.fetcher d).fetcher b url) w
      = (.ok bytes, w')) :
    Evolves [placeOf w.tree.here (d.pathOf b.target)] w.tree w'.tree ∧
      w'.tree.read (d.pathOf b.target) = .ok bytes := by
  obtain ⟨r, w₁, hfetch, h⟩ := outcome_bind_eq_ok h
  obtain ⟨hevolves, hread⟩ := HttpFetcher.fetch_leaves (outcome_lift_eq_ok.1 hfetch)
  cases r with
  | ok fetched =>
      cases h
      exact ⟨hevolves, hread _ rfl⟩
  | error cause =>
      obtain ⟨loaded, w₂, hload, h⟩ := outcome_bind_eq_ok h
      obtain ⟨rfl, hread⟩ := DataDirectory.read_of_load (outcome_lift_eq_ok.1 hload)
      rcases loaded with fault | _ | stored
      · cases h
      · cases h
      · obtain ⟨⟨⟩, w₃, hwarn, h⟩ := outcome_bind_eq_ok h
        cases hwarn
        cases h
        exact ⟨hevolves, hread _ rfl⟩

theorem manualBytes_leaves
    (h : outcome (manualBytes (answers.fetcher d).store b) w = (.ok bytes, w')) :
    w' = w ∧ w.tree.read (d.pathOf b.target) = .ok bytes := by
  obtain ⟨loaded, w₁, hload, h⟩ := outcome_bind_eq_ok h
  obtain ⟨rfl, hread⟩ := DataDirectory.read_of_load (outcome_lift_eq_ok.1 hload)
  rcases loaded with fault | _ | stored
  · cases h
  · cases h
  · cases h
    exact ⟨rfl, hread _ rfl⟩

theorem decode_eq_ok_iff : decode b bytes = .ok value ↔ Json.parse bytes = .ok value := by
  unfold decode
  cases Json.parse bytes <;> simp [Except.mapError]

def give (ctx : Context) (b : Binding) (bytes : ByteArray) : ExceptT Failure (StateM World) Context := do
  let value ← decode b bytes
  ctx.insert b.name value

theorem give_eq_ok_iff : outcome (give ctx b bytes) w = (.ok ctx', w') ↔
    ctx.isTaken b.name = false ∧ w' = w ∧ ∃ value, Json.parse bytes = .ok value ∧
      ctx' = { ctx with values := ctx.values ++ [(b.name, value)] } := by
  constructor
  · intro h
    obtain ⟨value, w₁, hdecode, hinsert⟩ := outcome_bind_eq_ok h
    rw [outcome_except, Prod.mk.injEq] at hdecode hinsert
    obtain ⟨hfree, rfl⟩ := insert_eq_ok hinsert.1
    exact ⟨hfree, hinsert.2.symm.trans hdecode.2.symm, value, decode_eq_ok_iff.1 hdecode.1, rfl⟩
  · rintro ⟨hfree, rfl, value, hparse, rfl⟩
    rw [give, outcome_bind, outcome_except, decode_eq_ok_iff.2 hparse]
    dsimp only
    rw [outcome_except, Context.insert, if_neg (by simp [hfree])]

/-- What a binding that was made has left: the value of the bytes in the file of its target, or a lazy
binding and the files as they were. -/
theorem bind_leaves
    (h : outcome (Context.bind (answers.fetcher d).store (answers.fetcher d).fetcher ctx b) w
      = (.ok ctx', w')) :
    ctx.isTaken b.name = false ∧ Evolves [placeOf w.tree.here (d.pathOf b.target)] w.tree w'.tree ∧
      ((∃ bytes value, b.isLazy = false ∧ w'.tree.read (d.pathOf b.target) = .ok bytes ∧
          Json.parse bytes = .ok value ∧
          ctx' = { ctx with values := ctx.values ++ [(b.name, value)] }) ∨
        ∃ template a, b.origin = .lazy template ∧ a.identity = (b.name, b.target, .parse template) ∧
          ctx' = { ctx with lazies := ctx.lazies ++ [a] }) := by
  have hbind := bind_cases _ _ h
  unfold Context.bind at h
  refine ⟨hbind.1, ?_⟩
  cases horigin : b.origin with
  | eager url =>
      rw [horigin] at h
      obtain ⟨bytes, w₁, hbytes, hgive⟩ := outcome_bind_eq_ok h
      obtain ⟨hevolves, hread⟩ := eagerBytes_leaves hbytes
      obtain ⟨-, rfl, value, hparse, rfl⟩ := give_eq_ok_iff.1 hgive
      exact ⟨hevolves, .inl ⟨bytes, value, by simp [Binding.isLazy, horigin], hread, hparse, rfl⟩⟩
  | lazy template =>
      rw [horigin] at h
      obtain ⟨hstill, -⟩ := addLazy_still hbind.1 h
      obtain ⟨-, loaded, rfl⟩ := addLazy_eq_ok _ h
      rw [hstill.tree]
      exact ⟨.refl _ _, .inr ⟨template, _, rfl, by simp [LazyBinding.identity, LazyBinding.new], rfl⟩⟩
  | manual =>
      rw [horigin] at h
      obtain ⟨bytes, w₁, hbytes, hgive⟩ := outcome_bind_eq_ok h
      obtain ⟨rfl, hread⟩ := manualBytes_leaves hbytes
      obtain ⟨-, rfl, value, hparse, rfl⟩ := give_eq_ok_iff.1 hgive
      exact ⟨.refl _ _, .inl ⟨bytes, value, by simp [Binding.isLazy, horigin], hread, hparse, rfl⟩⟩

theorem eagerBytes_fallsBack (hfail : answers.Fail) (url : String)
    (hread : v.tree.read (d.pathOf b.target) = .ok bytes) :
    ∃ v', outcome (eagerBytes (answers.fetcher d).store (answers.fetcher d).fetcher b url) v = (.ok bytes, v') ∧
      v'.tree = v.tree := by
  obtain ⟨cause, v₁, hfetch, htree⟩ := HttpFetcher.fetch_fails hfail d b.target url v
  rw [← htree] at hread
  have hload : after ((answers.fetcher d).store.load b.target) v₁ = (.ok (some bytes), v₁) :=
    DataDirectory.load_of_read hread
  refine ⟨{ v₁ with warnings := v₁.warnings ++ [.storedCopyUsed b.name] }, ?_, htree⟩
  unfold eagerBytes
  change after ((answers.fetcher d).fetcher.fetch b.target url) v = _ at hfetch
  rw [outcome_bind, outcome_lift_eq_ok.2 hfetch]
  dsimp only
  rw [outcome_bind, outcome_lift_eq_ok.2 hload]
  rfl

theorem manualBytes_of_read (hread : v.tree.read (d.pathOf b.target) = .ok bytes) :
    outcome (manualBytes (answers.fetcher d).store b) v = (.ok bytes, v) := by
  have hload : after ((answers.fetcher d).store.load b.target) v = (.ok (some bytes), v) :=
    DataDirectory.load_of_read hread
  unfold manualBytes
  rw [outcome_bind, outcome_lift_eq_ok.2 hload]
  rfl

/-- If every request fails, a binding is given the value of the bytes in the file of its target. -/
theorem bind_rebinds (hfail : answers.Fail) (hlazy : b.isLazy = false)
    (hfree : ctx.isTaken b.name = false) (hread : v.tree.read (d.pathOf b.target) = .ok bytes)
    (hparse : Json.parse bytes = .ok value) :
    ∃ v', outcome (Context.bind (answers.fetcher d).store (answers.fetcher d).fetcher ctx b) v
        = (.ok { ctx with values := ctx.values ++ [(b.name, value)] }, v') ∧ v'.tree = v.tree := by
  have hgive (v : World) : outcome (give ctx b bytes) v
      = (.ok { ctx with values := ctx.values ++ [(b.name, value)] }, v) :=
    give_eq_ok_iff.2 ⟨hfree, rfl, value, hparse, rfl⟩
  unfold Context.bind
  cases horigin : b.origin with
  | eager url =>
      obtain ⟨v', hbytes, htree⟩ := eagerBytes_fallsBack hfail url hread
      refine ⟨v', ?_, htree⟩
      dsimp only
      rw [outcome_bind, hbytes]
      exact hgive v'
  | lazy template => simp [Binding.isLazy, horigin] at hlazy
  | manual =>
      refine ⟨v, ?_, rfl⟩
      dsimp only
      rw [outcome_bind, manualBytes_of_read hread]
      exact hgive v

/-- A lazy binding takes up the cache that is kept in the file of its target. -/
theorem bind_recalls {template : String} (horigin : b.origin = .lazy template)
    (hfree : ctx.isTaken b.name = false) {a : LazyBinding} (ha : a.Lawful)
    (htame : ∀ e ∈ a.cache, Json.Tame 126 e.2)
    (hread : v.tree.read (d.pathOf b.target) = .ok a.persisted) :
    outcome (Context.bind (answers.fetcher d).store (answers.fetcher d).fetcher ctx b) v
      = (.ok { ctx with lazies := ctx.lazies ++
          [{ LazyBinding.new b.name b.target template with cache := a.cache }] }, v) := by
  unfold Context.bind
  rw [horigin]
  exact outcome_addLazy _ template hfree (DataDirectory.load_of_read hread)
    (LazyBinding.withPersisted_persisted _ ha htame)

end

/-! ### All bindings -/

/-- A context as it is made with the caches of a later one: nothing is tried yet. -/
def Context.recalling (later ctx : Context) : Context where
  values := ctx.values
  lazies := ctx.lazies.map fun a =>
    { a with cache := (later.lazy? a.name).elim [] (·.cache), attempted := [] }

variable {ctx ctx' later : Context} {bindings : List Binding} {v : World}

theorem lazy?_recalling (later ctx : Context) (name : String) : (later.recalling ctx).lazy? name
    = (ctx.lazy? name).map fun a =>
        { a with cache := (later.lazy? a.name).elim [] (·.cache), attempted := [] } := by
  rw [lazy?, recalling, List.find?_map]
  rfl

theorem isTaken_recalling (later ctx : Context) (name : String) :
    (later.recalling ctx).isTaken name = ctx.isTaken name := by
  rw [isTaken, isTaken, lazy?_recalling, Option.isSome_map]
  rfl

/-- What making a context has left. -/
theorem foldlM_leaves
    (h : outcome (bindings.foldlM (Context.bind (answers.fetcher d).store (answers.fetcher d).fetcher) ctx)
      w = (.ok ctx', w')) :
    Evolves (bindings.map fun b => placeOf w.tree.here (d.pathOf b.target)) w.tree w'.tree := by
  induction bindings generalizing ctx w with
  | nil =>
      cases h
      exact .refl _ _
  | cons b rest ih =>
      rw [List.foldlM_cons] at h
      obtain ⟨ctx₁, w₁, hbind, hrest⟩ := outcome_bind_eq_ok h
      obtain ⟨-, hevolves, -⟩ := bind_leaves hbind
      have hlater := ih hrest
      rw [hevolves.here] at hlater
      exact (hevolves.mono (by simp)).trans (hlater.mono (by simp))

/-- If every request fails, a context is made again from the files that another one has left: with the same
values, and with the caches that were kept. -/
theorem foldlM_rebinds {offline : Answers} (hfail : offline.Fail)
    (h : outcome (bindings.foldlM (Context.bind (answers.fetcher d).store (answers.fetcher d).fetcher) ctx)
      w = (.ok ctx', w'))
    (hplaces : (bindings.map fun b => placeOf w.tree.here (d.pathOf b.target)).Nodup)
    (hfiles : ∀ b ∈ bindings, b.isLazy = false → ∀ bytes, w'.tree.read (d.pathOf b.target) = .ok bytes →
      v.tree.read (d.pathOf b.target) = .ok bytes)
    (hkept : ∀ b ∈ bindings, ∀ template, b.origin = .lazy template → ∃ a, later.lazy? b.name = some a ∧
      a.Lawful ∧ (∀ e ∈ a.cache, Json.Tame 126 e.2) ∧
      v.tree.read (d.pathOf b.target) = .ok a.persisted) :
    ∃ v', outcome (bindings.foldlM
        (Context.bind (offline.fetcher d).store (offline.fetcher d).fetcher) (later.recalling ctx)) v
      = (.ok (later.recalling ctx'), v') ∧ v'.tree = v.tree := by
  induction bindings generalizing ctx w v with
  | nil =>
      cases h
      exact ⟨v, rfl, rfl⟩
  | cons b rest ih =>
      rw [List.foldlM_cons] at h
      obtain ⟨ctx₁, w₁, hbind, hrest⟩ := outcome_bind_eq_ok h
      obtain ⟨hfree, hevolves, hleft⟩ := bind_leaves hbind
      rw [← isTaken_recalling later] at hfree
      rw [List.map_cons, List.nodup_cons] at hplaces
      rw [List.forall_mem_cons] at hfiles hkept
      have hlater := foldlM_leaves hrest
      rw [hevolves.here] at hlater
      -- The same binding in the second run, from the file that the others have left alone.
      obtain ⟨v₁, hagain, htree⟩ : ∃ v₁, outcome (Context.bind (offline.fetcher d).store
          (offline.fetcher d).fetcher (later.recalling ctx) b) v
            = (.ok (later.recalling ctx₁), v₁) ∧ v₁.tree = v.tree := by
        rcases hleft with ⟨bytes, value, hlazy, hread, hparse, rfl⟩ | ⟨template, a, horigin, hidentity, rfl⟩
        · have hread' : w'.tree.read (d.pathOf b.target) = .ok bytes := by
            refine hlater.read_eq_ok hread ?_
            rw [hevolves.here]
            exact hplaces.1
          exact bind_rebinds hfail hlazy hfree (hfiles.1 hlazy bytes hread') hparse
        · obtain ⟨c, hc, hlawful, htame, hread⟩ := hkept.1 template horigin
          refine ⟨v, ?_, rfl⟩
          obtain ⟨hname, htarget, htemplate⟩ : a.name = b.name ∧ a.target = b.target ∧
              a.template = .parse template := by simpa [LazyBinding.identity] using hidentity
          rw [bind_recalls horigin hfree hlawful htame hread]
          simp [recalling, LazyBinding.new, hname, htarget, htemplate, hc]
      rw [← hevolves.here] at hplaces
      obtain ⟨v', hothers, htree'⟩ := ih hrest hplaces.2
        (fun b hb hlazy bytes hread => htree ▸ hfiles.2 b hb hlazy bytes hread)
        (fun b hb template horigin => htree ▸ hkept.2 b hb template horigin) (v := v₁)
      refine ⟨v', ?_, htree'.trans htree⟩
      rw [List.foldlM_cons, outcome_bind, hagain]
      exact hothers

end StaticPage
