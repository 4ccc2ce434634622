import StaticPage.Proofs.Http.Runs

/-!
# Eager bindings in every run

What a run finds is what the runs before it have left, so that eager bindings are right in every run if
each run leaves a world that `Rests`: the validators in their file are backed by the files of the eager
bindings. A run that goes to its end leaves the validators that it has used, which are backed by then. One
that does not leaves those that it has found, and these stay backed only if the server never returns to a
validator that it has given up.

Bindings that share a URL must share a target as well, and the other way around. Of two that share only a
URL, the second may be told that nothing has changed, and has no file to take that from; of two that share
only a target, one is given what was kept for the other.
-/

namespace StaticPage

open Context FileTree Relation

variable {doc : Document} {server : Server} {d : DataDirectory} {here place : List String}
  {w w' : World} {ctx ctx' : Context} {v v' : Validators}

/-! ### Worlds between runs -/

/-- A world in which a fetcher finds validators that are backed: those in the file, or none. -/
structure Rests (doc : Document) (server : Server) (d : DataDirectory) (here place : List String)
    (v : Validators) (w : World) : Prop where
  coherent : Coherent doc server d here place v w
  kept : w.tree.at? (place ++ [validatorsFile]) = some (.file v.encode) ∨
    v = .empty ∧ w.tree.at? (place ++ [validatorsFile]) = none

theorem rests_of_empty (hstands : d.StandsAt w.tree place) (hhere : w.tree.here = here)
    (hempty : ∀ name, w.tree.at? (place ++ [name]) = none) :
    Rests doc server d here place .empty w where
  coherent := {
    stands := hstands
    here := hhere
    free := fun {b url} _ _ => by
      rw [Bool.eq_false_iff]
      intro hdir
      have hat := isDirectoryAt_iff.1 hdir
      rw [hempty] at hat
      cases hat
    distinct := Validators.distinct_empty
    backed := fun _ _ _ hfind => by cases hfind }
  kept := .inr ⟨rfl, hempty validatorsFile⟩

theorem Rests.of_at? (h : Rests doc server d here place v w)
    (hcoherent : Coherent doc server d here place v w')
    (hfile : w'.tree.at? (place ++ [validatorsFile]) = w.tree.at? (place ++ [validatorsFile])) :
    Rests doc server d here place v w' := by
  refine ⟨hcoherent, ?_⟩
  rw [hfile]
  exact h.kept

theorem Rests.elsewhere (h : Rests doc server d here place v w) (he : Elsewhere d place w w') :
    Rests doc server d here place v w' :=
  h.of_at? (h.coherent.elsewhere he) (he.files validatorsFile)

theorem Rests.advances (hdoc : doc.Separate d here place) (hreturns : server.NeverReturns)
    (h : Rests doc server d here place v w) (hchain : ReflTransGen (Advances doc server place) w w') :
    Rests doc server d here place v w' :=
  h.of_at? (h.coherent.advances_kept hdoc hreturns hchain) (at?_validatorsFile_of_advances hdoc hchain)

theorem Coherent.congr (h : Coherent doc server d here place v w) (hdistinct : v'.Distinct)
    (hfind : ∀ url, v'.find? url = v.find? url) : Coherent doc server d here place v' w where
  stands := h.stands
  here := h.here
  free := h.free
  distinct := hdistinct
  backed hb horigin hurl hknown := h.backed hb horigin hurl ((hfind _).symm.trans hknown)

theorem Rests.start (answers : Answers) (hname : d.Accepts validatorsFile)
    (h : Rests doc server d here place v w) :
    ∃ u, after (answers.fetcher d).start w = (.ok (), { w with validators := u }) ∧
      Coherent doc server d here place u { w with validators := u } := by
  have hquiet (u : Validators) : Coherent doc server d here place v { w with validators := u } :=
    h.coherent.quiet rfl (Nat.le_refl _)
  obtain hfile | ⟨rfl, hnone⟩ := h.kept
  · have hdistinct := h.coherent.distinct
    exact ⟨v.sorted, HttpFetcher.start_of_file h.coherent.stands hname hdistinct hfile,
      (hquiet v.sorted).congr hdistinct.sorted (Validators.find?_sorted hdistinct)⟩
  · exact ⟨.empty, HttpFetcher.start_of_none h.coherent.stands hname hnone, hquiet .empty⟩

theorem exists_of_context_eq_ok {f : HttpFetcher (StateM World)}
    (h : outcome (f.context doc) w = (.ok ctx, w')) :
    ∃ w₀, outcome (ofDocument f.store f.fetcher doc) w₀ = (.ok ctx, w') := by
  obtain ⟨started, w₀, -, h⟩ := outcome_bind_eq_ok h
  cases started with
  | error cause => cases h
  | ok _ => exact ⟨w₀, h⟩

theorem Rests.context (hdoc : doc.Separate d here place) (hserves : server.Serves doc)
    (h : Rests doc server d here place v w) {r : Except Failure Context}
    (hcontext : outcome ((server.answers.fetcher d).context doc) w = (r, w')) :
    ∃ u, Coherent doc server d here place u { w with validators := u } ∧
      ReflTransGen (Advances doc server place) { w with validators := u } w' ∧
      Opened server place doc.bindings w.sent w'.tree r := by
  obtain ⟨u, hstart, hcoherent⟩ := h.start server.answers hdoc.validators
  unfold HttpFetcher.context at hcontext
  rw [outcome_bind, outcome_lift_eq_ok.2 hstart] at hcontext
  obtain ⟨hchain, hopened, -⟩ := foldlM_bind hdoc hserves (List.Subset.refl _) hdoc.names
    (fun b _ => rfl) hcoherent hcontext
  exact ⟨u, hcoherent, hchain, hopened⟩

/-! ### Histories -/

/-- What may happen in the history of a data directory: something elsewhere, a run that goes to its end, or,
if the server never returns to a validator, a run that fails or stops before its end. -/
inductive Passes (doc : Document) (server : Server) (d : DataDirectory) (place : List String) :
    World → World → Prop where
  | elsewhere {w w' : World} (h : Elsewhere d place w w') : Passes doc server d place w w'
  | ended {w w₁ w₂ w' : World} {ctx ctx' : Context}
      (hcontext : outcome ((server.answers.fetcher d).context doc) w = (.ok ctx, w₁))
      (hgoes : ReflTransGen (Goes (server.answers.fetcher d) place) (ctx, w₁) (ctx', w₂))
      (hkeep : outcome ((server.answers.fetcher d).keep ctx') w₂ = (.ok (), w')) :
      Passes doc server d place w w'
  | failed {w w' : World} {failure : Failure} (hreturns : server.NeverReturns)
      (hcontext : outcome ((server.answers.fetcher d).context doc) w = (.error failure, w')) :
      Passes doc server d place w w'
  | stopped {w w₁ w' : World} {ctx ctx' : Context} (hreturns : server.NeverReturns)
      (hcontext : outcome ((server.answers.fetcher d).context doc) w = (.ok ctx, w₁))
      (hgoes : ReflTransGen (Goes (server.answers.fetcher d) place) (ctx, w₁) (ctx', w')) :
      Passes doc server d place w w'

/-- What was learnt is kept without touching the files of eager bindings. -/
theorem Coherent.keep (hdoc : doc.Separate d here place)
    (h : Coherent doc server d here place w.validators w) (hfilled : Filled doc.bindings place w.tree)
    (hlazies : LaziesOf doc ctx)
    (hkeep : outcome ((server.answers.fetcher d).keep ctx) w = (.ok (), w')) :
    Rests doc server d here place w.validators w' := by
  obtain ⟨t, rfl, hkeeps, hfile⟩ := keepsBut_keep h.stands hdoc.validators hkeep
  have hfiles : ∀ b ∈ doc.bindings, ∀ url, b.origin = .eager url → ∃ bytes,
      w.tree.at? (place ++ [b.target]) = some (.file bytes) ∧
        t.at? (place ++ [b.target]) = some (.file bytes) := by
    intro b hb url horigin
    obtain ⟨bytes, hat⟩ := hfilled b hb (Binding.isEager_iff.2 ⟨url, horigin⟩)
    refine ⟨bytes, hat, hkeeps.keeps ?_ hat⟩
    rw [List.mem_append, not_or]
    refine ⟨fun hmem => ?_, ?_⟩
    · obtain ⟨a, ha, hplace⟩ := List.mem_map.1 hmem
      obtain ⟨c, hc, ⟨template, horigin'⟩, htarget⟩ := hlazies a ha
      rw [htarget, h.here] at hplace
      exact hdoc.lazies hb hc horigin horigin' hplace
    · simpa using (hdoc.target hb horigin).2
  refine ⟨⟨h.stands.keeps hkeeps, hkeeps.here.trans h.here, fun {b url} hb horigin => ?_, h.distinct,
    fun {b url u etag} hb horigin hurl hknown => ?_⟩, .inl hfile⟩
  · obtain ⟨bytes, -, hat⟩ := hfiles b hb url horigin
    rw [Bool.eq_false_iff]
    intro hdir
    rw [isDirectoryAt_iff, hat] at hdir
    cases hdir
  · obtain ⟨bytes, hat, hat'⟩ := hfiles b hb url horigin
    exact (h.backed hb horigin hurl hknown).later (hat'.trans hat.symm) (Nat.le_refl _)

/-- Making a context leaves the validators in their file backed, if the server does not return to any. -/
theorem Rests.opened (hdoc : doc.Separate d here place) (hserves : server.Serves doc)
    (hreturns : server.NeverReturns) (h : Rests doc server d here place v w) {r : Except Failure Context}
    (hcontext : outcome ((server.answers.fetcher d).context doc) w = (r, w')) :
    Rests doc server d here place v w' := by
  obtain ⟨u, -, hchain, -⟩ := h.context hdoc hserves hcontext
  have hstarted : Rests doc server d here place v { w with validators := u } :=
    h.of_at? (h.coherent.quiet rfl (Nat.le_refl _)) rfl
  exact hstarted.advances hdoc hreturns hchain

/-- A run that goes to its end leaves the validators that it has used in their file, and they are backed. -/
theorem Rests.ended (hdoc : doc.Separate d here place) (hserves : server.Serves doc)
    (h : Rests doc server d here place v w) {w₁ w₂ : World}
    (hcontext : outcome ((server.answers.fetcher d).context doc) w = (.ok ctx, w₁))
    (hgoes : ReflTransGen (Goes (server.answers.fetcher d) place) (ctx, w₁) (ctx', w₂))
    (hkeep : outcome ((server.answers.fetcher d).keep ctx') w₂ = (.ok (), w')) :
    Rests doc server d here place w₂.validators w' := by
  obtain ⟨u, hcoherent, hchain, -, hfilled⟩ := h.context hdoc hserves hcontext
  obtain ⟨helsewhere, hlazies⟩ := follows_of_goes doc hgoes
  -- The validators in use are backed from the start of the run, whatever those in the file become.
  have hmade : Coherent doc server d here place w₁.validators w₁ := hcoherent.advances hdoc hchain
  have hcalled : Coherent doc server d here place w₂.validators w₂ := by
    rw [helsewhere.validators]
    exact hmade.elsewhere helsewhere
  refine hcalled.keep hdoc (fun b hb heager => ?_) (hlazies ?_) hkeep
  · obtain ⟨bytes, hat⟩ := hfilled b hb heager
    exact ⟨bytes, (helsewhere.files b.target).trans hat⟩
  · obtain ⟨w₀, hmaking⟩ := exists_of_context_eq_ok hcontext
    exact laziesOf_ofDocument hmaking

/-- Whatever happens in the history of a data directory, its world is at rest again. -/
theorem Rests.passes (hdoc : doc.Separate d here place) (hserves : server.Serves doc)
    (h : Rests doc server d here place v w) (hpasses : Passes doc server d place w w') :
    ∃ v', Rests doc server d here place v' w' := by
  cases hpasses with
  | elsewhere he => exact ⟨v, h.elsewhere he⟩
  | ended hcontext hgoes hkeep => exact ⟨_, h.ended hdoc hserves hcontext hgoes hkeep⟩
  | failed hreturns hcontext => exact ⟨v, h.opened hdoc hserves hreturns hcontext⟩
  | stopped hreturns hcontext hgoes =>
      have hmade := h.opened hdoc hserves hreturns hcontext
      exact ⟨v, hmade.elsewhere (follows_of_goes doc hgoes).elsewhere⟩

/-- If all bindings are eager, a run goes to its end. -/
theorem Rests.exists_ended (hdoc : doc.Separate d here place) (hserves : server.Serves doc)
    (h : Rests doc server d here place v w) (heager : ∀ b ∈ doc.bindings, b.isEager = true) :
    ∃ ctx w₁ w', outcome ((server.answers.fetcher d).context doc) w = (.ok ctx, w₁) ∧
      outcome ((server.answers.fetcher d).keep ctx) w₁ = (.ok (), w') := by
  rcases hcontext : outcome ((server.answers.fetcher d).context doc) w with ⟨failure | ctx, w₁⟩
  · obtain ⟨-, -, -, b, hb, hother, -⟩ := h.context hdoc hserves hcontext
    rw [heager b hb] at hother
    cases hother
  · obtain ⟨u, hcoherent, hchain, -⟩ := h.context hdoc hserves hcontext
    have hmade := hcoherent.advances hdoc hchain
    have hlazies : ctx.lazies = [] := by
      rw [List.eq_nil_iff_forall_not_mem]
      intro a ha
      obtain ⟨w₀, hmaking⟩ := exists_of_context_eq_ok hcontext
      obtain ⟨b, hb, ⟨template, horigin⟩, -⟩ := laziesOf_ofDocument hmaking a ha
      obtain ⟨url, horigin'⟩ := Binding.isEager_iff.1 (heager b hb)
      rw [horigin] at horigin'
      cases horigin'
    have hfile : w₁.tree.at? (place ++ [validatorsFile]) = w.tree.at? (place ++ [validatorsFile]) := by
      have hsame := at?_validatorsFile_of_advances hdoc hchain
      exact hsame
    have hdir : w₁.tree.isDirectoryAt (place ++ [validatorsFile]) = false := by
      rw [Bool.eq_false_iff]
      intro hdir
      rw [isDirectoryAt_iff, hfile] at hdir
      rcases h.kept with hkept | ⟨-, hkept⟩
      · rw [hkept] at hdir
        cases hdir
      · rw [hkept] at hdir
        cases hdir
    have hsave : after (server.answers.fetcher d).fetcher.persist w₁ = (.ok (),
        withTree w₁ (w₁.tree.put (place ++ [validatorsFile]) (.file w₁.validators.encode))) :=
      DataDirectory.save_name (s := w₁) hmade.stands hdoc.validators hdir w₁.validators.encode
    refine ⟨ctx, w₁,
      withTree w₁ (w₁.tree.put (place ++ [validatorsFile]) (.file w₁.validators.encode)), rfl, ?_⟩
    have hpersist : outcome (ctx.persist (server.answers.fetcher d).store) w₁ = (.ok (), w₁) := by
      rw [Context.persist, hlazies]
      rfl
    unfold HttpFetcher.keep
    rw [outcome_bind, hpersist]
    simp only
    unfold Site.onFiles
    rw [outcome_bind, outcome_lift_eq_ok.2 hsave]
    rfl

theorem exists_rests (hdoc : doc.Separate d here place) (hserves : server.Serves doc) {w₀ : World}
    (hstands : d.StandsAt w₀.tree place) (hhere : w₀.tree.here = here)
    (hempty : ∀ name, w₀.tree.at? (place ++ [name]) = none)
    (hhistory : ReflTransGen (Passes doc server d place) w₀ w) :
    ∃ v, Rests doc server d here place v w := by
  induction hhistory with
  | refl => exact ⟨.empty, rests_of_empty hstands hhere hempty⟩
  | tail _ hpasses ih =>
      obtain ⟨v, hrests⟩ := ih
      exact hrests.passes hdoc hserves hpasses

/-- In the whole history of a data directory that was empty at first, making a context cannot fail at an
eager binding, and gives every eager binding the value that the server holds at its own URL when the binding
is fetched. -/
theorem eager_bindings_current (hdoc : doc.Separate d here place) (hserves : server.Serves doc) {w₀ : World}
    (hstands : d.StandsAt w₀.tree place) (hhere : w₀.tree.here = here)
    (hempty : ∀ name, w₀.tree.at? (place ++ [name]) = none)
    (hhistory : ReflTransGen (Passes doc server d place) w₀ w) :
    ∃ r w', outcome ((server.answers.fetcher d).context doc) w = (r, w') ∧
      Opened server place doc.bindings w.sent w'.tree r := by
  obtain ⟨v, hrests⟩ := exists_rests hdoc hserves hstands hhere hempty hhistory
  obtain ⟨u, -, -, hopened⟩ := hrests.context hdoc hserves (Prod.eta _).symm
  exact ⟨_, _, (Prod.eta _).symm, hopened⟩

/-! ### Bindings that share a URL -/

/-- Of two bindings that share a URL but no target, the second one fails if the page has not changed after
the first one: what has not changed was kept for the other target. -/
theorem bind_sharing_fails {b b' : Binding} {url etag : String} {u : Url} (hurl : Url.parse url = .ok u)
    (haddr : u.isAddressable = true) (hstands : d.StandsAt w.tree place) (htarget : d.Accepts b.target)
    (htarget' : d.Accepts b'.target) (horigin : b.origin = .eager url) (horigin' : b'.origin = .eager url)
    (hne : b'.target ≠ b.target) (hfree : ctx.isTaken b.name = false)
    (hnew : w.validators.find? url = none) (hdir : w.tree.isDirectoryAt (place ++ [b.target]) = false)
    (hfile : w.tree.at? (place ++ [b'.target]) = none) (hetag : (server.page w.sent u).etag = some etag)
    (hsame : (server.page (w.sent + 1) u).etag = some etag) {value : Json.Value}
    (hparse : Json.parse (server.page w.sent u).body = .ok value) :
    ∃ w', outcome ([b, b'].foldlM
        (Context.bind (server.answers.fetcher d).store (server.answers.fetcher d).fetcher) ctx) w
      = (.error (.fetch b'.name b'.target (.notModifiedWithoutCopy url b'.target)), w') := by
  have hfirst := HttpFetcher.fetch_changed hurl haddr hstands htarget (by simp [hnew]) (by simp [hnew])
    hetag hdir
  generalize hw₁ : w.stored (place ++ [b.target]) url etag (server.page w.sent u).body = w₁ at hfirst
  have hstands₁ : d.StandsAt w₁.tree place := by
    rw [← hw₁]
    exact hstands.keeps (keepsBut_put hdir _)
  have hknown₁ : w₁.validators.find? url = some etag := by
    rw [← hw₁]
    exact Validators.find?_set_self ..
  have hfile₁ : w₁.tree.at? (place ++ [b'.target]) = none := by
    rw [← hw₁]
    exact (at?_put_of_ne _ (by simpa using hne) _).trans hfile
  have hetag₁ : (server.page w₁.sent u).etag = some etag := by
    rw [← hw₁]
    exact hsame
  have hsecond := HttpFetcher.fetch_uncopied hurl haddr hstands₁ htarget' hknown₁ hetag₁ hfile₁
  have hload := DataDirectory.load_of_none (s := w₁.ask) hstands₁ htarget' hfile₁
  refine ⟨w₁.ask, ?_⟩
  rw [List.foldlM_cons, outcome_bind, bind_of_fetch horigin hfree hfirst hparse]
  simp only
  rw [List.foldlM_cons, outcome_bind, bind_of_fetch_error horigin' hsecond hload]

/-- Of two URLs that share a target, the one that has not changed since the other was kept is given the
other one's page. -/
theorem fetch_sharing_stale {target url other etag etag' : String} {u : Url} (hurl : Url.parse url = .ok u)
    (haddr : u.isAddressable = true) (hstands : d.StandsAt w.tree place) (htarget : d.Accepts target)
    (hne : url ≠ other) (hknown : w.validators.find? url = some etag)
    (hdir : w.tree.isDirectoryAt (place ++ [target]) = false) (body : ByteArray)
    (hsame : (server.page (w.sent + 1) u).etag = some etag) :
    ∃ w', after ((server.answers.fetcher d).fetch target url)
      (w.stored (place ++ [target]) other etag' body) = (.ok body, w') := by
  have hstands' : d.StandsAt (w.stored (place ++ [target]) other etag' body).tree place :=
    hstands.keeps (keepsBut_put hdir _)
  have hknown' : (w.stored (place ++ [target]) other etag' body).validators.find? url = some etag :=
    (Validators.find?_set_of_ne _ hne _).trans hknown
  exact ⟨_, HttpFetcher.fetch_unchanged hurl haddr hstands' htarget hknown' hsame
    (at?_put_self _ (by simp) _)⟩

/-- A server whose pages are their own validators. -/
def Server.ofTexts (text : Nat → Url → String)
    (h : ∀ moment u, Validators.IsVisible (text moment u)) : Server where
  page moment u := ⟨(text moment u).toUTF8, some (text moment u)⟩
  visible {moment u etag} hetag := by
    cases hetag
    exact h moment u
  faithful hetag hother := by
    rw [Option.some.inj (hetag.trans hother.symm)]

/-- A server that has one number at first, and another one from the second request on. -/
def Server.changing : Server :=
  .ofTexts (fun moment _ => if moment = 0 then "1" else "2") fun moment _ => by
    split
    · exact List.all_eq_true.1 rfl
    · exact List.all_eq_true.1 rfl

theorem changing_serves (doc : Document) : Server.changing.Serves doc := by
  intro b url u hb horigin hurl moment
  unfold Server.changing Server.ofTexts
  by_cases hmoment : moment = 0
  · exact ⟨"1", .number (.int 1), by simp [hmoment], by simp [hmoment]; with_unfolding_all rfl⟩
  · exact ⟨"2", .number (.int 2), by simp [hmoment], by simp [hmoment]; with_unfolding_all rfl⟩

/-- The URL `http://[::1]/a`. -/
def Url.loopback : Url :=
  ⟨.http, .ipv6 [0, 0, 0, 0, 0, 0, 0, 1], none, [['a']], none, none⟩

theorem parse_loopback : Url.parse "http://[::1]/a" = .ok Url.loopback := by
  with_unfolding_all rfl

theorem isAddressable_loopback : Url.loopback.isAddressable = true := by
  have htext : Url.loopback.host.text = ['[', ':', ':', '1', ']'] := by
    with_unfolding_all rfl
  unfold Url.isAddressable
  rw [htext]
  simp

def Document.twice (target other : String) : Document :=
  ⟨[⟨"a", target, .eager "http://[::1]/a", 1⟩, ⟨"b", other, .eager "http://[::1]/a", 2⟩], []⟩

def DataDirectory.data : DataDirectory := ⟨"data"⟩

/-- A world in which the data directory is empty, after some requests. -/
def World.empty (sent : Nat) : World := ⟨⟨[(["data"], .directory)], []⟩, .empty, sent, []⟩

theorem standsAt_empty (sent : Nat) : DataDirectory.data.StandsAt (World.empty sent).tree ["data"] :=
  ⟨by with_unfolding_all rfl, rfl⟩

theorem accepts_validatorsFile : DataDirectory.data.Accepts validatorsFile := by
  refine ⟨⟨?_, ?_, ?_, ?_⟩, ?_⟩ <;> with_unfolding_all decide

/-- Two bindings that share a URL and a target, in the second run after one in which the page has changed
between them. -/
theorem eager_bindings_current_twice :
    let doc := Document.twice "x.json" "x.json"
    let f := Server.changing.answers.fetcher .data
    ∃ ctx w₁ w, outcome (f.context doc) (.empty 0) = (.ok ctx, w₁) ∧
      outcome (f.keep ctx) w₁ = (.ok (), w) ∧
      ∃ r w', outcome (f.context doc) w = (r, w') ∧
        Opened .changing ["data"] doc.bindings w.sent w'.tree r := by
  intro doc f
  have hx : DataDirectory.data.Accepts "x.json" := by
    refine ⟨⟨?_, ?_, ?_, ?_⟩, ?_⟩ <;> with_unfolding_all decide
  have hbindings : ∀ b ∈ doc.bindings, b.origin = .eager "http://[::1]/a" ∧ b.target = "x.json" := by
    simp [doc, Document.twice]
  have hdoc : doc.Separate .data [] ["data"] := by
    refine {
      names := by simp [doc, Document.twice]
      valid := ?_
      target := ?_
      shared := ?_
      lazies := ?_
      validators := accepts_validatorsFile }
    · intro b url hb h
      rw [(hbindings b hb).1] at h
      cases h
      exact ⟨Url.loopback, parse_loopback, isAddressable_loopback⟩
    · intro b url hb h
      rw [(hbindings b hb).2]
      exact ⟨hx, by decide⟩
    · intro b b' url url' hb hb' h h'
      rw [(hbindings b hb).1] at h
      rw [(hbindings b' hb').1] at h'
      cases h
      cases h'
      simp [hbindings b hb, hbindings b' hb']
    · intro b b' url template hb hb' h h'
      rw [(hbindings b' hb').1] at h'
      cases h'
  have hserves : Server.changing.Serves doc := changing_serves doc
  have hrests : Rests doc .changing .data [] ["data"] .empty (.empty 0) :=
    rests_of_empty (standsAt_empty 0) rfl fun _ => rfl
  obtain ⟨ctx, w₁, w, hcontext, hkeep⟩ := hrests.exists_ended hdoc hserves fun b hb =>
    Binding.isEager_iff.2 ⟨_, (hbindings b hb).1⟩
  exact ⟨ctx, w₁, w, hcontext, hkeep, eager_bindings_current hdoc hserves (standsAt_empty 0) rfl
    (fun _ => rfl) (.single (.ended hcontext .refl hkeep))⟩

/-- The URL `http://[::1]/b`. -/
def Url.besides : Url :=
  { Url.loopback with path := [['b']] }

theorem parse_besides : Url.parse "http://[::1]/b" = .ok Url.besides := by
  with_unfolding_all rfl

/-- A server that has one number at `http://[::1]/a` and another one elsewhere. -/
def Server.unchanging : Server :=
  .ofTexts (fun _ u => if u = Url.loopback then "1" else "2") fun _ u => by
    split
    · exact List.all_eq_true.1 rfl
    · exact List.all_eq_true.1 rfl

/-- Two bindings that share a URL but no target: the second one fails in the first run, unless the page
changes between them. Two URLs that share a target: the first one, asked again, is given the other's page. -/
theorem shared_url_fails :
    let doc := Document.twice "a.json" "b.json"
    let d := DataDirectory.data
    Server.changing.Serves doc ∧
      Url.parse "http://[::1]/a" = .ok .loopback ∧ Url.loopback.isAddressable = true ∧
      d.Accepts "a.json" ∧ d.Accepts "b.json" ∧ d.StandsAt (World.empty 1).tree ["data"] ∧
      (∀ name, (World.empty 1).tree.at? (["data"] ++ [name]) = none) ∧
      (∃ w, outcome ((Server.changing.answers.fetcher d).context doc) (.empty 1)
        = (.error (.fetch "b" "b.json" (.notModifiedWithoutCopy "http://[::1]/a" "b.json")), w)) ∧
      let fetch := (Server.unchanging.answers.fetcher d).fetch "a.json"
      ∃ w₁ w₂ w₃, after (fetch "http://[::1]/a") (.empty 0) = (.ok "1".toUTF8, w₁) ∧
        after (fetch "http://[::1]/b") w₁ = (.ok "2".toUTF8, w₂) ∧
        after (fetch "http://[::1]/a") w₂ = (.ok "2".toUTF8, w₃) := by
  intro doc d
  have ha : DataDirectory.data.Accepts "a.json" := by
    refine ⟨⟨?_, ?_, ?_, ?_⟩, ?_⟩ <;> with_unfolding_all decide
  have hb : DataDirectory.data.Accepts "b.json" := by
    refine ⟨⟨?_, ?_, ?_, ?_⟩, ?_⟩ <;> with_unfolding_all decide
  refine ⟨changing_serves _, parse_loopback, isAddressable_loopback, ha, hb, standsAt_empty 1,
    fun _ => rfl, ?_, ?_⟩
  · have hstart : after (Server.changing.answers.fetcher DataDirectory.data).start (World.empty 1)
        = (.ok (), World.empty 1) :=
      HttpFetcher.start_of_none (standsAt_empty 1) accepts_validatorsFile rfl
    unfold HttpFetcher.context
    rw [outcome_bind, outcome_lift_eq_ok.2 hstart]
    have hetag : (Server.changing.page 1 Url.loopback).etag = some "2" := rfl
    have hsame : (Server.changing.page 2 Url.loopback).etag = some "2" := rfl
    exact bind_sharing_fails parse_loopback isAddressable_loopback (standsAt_empty 1) ha hb rfl rfl
      (by decide) rfl rfl rfl rfl hetag hsame (by with_unfolding_all rfl)
  · have hpage (moment : Nat) : (Server.unchanging.page moment .loopback).etag = some "1" := rfl
    have hother : (Server.unchanging.page 1 .besides).etag = some "2" := rfl
    have hfirst := HttpFetcher.fetch_changed (w := .empty 0) parse_loopback isAddressable_loopback
      (standsAt_empty 0) ha nofun nofun (hpage 0) rfl
    have hstands : d.StandsAt ((World.empty 0).stored ["data", "a.json"] "http://[::1]/a" "1"
        "1".toUTF8).tree ["data"] :=
      (standsAt_empty 0).keeps (keepsBut_put rfl _)
    have hsecond := HttpFetcher.fetch_changed parse_besides isAddressable_loopback hstands ha nofun nofun
      hother rfl
    have hne : "http://[::1]/a" ≠ "http://[::1]/b" := by decide
    obtain ⟨w, hthird⟩ := fetch_sharing_stale parse_loopback isAddressable_loopback hstands ha hne rfl rfl
      "2".toUTF8 (hpage 2)
    exact ⟨_, _, w, hfirst, hsecond, hthird⟩

end StaticPage
