import Mathlib.Logic.Relation
import StaticPage.Document.Basic
import StaticPage.Proofs.Http.Worlds

/-!
# Validators and files that fit each other

Validators are known by URL and files by target, and a page that has not changed is read from the file.
What makes this right is that a validator is `Backed` by the file of its target: the server has given it
out, and from now on its page has the body in the file whenever it has the validator again. `Advances` says
all that a request can do to a world, and a request keeps the validators backed if bindings share a
URL exactly when they share a target.

It keeps even the validators backed that were kept before, in a file that it does not touch, if the server
never returns to a validator that it has given up.
-/

namespace StaticPage

open FileTree Relation

/-! ### Backed validators -/

/-- The validator of a URL is backed by a file. -/
structure Backed (server : Server) (w : World) (file : List String) (u : Url) (etag : String) :
    Prop where
  seen : ∃ moment < w.sent, (server.page moment u).etag = some etag
  body : ∃ bytes, w.tree.at? file = some (.file bytes) ∧ ∀ moment, w.sent ≤ moment →
    (server.page moment u).etag = some etag → (server.page moment u).body = bytes

/-- A server that never returns to a validator that it has given up. -/
def Server.NeverReturns (server : Server) : Prop :=
  ∀ {i j k : Nat} {u : Url} {etag : String}, i ≤ j → j ≤ k → (server.page i u).etag = some etag →
    (server.page k u).etag = some etag → (server.page j u).etag = some etag

variable {server : Server} {w w' : World} {file : List String} {u : Url} {etag : String}

theorem Backed.later (h : Backed server w file u etag) (hfile : w'.tree.at? file = w.tree.at? file)
    (hsent : w.sent ≤ w'.sent) : Backed server w' file u etag := by
  obtain ⟨moment, hlt, hseen⟩ := h.seen
  obtain ⟨bytes, hat, hbody⟩ := h.body
  exact ⟨⟨moment, Nat.lt_of_lt_of_le hlt hsent, hseen⟩,
    bytes, hfile.trans hat, fun later hle => hbody later (Nat.le_trans hsent hle)⟩

theorem backed_stored (hfile : file ≠ []) (url : String)
    (hetag : (server.page w.sent u).etag = some etag) :
    Backed server (w.stored file url etag (server.page w.sent u).body) file u etag where
  seen := ⟨w.sent, Nat.lt_succ_self _, hetag⟩
  body := ⟨_, at?_put_self _ hfile _, fun _ _ hother => server.faithful hetag hother⟩

/-- If the server does not return to validators, one that was backed before another page was kept is
still backed: either it is that of the page, or it is not seen again. -/
theorem Backed.stored (hreturns : server.NeverReturns) {old : String} (h : Backed server w file u old)
    (hfile : file ≠ []) (url etag : String) :
    Backed server (w.stored file url etag (server.page w.sent u).body) file u old := by
  obtain ⟨moment, hlt, hseen⟩ := h.seen
  refine ⟨⟨moment, Nat.lt_succ_of_lt hlt, hseen⟩, _, at?_put_self _ hfile _, fun later hle hlater => ?_⟩
  have hnow := hreturns (Nat.le_of_lt hlt) (Nat.le_of_succ_le hle) hseen hlater
  exact server.faithful hnow hlater

/-! ### Bindings that do not get in each other's way -/

/-- The eager bindings of a document fetch valid URLs for plain names of the data directory, and share a
URL exactly if they share a target. The file of none of them is one that a lazy binding's target leads
to. -/
structure Document.Separate (doc : Document) (d : DataDirectory) (here place : List String) :
    Prop where
  names : (doc.bindings.map (·.name)).Nodup
  valid {b : Binding} {url : String} (hb : b ∈ doc.bindings) (h : b.origin = .eager url) :
    ∃ u, Url.parse url = .ok u ∧ u.isAddressable = true
  target {b : Binding} {url : String} (hb : b ∈ doc.bindings) (h : b.origin = .eager url) :
    d.Accepts b.target ∧ b.target ≠ validatorsFile
  shared {b b' : Binding} {url url' : String} (hb : b ∈ doc.bindings) (hb' : b' ∈ doc.bindings)
    (h : b.origin = .eager url) (h' : b'.origin = .eager url') : url = url' ↔ b.target = b'.target
  lazies {b b' : Binding} {url template : String} (hb : b ∈ doc.bindings) (hb' : b' ∈ doc.bindings)
    (h : b.origin = .eager url) (h' : b'.origin = .lazy template) :
    placeOf here (d.pathOf b'.target) ≠ place ++ [b.target]
  validators : d.Accepts validatorsFile

/-- A world in which some validators are backed by the files of the eager bindings. -/
structure Coherent (doc : Document) (server : Server) (d : DataDirectory) (here place : List String)
    (v : Validators) (w : World) : Prop where
  stands : d.StandsAt w.tree place
  here : w.tree.here = here
  free {b : Binding} {url : String} (hb : b ∈ doc.bindings) (h : b.origin = .eager url) :
    w.tree.isDirectoryAt (place ++ [b.target]) = false
  distinct : v.Distinct
  backed {b : Binding} {url : String} {u : Url} {etag : String} (hb : b ∈ doc.bindings)
    (h : b.origin = .eager url) (hurl : Url.parse url = .ok u) (hfind : v.find? url = some etag) :
    Backed server w (place ++ [b.target]) u etag

/-! ### Requests -/

/-- What a request of a run does to a world: it changes neither files nor validators, or it keeps the
changed page of an eager binding. -/
inductive Advances (doc : Document) (server : Server) (place : List String) : World → World → Prop where
  | quiet {w w' : World} (htree : w'.tree = w.tree) (hvalidators : w'.validators = w.validators)
      (hsent : w.sent ≤ w'.sent) : Advances doc server place w w'
  | keeps {w : World} {b : Binding} {url : String} {u : Url} {etag : String} (hb : b ∈ doc.bindings)
      (h : b.origin = .eager url) (hurl : Url.parse url = .ok u)
      (hetag : (server.page w.sent u).etag = some etag) : Advances doc server place w
        (w.stored (place ++ [b.target]) url etag (server.page w.sent u).body)

variable {doc : Document} {d : DataDirectory} {here place : List String} {v : Validators}

theorem Coherent.quiet (h : Coherent doc server d here place v w) (htree : w'.tree = w.tree)
    (hsent : w.sent ≤ w'.sent) : Coherent doc server d here place v w' where
  stands := by rw [htree]; exact h.stands
  here := by rw [htree]; exact h.here
  free hb horigin := by rw [htree]; exact h.free hb horigin
  distinct := h.distinct
  backed hb horigin hurl hfind := (h.backed hb horigin hurl hfind).later (by rw [htree]) hsent

/-- Keeping the changed page of a binding keeps some validators backed, if those for its own URL are. -/
theorem Coherent.stored (hdoc : doc.Separate d here place) {v' : Validators}
    (h : Coherent doc server d here place v w) {b : Binding} {url : String} (hb : b ∈ doc.bindings)
    (horigin : b.origin = .eager url) (hurl : Url.parse url = .ok u) (hdistinct : v'.Distinct)
    (hothers : ∀ other ≠ url, v'.find? other = v.find? other)
    (hown : ∀ old, v'.find? url = some old → Backed server
      (w.stored (place ++ [b.target]) url etag (server.page w.sent u).body) (place ++ [b.target]) u old) :
    Coherent doc server d here place v'
      (w.stored (place ++ [b.target]) url etag (server.page w.sent u).body) := by
  have hkeeps : KeepsBut [place ++ [b.target]] w.tree
      (w.tree.put (place ++ [b.target]) (.file (server.page w.sent u).body)) :=
    keepsBut_put (h.free hb horigin) _
  refine ⟨h.stands.keeps hkeeps, h.here, fun {b' url'} hb' horigin' => ?_, hdistinct,
    fun {b' url' u' old} hb' horigin' hurl' hfind => ?_⟩
  · by_cases htarget : b'.target = b.target
    · rw [htarget]
      exact isDirectoryAt_put_file _ (by simp) _
    · rw [← h.free hb' horigin']
      exact isDirectoryAt_put_of_ne _ (by simpa using htarget) _
  · -- The file was written only if it is that of the same URL; otherwise both it and its validator stay.
    by_cases hsame : url' = url
    · subst hsame
      rw [hurl] at hurl'
      cases hurl'
      rw [← (hdoc.shared hb hb' horigin horigin').1 rfl]
      exact hown old hfind
    · have htarget : b'.target ≠ b.target :=
        fun heq => hsame ((hdoc.shared hb' hb horigin' horigin).2 heq)
      rw [hothers url' hsame] at hfind
      exact (h.backed hb' horigin' hurl' hfind).later
        (at?_put_of_ne _ (by simpa using htarget) _) (Nat.le_succ _)

/-- Requests keep a fetcher's validators backed. -/
theorem Advances.coherent (hdoc : doc.Separate d here place) (h : Advances doc server place w w')
    (hw : Coherent doc server d here place w.validators w) :
    Coherent doc server d here place w'.validators w' := by
  cases h with
  | quiet htree hvalidators hsent =>
      rw [hvalidators]
      exact hw.quiet htree hsent
  | @keeps b url u etag hb horigin hurl hetag =>
      have hothers (other : String) (hne : other ≠ url) :
          (w.validators.set url etag).find? other = w.validators.find? other :=
        Validators.find?_set_of_ne _ hne _
      refine hw.stored hdoc hb horigin hurl (hw.distinct.set url etag) hothers fun old hfind => ?_
      have hset : (w.validators.set url etag).find? url = some old := hfind
      rw [Validators.find?_set_self] at hset
      cases hset
      exact backed_stored (by simp) url hetag

/-- Requests keep the validators backed that were kept before, if the server does not return to any. -/
theorem Advances.coherent_kept (hdoc : doc.Separate d here place) (hreturns : server.NeverReturns)
    (h : Advances doc server place w w') (hw : Coherent doc server d here place v w) :
    Coherent doc server d here place v w' := by
  cases h with
  | quiet htree hvalidators hsent => exact hw.quiet htree hsent
  | @keeps b url u etag hb horigin hurl hetag =>
      exact hw.stored hdoc hb horigin hurl hw.distinct (fun _ _ => rfl) fun old hfind =>
        (hw.backed hb horigin hurl hfind).stored hreturns (by simp) url etag

theorem Advances.at?_validatorsFile (hdoc : doc.Separate d here place)
    (h : Advances doc server place w w') :
    w'.tree.at? (place ++ [validatorsFile]) = w.tree.at? (place ++ [validatorsFile]) := by
  cases h with
  | quiet htree _ _ => rw [htree]
  | keeps hb horigin _ _ =>
      refine at?_put_of_ne _ ?_ _
      simpa using (hdoc.target hb horigin).2.symm

theorem Advances.exists_file (h : Advances doc server place w w') {bytes : ByteArray}
    (hfile : w.tree.at? file = some (.file bytes)) : ∃ bytes, w'.tree.at? file = some (.file bytes) := by
  cases h with
  | quiet htree _ _ =>
      rw [htree]
      exact ⟨bytes, hfile⟩
  | @keeps b url u etag hb horigin _ _ =>
      by_cases hsame : file = place ++ [b.target]
      · rw [hsame]
        exact ⟨_, at?_put_self _ (by simp) _⟩
      · exact ⟨bytes, (at?_put_of_ne _ hsame _).trans hfile⟩

/-! ### Chains of requests -/

theorem Coherent.advances (hdoc : doc.Separate d here place)
    (h : Coherent doc server d here place w.validators w)
    (hchain : ReflTransGen (Advances doc server place) w w') :
    Coherent doc server d here place w'.validators w' := by
  induction hchain with
  | refl => exact h
  | tail _ hstep ih => exact hstep.coherent hdoc ih

theorem Coherent.advances_kept (hdoc : doc.Separate d here place) (hreturns : server.NeverReturns)
    (h : Coherent doc server d here place v w)
    (hchain : ReflTransGen (Advances doc server place) w w') :
    Coherent doc server d here place v w' := by
  induction hchain with
  | refl => exact h
  | tail _ hstep ih => exact hstep.coherent_kept hdoc hreturns ih

theorem at?_validatorsFile_of_advances (hdoc : doc.Separate d here place)
    (hchain : ReflTransGen (Advances doc server place) w w') :
    w'.tree.at? (place ++ [validatorsFile]) = w.tree.at? (place ++ [validatorsFile]) := by
  induction hchain with
  | refl => rfl
  | tail _ hstep ih => exact (hstep.at?_validatorsFile hdoc).trans ih

theorem exists_file_of_advances (hchain : ReflTransGen (Advances doc server place) w w')
    {bytes : ByteArray} (hfile : w.tree.at? file = some (.file bytes)) :
    ∃ bytes, w'.tree.at? file = some (.file bytes) := by
  induction hchain with
  | refl => exact ⟨bytes, hfile⟩
  | tail _ hstep ih =>
      obtain ⟨bytes, hfile⟩ := ih
      exact hstep.exists_file hfile

end StaticPage
