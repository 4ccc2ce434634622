import StaticPage.Http.Fetcher
import StaticPage.Proofs.Evaluation.Sessions
import StaticPage.Proofs.Http.ValidatorFile
import StaticPage.Proofs.Storage.FileNames

/-!
# Worlds with a network

A world has a file tree and the validators of a fetcher, and its network answers requests by their number.
A server is one way to answer: it holds a page for every URL at every moment, and says that a page has not
changed if it is asked with the validator that the page has at that moment. What a fetch does in such a
world is one of two things, `fetch_unchanged` and `fetch_changed`.
-/

namespace StaticPage

open FileTree

/-- A world with a file tree and a fetcher's validators, in which requests are counted and warnings
noted. -/
structure World where
  tree : FileTree
  validators : Validators
  sent : Nat
  warnings : List Warning

namespace World

instance : HasTree World where
  tree := World.tree
  withTree w t := { w with tree := t }
  tree_withTree _ _ := rfl
  withTree_tree _ := rfl
  withTree_withTree _ _ _ := rfl

instance : MonadStateOf Validators (StateM World) where
  get := modifyGetThe World fun w => (w.validators, w)
  set v := modifyThe World fun w => { w with validators := v }
  modifyGet f := modifyGetThe World fun w =>
    ((f w.validators).1, { w with validators := (f w.validators).2 })

instance : MonadWarn (StateM World) where
  warn warning := modifyThe World fun w => { w with warnings := w.warnings ++ [warning] }

def ask (w : World) : World :=
  { w with sent := w.sent + 1 }

/-- A world in which one more request was sent, and its answer and validator were kept. -/
def stored (w : World) (file : List String) (url etag : String) (body : ByteArray) : World :=
  { w.ask with tree := w.tree.put file (.file body), validators := w.validators.set url etag }

end World

/-- What a network answers to the request that comes after a number of others. -/
abbrev Answers := Nat → HttpRequest → Except TransportFault HttpAnswer

def Answers.network (answers : Answers) : Network (StateM World) where
  send request := modifyGetThe World fun w => (answers w.sent request, w.ask)

def Answers.fetcher (answers : Answers) (d : DataDirectory) : HttpFetcher (StateM World) :=
  ⟨answers.network, FileTree.access, d⟩

def HttpFetcher.store {m : Type → Type} [Monad m] (f : HttpFetcher m) : Store m :=
  f.directory.store f.files

/-- What a server holds at a URL. -/
structure Page where
  body : ByteArray
  etag : Option String

/-- A server: the pages of URLs at every moment. Moments are counted by requests. Validators can be read,
and two different bodies of a URL never have the same one. -/
structure Server where
  page : (moment : Nat) → Url → Page
  visible {moment : Nat} {u : Url} {etag : String} (h : (page moment u).etag = some etag) :
    Validators.IsVisible etag
  faithful {moment other : Nat} {u : Url} {etag : String} (h : (page moment u).etag = some etag)
    (hother : (page other u).etag = some etag) : (page other u).body = (page moment u).body

namespace Server

/-- The answers of a server: a page has not changed exactly if it has the validator it is asked with. -/
def answers (server : Server) : Answers := fun moment request =>
  let page := server.page moment request.url
  if request.ifNoneMatch.isSome ∧ request.ifNoneMatch = page.etag then
    .ok ⟨304, page.etag.map String.toUTF8, .ok ByteArray.empty⟩
  else .ok ⟨200, page.etag.map String.toUTF8, .ok page.body⟩

end Server

namespace HttpFetcher

variable {answers : Answers} {server : Server} {d : DataDirectory} {place : List String}
  {target url : String} {u : Url} {w w' : World}

/-! ### Requests -/

theorem after_network (request : HttpRequest) :
    after ((answers.fetcher d).network.send request) w = (answers w.sent request, w.ask) := rfl

theorem after_send (answers : Answers) (d : DataDirectory) (w : World) (hurl : Url.parse url = .ok u)
    (haddr : u.isAddressable = true) {etag : Option String}
    (hetag : ∀ e ∈ etag, Validators.isSendable e = true) :
    after ((answers.fetcher d).send url etag) w =
      ((answers w.sent ⟨u, etag⟩).mapError (.transport url u.text), w.ask) := by
  have hsendable : etag.any (!Validators.isSendable ·) = false := by
    cases etag with
    | none => rfl
    | some e => simp [hetag e rfl]
  unfold send
  rw [hurl]
  simp only
  rw [if_neg (by simp [hsendable]), if_neg (by simp [haddr]), after_bind, after_network]
  cases answers w.sent ⟨u, etag⟩ <;> rfl

/-- A request fails, or it brings the answer of the network. -/
theorem send_cases {etag : Option String} {r : Except FetchFault HttpAnswer}
    (h : after ((answers.fetcher d).send url etag) w = (r, w')) :
    (∃ fault, r = .error fault) ∧ (w' = w ∨ w' = w.ask) ∨
      ∃ u answer, Url.parse url = .ok u ∧ answers w.sent ⟨u, etag⟩ = .ok answer ∧ r = .ok answer ∧
        w' = w.ask := by
  unfold send at h
  split at h
  · cases h
    exact .inl ⟨⟨_, rfl⟩, .inl rfl⟩
  · rename_i u hurl
    dsimp only at h
    split at h
    · cases h
      exact .inl ⟨⟨_, rfl⟩, .inl rfl⟩
    · split at h
      · cases h
        exact .inl ⟨⟨_, rfl⟩, .inl rfl⟩
      · rw [after_bind, after_network] at h
        dsimp only at h
        split at h
        · cases h
          exact .inl ⟨⟨_, rfl⟩, .inr rfl⟩
        · rename_i answer hanswer
          cases h
          exact .inr ⟨u, answer, hurl, hanswer, rfl, rfl⟩

/-- A request that nothing is kept of fails, or it brings the body of an answer. -/
theorem fetchUncached_cases {r : Except FetchFault ByteArray}
    (h : after ((answers.fetcher d).fetchUncached url) w = (r, w')) :
    (w' = w ∨ w' = w.ask) ∧ ((∃ fault, r = .error fault) ∨
      ∃ u answer body, Url.parse url = .ok u ∧ answers w.sent ⟨u, none⟩ = .ok answer ∧
        answer.status = 200 ∧ answer.body = .ok body ∧ r = .ok body) := by
  rcases hsend : after ((answers.fetcher d).send url none) w with ⟨sent, w₁⟩
  rw [fetchUncached, after_bind, hsend] at h
  rcases send_cases hsend with ⟨⟨fault, rfl⟩, hw₁⟩ | ⟨u, answer, hurl, hanswer, rfl, rfl⟩
  · cases h
    exact ⟨hw₁, .inl ⟨_, rfl⟩⟩
  · dsimp only at h
    split at h
    · rename_i hstatus
      cases hbody : answer.body with
      | error cause =>
          rw [hbody] at h
          cases h
          exact ⟨.inr rfl, .inl ⟨_, rfl⟩⟩
      | ok body =>
          rw [hbody] at h
          cases h
          exact ⟨.inr rfl, .inr ⟨u, answer, body, hurl, hanswer, hstatus, hbody, rfl⟩⟩
    · cases h
      exact ⟨.inr rfl, .inl ⟨_, rfl⟩⟩

/-! ### Starting -/

section

variable (hstands : d.StandsAt w.tree place) (hname : d.Accepts validatorsFile)

include hstands hname

theorem start_of_none (hfile : w.tree.at? (place ++ [validatorsFile]) = none) :
    after (answers.fetcher d).start w = (.ok (), { w with validators := .empty }) := by
  change after (d.load FileTree.access validatorsFile >>= _) w = _
  rw [after_bind, DataDirectory.load_of_none (s := w) hstands hname hfile]
  rfl

theorem start_of_file {v : Validators} (hv : v.Distinct)
    (hfile : w.tree.at? (place ++ [validatorsFile]) = some (.file v.encode)) :
    after (answers.fetcher d).start w = (.ok (), { w with validators := v.sorted }) := by
  change after (d.load FileTree.access validatorsFile >>= _) w = _
  rw [after_bind, DataDirectory.load_of_file (s := w) hstands hname hfile]
  dsimp only
  rw [Validators.decode?_encode hv]
  rfl

end

/-! ### Fetches that keep the answer -/

theorem after_getValidators : after (getThe Validators) w = (w.validators, w) := rfl

variable (hurl : Url.parse url = .ok u) (haddr : u.isAddressable = true)
  (hstands : d.StandsAt w.tree place) (htarget : d.Accepts target)

include hurl haddr hstands htarget

theorem after_fetch_unchanged {etag : String} (hknown : w.validators.find? url = some etag)
    (hetag : (server.page w.sent u).etag = some etag) :
    after ((server.answers.fetcher d).fetch target url) w =
      (match w.tree.at? (place ++ [target]) with
        | some (.file bytes) => .ok bytes
        | some .directory => .error (.file .isDirectory)
        | none => .error (.notModifiedWithoutCopy url target), w.ask) := by
  have hsendable : ∀ e ∈ some etag, Validators.isSendable e = true := by
    simpa using Validators.isSendable_of_isVisible (server.visible hetag)
  have hsend := after_send server.answers d w hurl haddr hsendable
  have hanswer : server.answers w.sent ⟨u, some etag⟩
      = .ok ⟨304, some etag.toUTF8, .ok ByteArray.empty⟩ := by
    simp [Server.answers, hetag]
  have hload := DataDirectory.load_name (s := w.ask) hstands htarget
  have htree : tree w.ask = w.tree := rfl
  rw [htree] at hload
  rw [fetch, after_bind, after_getValidators]
  dsimp only
  rw [hknown, after_bind, hsend, hanswer]
  simp only [Except.mapError]
  rw [if_neg (by decide), if_pos trivial]
  change after (d.load FileTree.access target >>= _) w.ask = _
  rw [after_bind, hload]
  cases w.tree.at? (place ++ [target]) with
  | none => rfl
  | some entry => cases entry <;> rfl

theorem fetch_unchanged {etag : String} {bytes : ByteArray}
    (hknown : w.validators.find? url = some etag) (hetag : (server.page w.sent u).etag = some etag)
    (hfile : w.tree.at? (place ++ [target]) = some (.file bytes)) :
    after ((server.answers.fetcher d).fetch target url) w = (.ok bytes, w.ask) := by
  rw [after_fetch_unchanged hurl haddr hstands htarget hknown hetag, hfile]

/-- Without a file of the target, a page that has not changed cannot be had. -/
theorem fetch_uncopied {etag : String} (hknown : w.validators.find? url = some etag)
    (hetag : (server.page w.sent u).etag = some etag)
    (hfile : w.tree.at? (place ++ [target]) = none) :
    after ((server.answers.fetcher d).fetch target url) w
      = (.error (.notModifiedWithoutCopy url target), w.ask) := by
  rw [after_fetch_unchanged hurl haddr hstands htarget hknown hetag, hfile]

/-- A page that has changed is kept in the file of the target, and its validator is remembered. -/
theorem fetch_changed {etag : String} (hknown : w.validators.find? url ≠ some etag)
    (hsendable : ∀ e ∈ w.validators.find? url, Validators.isSendable e = true)
    (hetag : (server.page w.sent u).etag = some etag)
    (hdir : w.tree.isDirectoryAt (place ++ [target]) = false) :
    after ((server.answers.fetcher d).fetch target url) w = (.ok (server.page w.sent u).body,
      w.stored (place ++ [target]) url etag (server.page w.sent u).body) := by
  have hsend := after_send server.answers d w hurl haddr hsendable
  have hanswer : server.answers w.sent ⟨u, w.validators.find? url⟩
      = .ok ⟨200, some etag.toUTF8, .ok (server.page w.sent u).body⟩ := by
    simp [Server.answers, hetag, hknown]
  have hheader : Validators.ofHeader? etag.toUTF8 = some etag :=
    Validators.ofHeader?_toUTF8 (server.visible hetag)
  have hsave := DataDirectory.save_name
    (s := { w.ask with validators := w.validators.set url etag }) hstands htarget hdir
    (server.page w.sent u).body
  rw [fetch, after_bind, after_getValidators]
  dsimp only
  rw [after_bind, hsend, hanswer]
  simp only [Except.mapError, Option.bind_some, hheader]
  rw [if_pos trivial, after_bind]
  change after (d.save FileTree.access target (server.page w.sent u).body >>= _)
    { w.ask with validators := w.validators.set url etag } = _
  rw [after_bind, hsave]
  rfl

omit hstands htarget in
theorem fetchUncached_brings : after ((server.answers.fetcher d).fetchUncached url) w
    = (.ok (server.page w.sent u).body, w.ask) := by
  have hsendable : ∀ e ∈ (none : Option String), Validators.isSendable e = true := nofun
  rw [fetchUncached, after_bind, after_send server.answers d w hurl haddr hsendable]
  rfl

end HttpFetcher

end StaticPage
