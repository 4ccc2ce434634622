import StaticPage.Proofs.Http.Exchanges

/-!
# Servers whose pages may have no validator

A publisher holds an edition of every URL at every moment, with a validator or without one. It may also fail to
answer. A fetch that succeeds then keeps the edition of its moment, or it was sent with the validator of that
moment and reads what was kept before, `Publisher.Serves.fetch_cases`. The servers that give every page a
validator are publishers too.
-/

namespace StaticPage

/-- What a server holds at a URL: a body and, if there is one, the bytes of its validator. -/
structure Edition where
  body : ByteArray
  etag : Option ByteArray

namespace Edition

def tag? (e : Edition) : Option String :=
  e.etag.bind Validators.ofHeader?

/-- A validator that was sent is that of an edition. -/
def Matches (e : Edition) (sent : Option String) : Prop :=
  ∃ etag, sent = some etag ∧ e.etag = some etag.toUTF8

theorem etag_of_tag? {e : Edition} {etag : String} (h : e.tag? = some etag) : e.etag = some etag.toUTF8 := by
  obtain ⟨bytes, hbytes, hread⟩ := Option.bind_eq_some_iff.1 h
  rw [hbytes, Validators.toUTF8_of_ofHeader? hread]

end Edition

/-- A server whose pages may be without a validator: the editions of URLs at every moment. Moments are counted
by requests. Two different bodies of a URL never have the same validator, but a URL may lose its validator or
return to an earlier body. -/
structure Publisher where
  edition : (moment : Nat) → Url → Edition
  faithful {moment other : Nat} {u : Url} {etag : ByteArray} (h : (edition moment u).etag = some etag)
    (hother : (edition other u).etag = some etag) : (edition other u).body = (edition moment u).body

namespace Publisher

/-- What becomes of a request: it fails, or it is told that nothing has changed, exactly if it was sent with
the validator of its moment, or it brings the edition of its moment. -/
inductive Gives (p : Publisher) (moment : Nat) (request : HttpRequest) :
    Except TransportFault HttpAnswer → Prop where
  | failed (cause : TransportFault) : Gives p moment request (.error cause)
  | refused {answer : HttpAnswer} (hchanged : answer.status ≠ 200) (hunchanged : answer.status ≠ 304) :
      Gives p moment request (.ok answer)
  | lost {answer : HttpAnswer} {cause : TransportFault} (hstatus : answer.status = 200)
      (hbody : answer.body = .error cause) : Gives p moment request (.ok answer)
  | unchanged {answer : HttpAnswer} (hstatus : answer.status = 304)
      (h : (p.edition moment request.url).Matches request.ifNoneMatch) : Gives p moment request (.ok answer)
  | changed {answer : HttpAnswer} (hstatus : answer.status = 200)
      (hetag : answer.etag = (p.edition moment request.url).etag)
      (hbody : answer.body = .ok (p.edition moment request.url).body)
      (h : ¬ (p.edition moment request.url).Matches request.ifNoneMatch) : Gives p moment request (.ok answer)

/-- A network in which every request goes to a server. -/
def Serves (p : Publisher) (answers : Answers) : Prop :=
  ∀ moment request, p.Gives moment request (answers moment request)

variable {p : Publisher} {answers : Answers} {d : DataDirectory} {target url : String} {u : Url}
  {w w' : World} {body : ByteArray} {moment : Nat} {request : HttpRequest} {answer : HttpAnswer}

theorem Gives.of_found (h : p.Gives moment request (.ok answer)) (hstatus : answer.status = 200)
    (hbody : answer.body = .ok body) : answer.etag = (p.edition moment request.url).etag ∧
      body = (p.edition moment request.url).body ∧
      ¬ (p.edition moment request.url).Matches request.ifNoneMatch := by
  cases h with
  | refused hchanged _ => exact absurd hstatus hchanged
  | lost _ hlost =>
      rw [hbody] at hlost
      cases hlost
  | unchanged hunchanged _ =>
      rw [hstatus] at hunchanged
      cases hunchanged
  | changed _ hetag hheld hnew => exact ⟨hetag, Except.ok.inj (hbody.symm.trans hheld), hnew⟩

theorem Gives.of_unchanged (h : p.Gives moment request (.ok answer)) (hstatus : answer.status = 304) :
    (p.edition moment request.url).Matches request.ifNoneMatch := by
  cases h with
  | refused _ hunchanged => exact absurd hstatus hunchanged
  | lost hfound _ =>
      rw [hstatus] at hfound
      cases hfound
  | unchanged _ hmatches => exact hmatches
  | changed hfound _ _ _ =>
      rw [hstatus] at hfound
      cases hfound

/-- A fetch that succeeds either keeps the edition of its moment, or it was sent with the validator of that
moment and reads what was kept. -/
theorem Serves.fetch_cases (hp : p.Serves answers)
    (h : after ((answers.fetcher d).fetch target url) w = (.ok body, w')) :
    ∃ u, Url.parse url = .ok u ∧
      (¬ (p.edition w.sent u).Matches (w.validators.find? url) ∧ body = (p.edition w.sent u).body ∧
          after ((answers.fetcher d).store.save target body)
            (w.noting url (p.edition w.sent u).tag?) = (.ok (), w') ∨
        (p.edition w.sent u).Matches (w.validators.find? url) ∧ w' = w.ask ∧
          (answers.fetcher d).store.Holds w.ask target body) := by
  generalize hr : (.ok body : Except FetchFault ByteArray) = r at h
  cases HttpFetcher.exchange_of_fetch h with
  | failed => cases hr
  | @changed u answer kept saved _ hurl hanswer hstatus hbody hsave =>
      have hgives := hp w.sent ⟨u, w.validators.find? url⟩
      rw [hanswer] at hgives
      obtain ⟨hetag, hheld, hnew⟩ := hgives.of_found hstatus hbody
      cases saved with
      | error fault => cases hr
      | ok _ =>
          cases hr
          rw [hetag] at hsave
          exact ⟨u, hurl, .inl ⟨hnew, hheld, hsave⟩⟩
  | @unchanged u answer _ hurl hanswer hstatus hload =>
      have hgives := hp w.sent ⟨u, w.validators.find? url⟩
      rw [hanswer] at hgives
      cases hr
      exact ⟨u, hurl, .inr ⟨hgives.of_unchanged hstatus, rfl, hload⟩⟩

/-- A fetch that fails, but not for a file that cannot be written, leaves a world as it was. -/
theorem Serves.asked_of_fault (hp : p.Serves answers) {fault : FetchFault}
    (h : after ((answers.fetcher d).fetch target url) w = (.error fault, w'))
    (hwritten : ∀ cause, fault = .file cause → ∃ u, Url.parse url = .ok u ∧
      (p.edition w.sent u).Matches (w.validators.find? url)) : w' = w ∨ w' = w.ask := by
  generalize hr : (.error fault : Except FetchFault ByteArray) = r at h
  cases HttpFetcher.exchange_of_fetch h with
  | failed hw => exact hw
  | @changed u answer body saved _ hurl hanswer hstatus hbody hsave =>
      cases saved with
      | error cause =>
          cases hr
          have hgives := hp w.sent ⟨u, w.validators.find? url⟩
          rw [hanswer] at hgives
          obtain ⟨u', hurl', hsame⟩ := hwritten cause rfl
          cases Except.ok.inj (hurl'.symm.trans hurl)
          exact absurd hsame (hgives.of_found hstatus hbody).2.2
      | ok _ => cases hr
  | unchanged => cases hr

end Publisher

/-! ### Servers with validators -/

/-- A server with validators at every moment, among those that may have none. -/
def Server.publisher (server : Server) : Publisher where
  edition moment u := ⟨(server.page moment u).body, (server.page moment u).etag.map String.toUTF8⟩
  faithful {moment other u etag} h hother := by
    obtain ⟨tag, htag, rfl⟩ := Option.map_eq_some_iff.1 h
    obtain ⟨tag', htag', hbytes⟩ := Option.map_eq_some_iff.1 hother
    obtain rfl : tag' = tag := String.toByteArray_inj.1 hbytes
    exact server.faithful htag htag'

theorem Server.matches_iff {server : Server} {moment : Nat} {u : Url} {sent : Option String} :
    (server.publisher.edition moment u).Matches sent ↔
      sent.isSome = true ∧ sent = (server.page moment u).etag := by
  constructor
  · rintro ⟨etag, rfl, hetag⟩
    obtain ⟨tag, htag, hbytes⟩ := Option.map_eq_some_iff.1 hetag
    obtain rfl : tag = etag := String.toByteArray_inj.1 hbytes
    exact ⟨rfl, htag.symm⟩
  · rintro ⟨hsome, hsent⟩
    obtain ⟨etag, rfl⟩ := Option.isSome_iff_exists.1 hsome
    exact ⟨etag, rfl, Option.map_eq_some_iff.2 ⟨etag, hsent.symm, rfl⟩⟩

theorem Server.tag?_publisher (server : Server) (moment : Nat) (u : Url) :
    (server.publisher.edition moment u).tag? = (server.page moment u).etag := by
  change ((server.page moment u).etag.map String.toUTF8).bind Validators.ofHeader? = _
  cases hetag : (server.page moment u).etag with
  | none => rfl
  | some etag => exact Validators.ofHeader?_toUTF8 (server.visible hetag)

theorem Server.publisher_serves (server : Server) : server.publisher.Serves server.answers := by
  intro moment request
  by_cases hsame : request.ifNoneMatch.isSome = true ∧
      request.ifNoneMatch = (server.page moment request.url).etag
  · have hanswer : server.answers moment request
        = .ok ⟨304, (server.page moment request.url).etag.map String.toUTF8, .ok ByteArray.empty⟩ :=
      if_pos hsame
    rw [hanswer]
    exact .unchanged rfl (Server.matches_iff.2 hsame)
  · have hanswer : server.answers moment request
        = .ok ⟨200, (server.page moment request.url).etag.map String.toUTF8,
          .ok (server.page moment request.url).body⟩ :=
      if_neg hsame
    rw [hanswer]
    exact .changed rfl rfl rfl fun h => hsame (Server.matches_iff.1 h)

end StaticPage
