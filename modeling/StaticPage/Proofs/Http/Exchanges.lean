import StaticPage.Proofs.Http.Worlds
import StaticPage.Proofs.Storage.Keeping

/-!
# What a fetch comes to

Whatever a network answers, a fetch does one of three things, and `Exchange` says all about each: it fails
and keeps nothing, it remembers the validator of a new answer and keeps its body, or it reads what was kept
before. Validators are kept like any body, in a file of their own.
-/

namespace StaticPage

open FileTree

/-! ### Remembering a validator -/

namespace Validators

variable {v : Validators} {url other : String}

/-- The validators with the one of an answer, if it has one. -/
def noting (v : Validators) (url : String) (etag : Option String) : Validators :=
  etag.elim v (v.set url)

theorem find?_noting_self (v : Validators) (url etag : String) :
    (v.noting url (some etag)).find? url = some etag :=
  find?_set_self v url etag

theorem find?_noting_of_ne (v : Validators) (h : other ≠ url) (etag : Option String) :
    (v.noting url etag).find? other = v.find? other := by
  cases etag with
  | none => rfl
  | some etag => exact find?_set_of_ne v h etag

theorem Distinct.noting (h : v.Distinct) (url : String) (etag : Option String) :
    (v.noting url etag).Distinct := by
  cases etag with
  | none => exact h
  | some etag => exact h.set url etag

end Validators

/-- A world in which one more request was sent, and the validator of its answer was remembered. -/
def World.noting (w : World) (url : String) (etag : Option String) : World :=
  { w.ask with validators := w.validators.noting url etag }

namespace HttpFetcher

variable {answers : Answers} {d : DataDirectory} {target url : String} {w w' : World} {bytes : ByteArray}
  {r : Except FetchFault ByteArray}

/-! ### Fetches -/

/-- What a fetch comes to. -/
inductive Exchange (answers : Answers) (d : DataDirectory) (target url : String) (w : World) :
    Except FetchFault ByteArray → World → Prop where
  | failed {fault : FetchFault} {w' : World} (h : w' = w ∨ w' = w.ask) :
      Exchange answers d target url w (.error fault) w'
  | changed {u : Url} {answer : HttpAnswer} {body : ByteArray} {saved : Except FileFault Unit} {w' : World}
      (hurl : Url.parse url = .ok u) (hanswer : answers w.sent ⟨u, w.validators.find? url⟩ = .ok answer)
      (hstatus : answer.status = 200) (hbody : answer.body = .ok body)
      (hsave : after ((answers.fetcher d).store.save target body)
        (w.noting url (answer.etag.bind Validators.ofHeader?)) = (saved, w')) :
      Exchange answers d target url w ((saved.mapError .file).map fun _ => body) w'
  | unchanged {u : Url} {answer : HttpAnswer} {bytes : ByteArray} (hurl : Url.parse url = .ok u)
      (hanswer : answers w.sent ⟨u, w.validators.find? url⟩ = .ok answer) (hstatus : answer.status = 304)
      (hload : (answers.fetcher d).store.Holds w.ask target bytes) :
      Exchange answers d target url w (.ok bytes) w.ask

theorem exchange_of_keep {u : Url} {answer : HttpAnswer} {body : ByteArray} (hurl : Url.parse url = .ok u)
    (hanswer : answers w.sent ⟨u, w.validators.find? url⟩ = .ok answer) (hstatus : answer.status = 200)
    (hbody : answer.body = .ok body)
    (h : after (do
      match ← d.save (FileTree.access (m := StateM World)) target body with
      | .error fault => return .error (.file fault)
      | .ok () => return .ok body) (w.noting url (answer.etag.bind Validators.ofHeader?)) = (r, w')) :
    Exchange answers d target url w r w' := by
  rcases hsave : after ((answers.fetcher d).store.save target body)
    (w.noting url (answer.etag.bind Validators.ofHeader?)) with ⟨saved, w₁⟩
  have hexchange := Exchange.changed hurl hanswer hstatus hbody hsave
  change after (d.save (FileTree.access (m := StateM World)) target body) _ = _ at hsave
  rw [after_bind, hsave] at h
  cases saved with
  | error fault =>
      cases h
      exact hexchange
  | ok kept =>
      cases h
      exact hexchange

theorem exchange_of_fetch (h : after ((answers.fetcher d).fetch target url) w = (r, w')) :
    Exchange answers d target url w r w' := by
  rcases hsend : after ((answers.fetcher d).send url (w.validators.find? url)) w with ⟨sent, w₁⟩
  rw [fetch, after_bind, after_getValidators] at h
  dsimp only at h
  rw [after_bind, hsend] at h
  rcases send_cases hsend with ⟨⟨fault, rfl⟩, hw₁⟩ | ⟨u, answer, hurl, hanswer, rfl, rfl⟩
  · cases h
    exact .failed hw₁
  · dsimp only at h
    split at h
    · rename_i hstatus
      cases hbody : answer.body with
      | error cause =>
          rw [hbody] at h
          cases h
          exact .failed (.inr rfl)
      | ok body =>
          rw [hbody] at h
          refine exchange_of_keep hurl hanswer hstatus hbody ?_
          cases hetag : answer.etag.bind Validators.ofHeader? with
          | none =>
              rw [hetag] at h
              exact h
          | some etag =>
              rw [hetag] at h
              exact h
    · split at h
      · rename_i hstatus
        rcases hload : after (d.load (FileTree.access (m := StateM World)) target) w.ask with ⟨loaded, w₂⟩
        obtain ⟨rfl, -⟩ := DataDirectory.read_of_load hload
        change after (d.load FileTree.access target >>= _) w.ask = _ at h
        rw [after_bind, hload] at h
        cases loaded with
        | error fault =>
            cases h
            exact .failed (.inr rfl)
        | ok copy =>
            cases copy with
            | none =>
                cases h
                exact .failed (.inr rfl)
            | some bytes =>
                cases h
                exact .unchanged hurl hanswer hstatus hload
      · cases h
        exact .failed (.inr rfl)

/-! ### Files -/

theorem file_of_holds (h : (answers.fetcher d).store.Holds w target bytes) :
    d.file? w.tree target = some bytes :=
  DataDirectory.file?_of_holds (s := w) h

/-- Bytes that were saved under a plain name are in its file, and other plain names have the files that they
had. -/
theorem files_of_save (h : after ((answers.fetcher d).store.save target bytes) w = (.ok (), w'))
    (htarget : Path.IsSegment target) :
    w'.validators = w.validators ∧ d.file? w'.tree target = some bytes ∧
      ∀ other, Path.IsSegment other → other ≠ target → d.file? w'.tree other = d.file? w.tree other := by
  obtain ⟨t, rfl, hfile, hothers⟩ := DataDirectory.file?_save h htarget
  exact ⟨rfl, hfile, hothers⟩

/-! ### Validators between runs -/

theorem isSegment_validatorsFile : Path.IsSegment validatorsFile :=
  ⟨by decide, by decide⟩

theorem after_persist (answers : Answers) (d : DataDirectory) (w : World) :
    after (answers.fetcher d).persist w
      = after ((answers.fetcher d).store.save validatorsFile w.validators.encode) w := by
  rw [HttpFetcher.persist, after_bind, after_getValidators]
  rfl

theorem persist_name {place : List String} (answers : Answers) (hstands : d.StandsAt w.tree place)
    (hname : d.Accepts validatorsFile) (hdir : w.tree.isDirectoryAt (place ++ [validatorsFile]) = false) :
    after (answers.fetcher d).persist w = (.ok (),
      { w with tree := w.tree.put (place ++ [validatorsFile]) (.file w.validators.encode) }) := by
  rw [after_persist]
  exact DataDirectory.save_name (s := w) hstands hname hdir _

/-- A fetcher starts with the validators that were kept, or with none, or it cannot be made. -/
theorem start_cases {r : Except FetchFault Unit} (h : after (answers.fetcher d).start w = (r, w')) :
    w'.tree = w.tree ∧ ((∃ fault, r = .error fault) ∧ w' = w ∨
      r = .ok () ∧ (w'.validators = .empty ∨ ∃ bytes,
        (answers.fetcher d).store.Holds w validatorsFile bytes ∧
          Validators.decode? bytes = some w'.validators)) := by
  rcases hload : after (d.load (FileTree.access (m := StateM World)) validatorsFile) w with ⟨loaded, w₁⟩
  obtain ⟨rfl, -⟩ := DataDirectory.read_of_load hload
  change after (d.load FileTree.access validatorsFile >>= _) w₁ = _ at h
  rw [after_bind, hload] at h
  cases loaded with
  | error fault =>
      cases h
      exact ⟨rfl, .inl ⟨⟨_, rfl⟩, rfl⟩⟩
  | ok kept =>
      cases kept with
      | none =>
          cases h
          exact ⟨rfl, .inr ⟨rfl, .inl rfl⟩⟩
      | some bytes =>
          dsimp only at h
          split at h
          · rename_i v hdecode
            cases h
            exact ⟨rfl, .inr ⟨rfl, .inr ⟨bytes, hload, hdecode⟩⟩⟩
          · cases h
            exact ⟨rfl, .inr ⟨rfl, .inl rfl⟩⟩

theorem known_of_start (h : after (answers.fetcher d).start w = (.ok (), w')) :
    w'.validators = .empty ∨ ∃ bytes, d.file? w.tree validatorsFile = some bytes ∧
      Validators.decode? bytes = some w'.validators := by
  obtain ⟨-, ⟨⟨fault, hfault⟩, -⟩ | ⟨-, hempty | ⟨bytes, hholds, hdecode⟩⟩⟩ := start_cases h
  · cases hfault
  · exact .inl hempty
  · exact .inr ⟨bytes, file_of_holds hholds, hdecode⟩

end HttpFetcher

end StaticPage
