import StaticPage.Proofs.Files.Filings
import StaticPage.Proofs.Http.Histories
import StaticPage.Proofs.Storage.Mirrors

/-!
# Fetches that fail

A fetch that fails leaves every file as it was. The validators it leaves as they were too, unless the server
has answered with a whole page under a new validator: the validator is remembered before the page is kept, so
that it stays where keeping the page fails. Nothing is assumed of the files but that they are governed, and
nothing of the network but that it keeps its hands off them.
-/

namespace StaticPage

variable {σ φ α : Type}

/-! ### Validators beside a world -/

/-- A world together with the validators of a fetcher. -/
structure Fetching (σ : Type) where
  validators : Validators
  world : σ

namespace Fetching

instance : MonadStateOf Validators (StateM (Fetching σ)) where
  get := modifyGetThe (Fetching σ) fun s => (s.validators, s)
  set v := modifyThe (Fetching σ) fun s => { s with validators := v }
  modifyGet f := modifyGetThe (Fetching σ) fun s =>
    ((f s.validators).1, { s with validators := (f s.validators).2 })

instance : MonadLift (StateM σ) (StateM (Fetching σ)) where
  monadLift x := fun s => let (a, world) := (x.run s.world).run; pure (a, { s with world })

def files (fs : FileAccess (StateM σ)) : FileAccess (StateM (Fetching σ)) where
  read path := liftM (fs.read path)
  write path bytes := liftM (fs.write path bytes)
  makeDirectory path := liftM (fs.makeDirectory path)
  isDirectory path := liftM (fs.isDirectory path)
  isThere path := liftM (fs.isThere path)
  names path := liftM (fs.names path)

/-- A fetcher over a network and some files, which know nothing of its validators. -/
def fetcher (network : Network (StateM σ)) (fs : FileAccess (StateM σ)) (d : DataDirectory) :
    HttpFetcher (StateM (Fetching σ)) where
  network := ⟨fun request => liftM (network.send request)⟩
  files := files fs
  directory := d

def filing (filing : Filing σ φ) : Filing (Fetching σ) φ where
  fileOf s := filing.fileOf s.world
  bytes s := filing.bytes s.world

theorem of_lift {x : StateM σ α} {s s' : Fetching σ} {a : α}
    (h : after (liftM x : StateM (Fetching σ) α) s = (a, s')) :
    after x s.world = (a, s'.world) ∧ s'.validators = s.validators := by
  cases h
  exact ⟨rfl, rfl⟩

/-- The validators are as they were, and the world is in a relation to the one before. -/
def Aside (R : σ → σ → Prop) (s s' : Fetching σ) : Prop :=
  s'.validators = s.validators ∧ R s.world s'.world

section Aside

variable {R : σ → σ → Prop}

instance [IsPreorder σ R] : IsPreorder (Fetching σ) (Aside R) where
  refl s := ⟨rfl, refl s.world⟩
  trans _ _ _ h h' := ⟨h'.1.trans h.1, IsTrans.trans _ _ _ h.2 h'.2⟩

theorem stays_aside {x : StateM σ α} (hx : Stays R x) : Stays (Aside R) (liftM x : StateM (Fetching σ) α) :=
  fun s => ⟨rfl, hx s.world⟩

theorem reads_aside {fs : FileAccess (StateM σ)} (hfs : fs.Reads R) : (files fs).Reads (Aside R) :=
  ⟨fun path => stays_aside (hfs.read path), fun path => stays_aside (hfs.isDirectory path),
    fun path => stays_aside (hfs.isThere path), fun path => stays_aside (hfs.names path)⟩

end Aside

variable {held : Filing σ φ} {fs : FileAccess (StateM σ)} {network : Network (StateM σ)} {d : DataDirectory}
  {target url : String} {s s' : Fetching σ}

theorem changes_of_aside {paths : List String} (s s' : Fetching σ) (h : Aside (held.Changes paths) s s') :
    (filing held).Changes paths s s' :=
  ⟨h.2.fileOf, h.2.bytes⟩

theorem governs_files (hfs : held.Governs fs) : (filing held).Governs (files fs) where
  reads := (reads_aside hfs.reads).mono changes_of_aside
  makeDirectory path := (stays_aside (hfs.makeDirectory path)).mono changes_of_aside
  write path bytes := (stays_aside (hfs.write path bytes)).mono changes_of_aside
  written h := hfs.written (of_lift h).1
  failed h := changes_of_aside _ _ ⟨(of_lift h).2, hfs.failed (of_lift h).1⟩

theorem aside_of_save (hfs : held.Governs fs) {bytes : ByteArray} {fault : FileFault}
    (h : after (d.save (files fs) target bytes) s = (.error fault, s')) : Aside (held.Changes []) s s' := by
  have hsub (s s' : σ) (hs : held.Changes [] s s') : held.Changes [d.pathOf target] s s' :=
    hs.mono (List.nil_subset _)
  have hstays : Stays (Aside (held.Changes [d.pathOf target])) (d.save (files fs) target bytes) :=
    stays_writeDeep (reads_aside (hfs.reads.mono hsub))
      (fun path => stays_aside ((hfs.makeDirectory path).mono hsub)) (stays_aside (hfs.write _ bytes))
  obtain ⟨hvalidators, -⟩ := hstays s
  rw [h] at hvalidators
  rcases (governs_files hfs).writeDeep_cases h with ⟨-, -, hnothing⟩ | ⟨hok, -⟩
  · exact ⟨hvalidators, hnothing.fileOf, hnothing.bytes⟩
  · cases hok

/-! ### Fetches -/

/-- The server answers with a whole page, under a validator that can be recorded or under none. -/
def Brings (network : Network (StateM σ)) (fs : FileAccess (StateM σ)) (d : DataDirectory) (url : String)
    (s : Fetching σ) (etag : Option String) : Prop :=
  ∃ answer body sent, after ((fetcher network fs d).send url (s.validators.find? url)) s = (.ok answer, sent) ∧
    answer.status = 200 ∧ answer.body = .ok body ∧ answer.etag.bind Validators.ofHeader? = etag

theorem Brings.eq {etag etag' : Option String} (h : Brings network fs d url s etag)
    (h' : Brings network fs d url s etag') : etag = etag' := by
  obtain ⟨answer, body, sent, hsend, -, -, rfl⟩ := h
  obtain ⟨answer', body', sent', hsend', -, -, rfl⟩ := h'
  rw [hsend] at hsend'
  cases hsend'
  rfl

theorem stays_send (hnetwork : ∀ request, Stays (held.Changes []) (network.send request))
    (fs : FileAccess (StateM σ)) (d : DataDirectory) (url : String) (etag : Option String) :
    Stays (Aside (held.Changes [])) ((fetcher network fs d).send url etag) := by
  unfold HttpFetcher.send
  split
  · exact stays_pure _
  · dsimp only
    split
    · exact stays_pure _
    · split
      · exact stays_pure _
      · apply (stays_aside (hnetwork _)).bind
        intro r
        cases r with
        | error cause => exact stays_pure _
        | ok answer => exact stays_pure _

/-- How a fetch ends that has brought a page. -/
def keep (fs : FileAccess (StateM σ)) (d : DataDirectory) (target : String) (body : ByteArray) :
    StateM (Fetching σ) (Except FetchFault ByteArray) := do
  match ← d.save (files fs) target body with
  | .error fault => return .error (.file fault)
  | .ok () => return .ok body

/-- How a fetch ends whose page has not been modified. -/
def reload (fs : FileAccess (StateM σ)) (d : DataDirectory) (target url : String) :
    StateM (Fetching σ) (Except FetchFault ByteArray) := do
  match ← d.load (files fs) target with
  | .error fault => return .error (.file fault)
  | .ok none => return .error (.notModifiedWithoutCopy url target)
  | .ok (some body) => return .ok body

theorem stays_reload (hfs : held.Governs fs) (d : DataDirectory) (target url : String) :
    Stays (Aside (held.Changes [])) (reload fs d target url) := by
  apply (DataDirectory.stays_load (reads_aside hfs.reads) d target).bind
  intro loaded
  rcases loaded with fault | _ | body
  · exact stays_pure _
  · exact stays_pure _
  · exact stays_pure _

theorem keep_error (hfs : held.Governs fs) (d : DataDirectory) (target : String) (body : ByteArray)
    {fault : FetchFault} (h : after (keep fs d target body) s = (.error fault, s')) :
    (∃ cause, fault = .file cause) ∧ Aside (held.Changes []) s s' := by
  rcases hsave : after (d.save (files fs) target body) s with ⟨saved, s₁⟩
  rw [keep, after_bind, hsave] at h
  cases saved with
  | error cause =>
      cases h
      exact ⟨⟨cause, rfl⟩, aside_of_save hfs hsave⟩
  | ok kept => cases h

/-- After the answer, a whole page is kept once its validator was recorded, and anything else changes neither
validators nor files. -/
theorem fetch_cases (hfs : held.Governs fs) {sent : Except FetchFault HttpAnswer} {s₁ : Fetching σ}
    {r : Except FetchFault ByteArray}
    (hsend : after ((fetcher network fs d).send url (s.validators.find? url)) s = (sent, s₁))
    (h : after ((fetcher network fs d).fetch target url) s = (r, s')) :
    (∃ answer body, sent = .ok answer ∧ answer.status = 200 ∧ answer.body = .ok body ∧
      after (keep fs d target body)
        ⟨s₁.validators.noting url (answer.etag.bind Validators.ofHeader?), s₁.world⟩ = (r, s')) ∨
    (∀ answer body, sent = .ok answer → answer.status = 200 → answer.body ≠ .ok body) ∧
      Aside (held.Changes []) s₁ s' := by
  rw [HttpFetcher.fetch, after_bind, show after (getThe Validators) s = (s.validators, s) from rfl] at h
  dsimp only at h
  rw [after_bind, hsend] at h
  cases sent with
  | error cause =>
      cases h
      refine .inr ⟨fun answer body hanswer => ?_, refl _⟩
      cases hanswer
  | ok answer =>
      dsimp only at h
      split at h
      · rename_i hstatus
        cases hbody : answer.body with
        | error cause =>
            rw [hbody] at h
            cases h
            refine .inr ⟨fun _ body hanswer _ hbody' => ?_, refl _⟩
            cases hanswer
            rw [hbody] at hbody'
            cases hbody'
        | ok body =>
            rw [hbody] at h
            refine .inl ⟨answer, body, rfl, hstatus, hbody, ?_⟩
            cases hetag : answer.etag.bind Validators.ofHeader? with
            | none =>
                rw [hetag] at h
                exact h
            | some etag =>
                rw [hetag] at h
                exact h
      · rename_i hstatus
        have hnone : ∀ other body, Except.ok answer = Except.ok (ε := FetchFault) other → other.status = 200 →
            other.body ≠ .ok body := by
          rintro _ body ⟨⟩ hstatus'
          exact absurd hstatus' hstatus
        split at h
        · have hreload := stays_reload hfs d target url s₁
          rw [show after (reload fs d target url) s₁ = (r, s') from h] at hreload
          exact .inr ⟨hnone, hreload⟩
        · cases h
          exact .inr ⟨hnone, refl _⟩

/-- A fetch that fails changes no file. It leaves the validators as they are, unless the page that was brought
could not be kept. -/
theorem fetch_error (hfs : held.Governs fs) (hnetwork : ∀ request, Stays (held.Changes []) (network.send request))
    {fault : FetchFault} (h : after ((fetcher network fs d).fetch target url) s = (.error fault, s')) :
    held.Changes [] s.world s'.world ∧
      ((∀ etag, ¬ Brings network fs d url s etag) ∧ s'.validators = s.validators ∨
        ∃ etag cause, Brings network fs d url s etag ∧ fault = .file cause ∧
          s'.validators = s.validators.noting url etag) := by
  rcases hsend : after ((fetcher network fs d).send url (s.validators.find? url)) s with ⟨sent, s₁⟩
  have hsent := stays_send hnetwork fs d url (s.validators.find? url) s
  rw [hsend] at hsent
  obtain ⟨hvalidators, hfiles⟩ := hsent
  rcases fetch_cases hfs hsend h with ⟨answer, body, rfl, hstatus, hbody, hkeep⟩ | ⟨hnone, hsame, hlater⟩
  · obtain ⟨⟨cause, hcause⟩, hnoted, hkept⟩ := keep_error hfs d target body hkeep
    have hbrings : Brings network fs d url s (answer.etag.bind Validators.ofHeader?) :=
      ⟨answer, body, s₁, hsend, hstatus, hbody, rfl⟩
    refine ⟨hfiles.trans hkept, .inr ⟨_, cause, hbrings, hcause, ?_⟩⟩
    rw [hnoted, hvalidators]
  · refine ⟨hfiles.trans hlater, .inl ⟨?_, hsame.trans hvalidators⟩⟩
    rintro etag ⟨answer, body, s₂, hsend', hstatus, hbody, -⟩
    rw [hsend] at hsend'
    exact hnone answer body (congrArg Prod.fst hsend') hstatus hbody

/-- **A fetch that fails changes no file, and no validator exactly if** the server has not answered with a whole
page under a validator other than the one that is recorded. Where it has, that validator is recorded, and
it is for the file of the page that the fetch has failed. -/
theorem failed_fetch_changes_nothing_iff (hfs : held.Governs fs)
    (hnetwork : ∀ request, Stays (held.Changes []) (network.send request)) (d : DataDirectory)
    (target url : String) (s s' : Fetching σ) (fault : FetchFault)
    (h : after ((fetcher network fs d).fetch target url) s = (.error fault, s')) :
    held.bytes s'.world = held.bytes s.world ∧
    ((∀ other, s'.validators.find? other = s.validators.find? other) ↔
      ∀ etag, Brings network fs d url s (some etag) → s.validators.find? url = some etag) ∧
    ∀ etag, Brings network fs d url s (some etag) →
      s'.validators = s.validators.set url etag ∧ ∃ cause, fault = .file cause := by
  obtain ⟨hfiles, ⟨hnone, hsame⟩ | ⟨etag, cause, hbrings, hcause, hnoted⟩⟩ := fetch_error hfs hnetwork h
  · refine ⟨hfiles.bytes_eq, ⟨fun _ etag hetag => absurd hetag (hnone _), fun _ other => by rw [hsame]⟩, ?_⟩
    intro etag hetag
    exact absurd hetag (hnone _)
  · refine ⟨hfiles.bytes_eq, ⟨fun hsame etag' hetag => ?_, fun hknown other => ?_⟩, fun etag' hetag => ?_⟩
    · cases hbrings.eq hetag
      rw [← hsame url, hnoted, Validators.find?_noting_self]
    · rw [hnoted]
      cases etag with
      | none => rfl
      | some etag =>
          by_cases hother : other = url
          · rw [hother, Validators.find?_noting_self, hknown etag hbrings]
          · exact Validators.find?_noting_of_ne _ hother _
    · cases hbrings.eq hetag
      exact ⟨hnoted, cause, hcause⟩

/-! ### A page that cannot be kept -/

def onePage : Network (StateM FileTree) where
  send _ := pure (.ok ⟨200, some "v".toUTF8, .ok "1".toUTF8⟩)

/-- A tree in which a directory stands where the page would be kept. -/
def blocked : FileTree where
  entries := [(["data"], .directory), (["data", "a.json"], .directory)]
  here := []

def blockedFetcher : HttpFetcher (StateM (Fetching FileTree)) := fetcher onePage FileTree.access ⟨"data"⟩

theorem after_send_blocked : after (blockedFetcher.send "http://[::1]/a" none) ⟨.empty, blocked⟩
    = (.ok ⟨200, some "v".toUTF8, .ok "1".toUTF8⟩, ⟨.empty, blocked⟩) := by
  unfold HttpFetcher.send
  rw [parse_loopback]
  simp only
  rw [if_neg (by decide), if_neg (by simp [isAddressable_loopback])]
  rfl

theorem after_save_blocked (v : Validators) :
    after (blockedFetcher.directory.save blockedFetcher.files "a.json" "1".toUTF8) ⟨v, blocked⟩
      = (.error .isDirectory, ⟨v, blocked⟩) := by
  with_unfolding_all rfl

theorem ofHeader?_v : Validators.ofHeader? "v".toUTF8 = some "v" := by
  with_unfolding_all rfl

theorem after_fetch_blocked : after (blockedFetcher.fetch "a.json" "http://[::1]/a") ⟨.empty, blocked⟩
    = (.error (.file .isDirectory), ⟨.set .empty "http://[::1]/a" "v", blocked⟩) := by
  rw [HttpFetcher.fetch, after_bind,
    show after (getThe Validators) _ = (Validators.empty, ⟨.empty, blocked⟩) from rfl]
  dsimp only
  rw [Validators.find?_empty, after_bind, after_send_blocked]
  simp only [Option.bind_some, ofHeader?_v]
  rw [if_pos trivial, after_bind]
  change after (blockedFetcher.directory.save blockedFetcher.files "a.json" "1".toUTF8 >>= _)
    (⟨.set .empty "http://[::1]/a" "v", blocked⟩ : Fetching FileTree) = _
  rw [after_bind, after_save_blocked]
  rfl

/-- The page is brought and cannot be kept, and one validator changes. -/
theorem failed_fetch_changes_nothing_iff_blocked :
    let s : Fetching FileTree := ⟨.empty, blocked⟩
    let s' := (after (blockedFetcher.fetch "a.json" "http://[::1]/a") s).2
    (FileTree.filing FileTree).bytes s'.world = (FileTree.filing FileTree).bytes s.world ∧
      ¬ ∀ other, s'.validators.find? other = s.validators.find? other := by
  intro s s'
  have hnetwork (request : HttpRequest) : Stays ((FileTree.filing FileTree).Changes []) (onePage.send request) :=
    stays_pure _
  obtain ⟨hfiles, hvalidators, -⟩ := failed_fetch_changes_nothing_iff governs_access hnetwork ⟨"data"⟩ "a.json"
    "http://[::1]/a" ⟨.empty, blocked⟩ _ _ after_fetch_blocked
  rw [show s' = ⟨.set .empty "http://[::1]/a" "v", blocked⟩ from congrArg Prod.snd after_fetch_blocked]
  refine ⟨hfiles, fun hsame => ?_⟩
  have hbrings : Brings onePage FileTree.access ⟨"data"⟩ "http://[::1]/a" s (some "v") :=
    ⟨_, _, _, after_send_blocked, rfl, rfl, ofHeader?_v⟩
  cases hvalidators.1 hsame "v" hbrings

/-- A fetch fails since a directory stands in the place of its file, and the validator of the answer is
recorded. -/
theorem failed_fetch_records_validator :
    (after (blockedFetcher.fetch "a.json" "http://[::1]/a") ⟨.empty, blocked⟩).1 = .error (.file .isDirectory) ∧
      Validators.empty.find? "http://[::1]/a" = none ∧
      (after (blockedFetcher.fetch "a.json" "http://[::1]/a") ⟨.empty, blocked⟩).2.validators.find?
        "http://[::1]/a" = some "v" := by
  rw [after_fetch_blocked]
  exact ⟨rfl, rfl, Validators.find?_set_self _ _ _⟩

end Fetching

end StaticPage
