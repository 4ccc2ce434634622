import StaticPage.Proofs.Http.Histories
import StaticPage.Proofs.Http.Publishers

/-!
# Validators that outlive what they stand for

A fetcher keeps the body of a page at once, and its validators only when it is told to. So a fetcher that is
made anew may know an older validator of a URL than the one of the body that is kept, and a page without a
validator leaves the one before it in place. In any other case the validator that a fetcher knows is that of
the kept body, `Tracks`, and every fetch brings what the server holds at its moment, `fetch_current`.
-/

namespace StaticPage

open FileTree

/-! ### What was kept of a URL -/

/-- What happens in the life of a data directory: the page of a URL is kept, with or without a validator, the
validators are kept, or the fetcher is made anew. -/
inductive Deed where
  | kept (url : String) (etag : Option String)
  | persisted
  | renewed
  deriving DecidableEq, Repr

/-- The page of a URL that was kept last: its validator, whether validators were kept after it, and whether
the fetcher was made anew before that. -/
structure Copy where
  etag : Option String
  persisted : Bool
  forgotten : Bool
  deriving DecidableEq, Repr

/-- The page of a URL that was kept last, after some deeds. The latest deed comes first. -/
def copy? (url : String) : List Deed → Option Copy
  | [] => none
  | .kept other etag :: deeds => if other = url then some ⟨etag, false, false⟩ else copy? url deeds
  | .persisted :: deeds => (copy? url deeds).map fun c => { c with persisted := true }
  | .renewed :: deeds => (copy? url deeds).map fun c => { c with forgotten := c.forgotten || !c.persisted }

/-- A fetcher may know a validator of a URL when a page of it was kept: it is that of the page, or the page has
none, or the fetcher was made anew before the validator of the page was kept. -/
def Copy.Explains (c : Copy) (etag : String) : Prop :=
  c.etag = some etag ∨ c.etag = none ∨ c.forgotten = true

/-! ### Histories of a data directory -/

/-- URLs with targets that are plain names and their own. -/
structure OwnTargets (targetOf : String → Option String) : Prop where
  segment {url target : String} (h : targetOf url = some target) : Path.IsSegment target
  validators {url target : String} (h : targetOf url = some target) : target ≠ validatorsFile
  own {url other target : String} (h : targetOf url = some target) (hother : targetOf other = some target) :
    url = other

/-- One step of a fetcher, with the deed that is done if it is one. Nothing else changes what is in the files
of the data directory, and no file fails to be written: if a fetch fails for a file, it is one to be read. -/
inductive Visits (p : Publisher) (answers : Answers) (d : DataDirectory) (targetOf : String → Option String) :
    World → Option Deed → World → Prop where
  | changed {w w' : World} {url target : String} {u : Url} {body : ByteArray}
      (htarget : targetOf url = some target) (hurl : Url.parse url = .ok u)
      (hnew : ¬ (p.edition w.sent u).Matches (w.validators.find? url))
      (h : after ((answers.fetcher d).fetch target url) w = (.ok body, w')) :
      Visits p answers d targetOf w (some (.kept url (p.edition w.sent u).tag?)) w'
  | unchanged {w w' : World} {url target : String} {u : Url} {body : ByteArray}
      (htarget : targetOf url = some target) (hurl : Url.parse url = .ok u)
      (hsame : (p.edition w.sent u).Matches (w.validators.find? url))
      (h : after ((answers.fetcher d).fetch target url) w = (.ok body, w')) :
      Visits p answers d targetOf w none w'
  | failed {w w' : World} {url target : String} {fault : FetchFault} (htarget : targetOf url = some target)
      (h : after ((answers.fetcher d).fetch target url) w = (.error fault, w'))
      (hwritten : ∀ cause, fault = .file cause → ∃ u, Url.parse url = .ok u ∧
        (p.edition w.sent u).Matches (w.validators.find? url)) : Visits p answers d targetOf w none w'
  | uncached {w w' : World} {url : String} {r : Except FetchFault ByteArray}
      (h : after ((answers.fetcher d).fetchUncached url) w = (r, w')) : Visits p answers d targetOf w none w'
  | persisted {w w' : World} (h : after (answers.fetcher d).persist w = (.ok (), w')) :
      Visits p answers d targetOf w (some .persisted) w'
  | renewed {w w' : World} (h : after (answers.fetcher d).start w = (.ok (), w')) :
      Visits p answers d targetOf w (some .renewed) w'
  | unmade {w w' : World} {fault : FetchFault} (h : after (answers.fetcher d).start w = (.error fault, w')) :
      Visits p answers d targetOf w none w'
  | elsewhere {w w' : World} (hvalidators : w'.validators = w.validators)
      (hfiles : ∀ name, Path.IsSegment name → d.file? w'.tree name = d.file? w.tree name)
      (hsent : w.sent ≤ w'.sent) : Visits p answers d targetOf w none w'

/-- The deeds that were done, the latest one first, since a fetcher was made for a data directory in which there
was no file. -/
inductive History (p : Publisher) (answers : Answers) (d : DataDirectory)
    (targetOf : String → Option String) : List Deed → World → Prop where
  | made {w w' : World} (hempty : ∀ name, Path.IsSegment name → d.file? w.tree name = none)
      (h : after (answers.fetcher d).start w = (.ok (), w')) : History p answers d targetOf [] w'
  | visits {deeds : List Deed} {deed : Option Deed} {w w' : World} (h : History p answers d targetOf deeds w)
      (hvisits : Visits p answers d targetOf w deed w') :
      History p answers d targetOf (deed.toList ++ deeds) w'

/-- What the validators and the files of a fetcher have to do with the pages that were kept. -/
structure Tracks (p : Publisher) (d : DataDirectory) (targetOf : String → Option String) (deeds : List Deed)
    (w : World) : Prop where
  distinct : w.validators.Distinct
  /-- The page that was kept last is in the file of its target. -/
  file {url target : String} {c : Copy} (htarget : targetOf url = some target)
    (hcopy : copy? url deeds = some c) : ∃ u moment, Url.parse url = .ok u ∧
      d.file? w.tree target = some (p.edition moment u).body ∧ c.etag = (p.edition moment u).tag?
  known {url etag : String} (h : w.validators.find? url = some etag) :
    ∃ c, copy? url deeds = some c ∧ c.Explains etag
  /-- Validators that were kept are those of the pages, or of pages before them. -/
  kept {bytes : ByteArray} (h : d.file? w.tree validatorsFile = some bytes) :
    ∃ v : Validators, v.Distinct ∧ bytes = v.encode ∧ ∀ {url etag : String}, v.find? url = some etag →
      ∃ c, copy? url deeds = some c ∧ (c.persisted = true → c.Explains etag)

variable {p : Publisher} {answers : Answers} {d : DataDirectory} {targetOf : String → Option String}
  {deeds : List Deed} {deed : Option Deed} {w w' : World} {url target : String} {u : Url} {body : ByteArray}

/-! ### Copies -/

theorem copy?_kept_self (url : String) (etag : Option String) (deeds : List Deed) :
    copy? url (.kept url etag :: deeds) = some ⟨etag, false, false⟩ := by
  simp [copy?]

theorem copy?_kept_of_ne {url other : String} (h : url ≠ other) (etag : Option String) (deeds : List Deed) :
    copy? url (.kept other etag :: deeds) = copy? url deeds := by
  simp [copy?, h.symm]

theorem Copy.Explains.renewed {c : Copy} {etag : String} (h : c.persisted = true → c.Explains etag) :
    Copy.Explains { c with forgotten := c.forgotten || !c.persisted } etag := by
  cases hpersisted : c.persisted with
  | false => exact .inr (.inr (by simp))
  | true =>
      rcases h hpersisted with hown | hnone | hforgotten
      · exact .inl hown
      · exact .inr (.inl hnone)
      · exact .inr (.inr (by simp [hforgotten]))

/-! ### What a step preserves -/

/-- Nothing is known in a data directory without files. -/
theorem tracks_of_empty (hempty : ∀ name, Path.IsSegment name → d.file? w.tree name = none)
    (h : after (answers.fetcher d).start w = (.ok (), w')) : Tracks p d targetOf [] w' := by
  have htree := (HttpFetcher.start_cases h).1
  have hnone := hempty _ HttpFetcher.isSegment_validatorsFile
  have hnew : w'.validators = .empty := by
    rcases HttpFetcher.known_of_start h with hnew | ⟨bytes, hfile, -⟩
    · exact hnew
    · rw [hfile] at hnone
      cases hnone
  exact {
    distinct := by rw [hnew]; exact Validators.distinct_empty
    file := fun _ hcopy => by cases hcopy
    known := fun hknown => by rw [hnew] at hknown; cases hknown
    kept := fun hkept => by rw [htree, hnone] at hkept; cases hkept }

/-- A step that changes neither the validators nor the files. -/
theorem Tracks.quiet (h : Tracks p d targetOf deeds w) (htargets : OwnTargets targetOf)
    (hvalidators : w'.validators = w.validators)
    (hfiles : ∀ name, Path.IsSegment name → d.file? w'.tree name = d.file? w.tree name) :
    Tracks p d targetOf deeds w' where
  distinct := by rw [hvalidators]; exact h.distinct
  file htarget hcopy := by
    rw [hfiles _ (htargets.segment htarget)]
    exact h.file htarget hcopy
  known hknown := h.known (by rwa [hvalidators] at hknown)
  kept hkept := h.kept (by rwa [hfiles _ HttpFetcher.isSegment_validatorsFile] at hkept)

theorem Tracks.asked (h : Tracks p d targetOf deeds w) (htargets : OwnTargets targetOf)
    (hw : w' = w ∨ w' = w.ask) : Tracks p d targetOf deeds w' := by
  rcases hw with rfl | rfl
  · exact h
  · exact h.quiet htargets rfl fun _ _ => rfl

/-- Keeping the page of a moment, with its validator. -/
theorem Tracks.changed (h : Tracks p d targetOf deeds w) (htargets : OwnTargets targetOf)
    (htarget : targetOf url = some target) (hurl : Url.parse url = .ok u)
    (hsave : after ((answers.fetcher d).store.save target (p.edition w.sent u).body)
      (w.noting url (p.edition w.sent u).tag?) = (.ok (), w')) :
    Tracks p d targetOf (.kept url (p.edition w.sent u).tag? :: deeds) w' := by
  obtain ⟨hvalidators, hfile, hothers⟩ := HttpFetcher.files_of_save hsave (htargets.segment htarget)
  change w'.validators = w.validators.noting url (p.edition w.sent u).tag? at hvalidators
  have hothers (other : String) (hother : Path.IsSegment other) (hne : other ≠ target) :
      d.file? w'.tree other = d.file? w.tree other := hothers other hother hne
  refine {
    distinct := by rw [hvalidators]; exact h.distinct.noting url _
    file := fun {other target' c} htarget' hcopy => ?_
    known := fun {other etag} hknown => ?_
    kept := fun {bytes} hkept => ?_ }
  · by_cases hother : other = url
    · subst hother
      rw [htarget] at htarget'
      cases htarget'
      rw [copy?_kept_self] at hcopy
      cases hcopy
      exact ⟨u, w.sent, hurl, hfile, rfl⟩
    · rw [copy?_kept_of_ne hother] at hcopy
      have hne : target' ≠ target := by
        rintro rfl
        exact hother (htargets.own htarget' htarget)
      rw [hothers _ (htargets.segment htarget') hne]
      exact h.file htarget' hcopy
  · rw [hvalidators] at hknown
    by_cases hother : other = url
    · subst hother
      refine ⟨_, copy?_kept_self _ _ _, ?_⟩
      cases htag : (p.edition w.sent u).tag? with
      | none => exact .inr (.inl rfl)
      | some tag =>
          rw [htag, Validators.find?_noting_self] at hknown
          exact .inl hknown
    · rw [Validators.find?_noting_of_ne _ hother] at hknown
      rw [copy?_kept_of_ne hother]
      exact h.known hknown
  · rw [hothers _ HttpFetcher.isSegment_validatorsFile (htargets.validators htarget).symm] at hkept
    obtain ⟨v, hdistinct, hbytes, hv⟩ := h.kept hkept
    refine ⟨v, hdistinct, hbytes, fun {other etag} hfind => ?_⟩
    by_cases hother : other = url
    · subst hother
      -- The kept validator may belong to an older page, but the page was kept after it.
      exact ⟨_, copy?_kept_self _ _ _, fun hpersisted => by cases hpersisted⟩
    · rw [copy?_kept_of_ne hother]
      exact hv hfind

theorem Tracks.persisted (h : Tracks p d targetOf deeds w) (htargets : OwnTargets targetOf)
    (hpersist : after (answers.fetcher d).persist w = (.ok (), w')) :
    Tracks p d targetOf (.persisted :: deeds) w' := by
  rw [HttpFetcher.after_persist] at hpersist
  obtain ⟨hvalidators, hfile, hothers⟩ := HttpFetcher.files_of_save hpersist HttpFetcher.isSegment_validatorsFile
  refine {
    distinct := by rw [hvalidators]; exact h.distinct
    file := fun {url target c} htarget hcopy => ?_
    known := fun {url etag} hknown => ?_
    kept := fun {bytes} hkept => ?_ }
  · obtain ⟨c, hc, rfl⟩ := Option.map_eq_some_iff.1 hcopy
    obtain ⟨u, moment, hurl, hheld, htag⟩ := h.file htarget hc
    rw [hothers _ (htargets.segment htarget) (htargets.validators htarget)]
    exact ⟨u, moment, hurl, hheld, htag⟩
  · rw [hvalidators] at hknown
    obtain ⟨c, hc, hexplains⟩ := h.known hknown
    exact ⟨_, Option.map_eq_some_iff.2 ⟨c, hc, rfl⟩, hexplains⟩
  · obtain rfl : w.validators.encode = bytes := Option.some.inj (hfile.symm.trans hkept)
    refine ⟨w.validators, h.distinct, rfl, fun {url etag} hknown => ?_⟩
    obtain ⟨c, hc, hexplains⟩ := h.known hknown
    exact ⟨_, Option.map_eq_some_iff.2 ⟨c, hc, rfl⟩, fun _ => hexplains⟩

theorem Tracks.renewed (h : Tracks p d targetOf deeds w)
    (hstart : after (answers.fetcher d).start w = (.ok (), w')) :
    Tracks p d targetOf (.renewed :: deeds) w' := by
  have htree := (HttpFetcher.start_cases hstart).1
  have hvalidators := HttpFetcher.known_of_start hstart
  have hrenewed {v : Validators} (hv : ∀ {url etag : String}, v.find? url = some etag →
      ∃ c, copy? url deeds = some c ∧ (c.persisted = true → c.Explains etag)) {url etag : String}
      (hfind : v.find? url = some etag) : ∃ c, copy? url (.renewed :: deeds) = some c ∧ c.Explains etag := by
    obtain ⟨c, hc, hexplains⟩ := hv hfind
    exact ⟨_, Option.map_eq_some_iff.2 ⟨c, hc, rfl⟩, Copy.Explains.renewed hexplains⟩
  refine {
    distinct := ?_
    file := fun {url target c} htarget hcopy => ?_
    known := fun {url etag} hknown => ?_
    kept := fun {bytes} hkept => ?_ }
  · rcases hvalidators with hnew | ⟨bytes, hkept, hdecode⟩
    · rw [hnew]
      exact Validators.distinct_empty
    · obtain ⟨v, hdistinct, rfl, -⟩ := h.kept hkept
      rw [Validators.decode?_encode hdistinct] at hdecode
      rw [← Option.some.inj hdecode]
      exact hdistinct.sorted
  · obtain ⟨c, hc, rfl⟩ := Option.map_eq_some_iff.1 hcopy
    obtain ⟨u, moment, hurl, hheld, htag⟩ := h.file htarget hc
    rw [htree]
    exact ⟨u, moment, hurl, hheld, htag⟩
  · rcases hvalidators with hnew | ⟨bytes, hkept, hdecode⟩
    · rw [hnew] at hknown
      cases hknown
    · obtain ⟨v, hdistinct, rfl, hv⟩ := h.kept hkept
      rw [Validators.decode?_encode hdistinct] at hdecode
      rw [← Option.some.inj hdecode, Validators.find?_sorted hdistinct] at hknown
      exact hrenewed hv hknown
  · rw [htree] at hkept
    obtain ⟨v, hdistinct, hbytes, hv⟩ := h.kept hkept
    refine ⟨v, hdistinct, hbytes, fun hfind => ?_⟩
    obtain ⟨c, hc, hexplains⟩ := hrenewed hv hfind
    exact ⟨c, hc, fun _ => hexplains⟩

theorem Visits.tracks (hp : p.Serves answers) (htargets : OwnTargets targetOf)
    (hvisits : Visits p answers d targetOf w deed w') (h : Tracks p d targetOf deeds w) :
    Tracks p d targetOf (deed.toList ++ deeds) w' := by
  cases hvisits with
  | changed htarget hurl hnew hfetch =>
      obtain ⟨u', hurl', ⟨-, rfl, hsave⟩ | ⟨hsame, -⟩⟩ := hp.fetch_cases hfetch
      · cases Except.ok.inj (hurl'.symm.trans hurl)
        exact h.changed htargets htarget hurl hsave
      · cases Except.ok.inj (hurl'.symm.trans hurl)
        exact absurd hsame hnew
  | unchanged htarget hurl hsame hfetch =>
      obtain ⟨u', hurl', ⟨hnew, -⟩ | ⟨-, rfl, -⟩⟩ := hp.fetch_cases hfetch
      · cases Except.ok.inj (hurl'.symm.trans hurl)
        exact absurd hsame hnew
      · exact h.asked htargets (.inr rfl)
  | failed htarget hfetch hwritten => exact h.asked htargets (hp.asked_of_fault hfetch hwritten)
  | uncached hfetch => exact h.asked htargets (HttpFetcher.fetchUncached_cases hfetch).1
  | persisted hpersist => exact h.persisted htargets hpersist
  | renewed hstart => exact h.renewed hstart
  | unmade hstart =>
      obtain ⟨-, ⟨-, rfl⟩ | ⟨hmade, -⟩⟩ := HttpFetcher.start_cases hstart
      · exact h
      · cases hmade
  | elsewhere hvalidators hfiles _ => exact h.quiet htargets hvalidators hfiles

theorem History.tracks (hp : p.Serves answers) (htargets : OwnTargets targetOf)
    (h : History p answers d targetOf deeds w) : Tracks p d targetOf deeds w := by
  induction h with
  | made hempty hstart => exact tracks_of_empty hempty hstart
  | visits _ hvisits ih => exact hvisits.tracks hp htargets ih

/-! ### Fetches -/

/-- **A fetch that succeeds brings what the server holds at its moment**, whatever was done before with the
data directory, with two reservations for a fetch that is told that nothing has changed: the page that was kept
last must have had a validator, and if the fetcher was made anew before that validator was kept, the one that it
knows must be the same. -/
theorem fetch_current (hp : p.Serves answers) (htargets : OwnTargets targetOf)
    (hhistory : History p answers d targetOf deeds w) (htarget : targetOf url = some target)
    (hurl : Url.parse url = .ok u)
    (hmarked : ∀ c, copy? url deeds = some c → (p.edition w.sent u).Matches (w.validators.find? url) →
      c.etag ≠ none)
    (hremembered : ∀ c, copy? url deeds = some c → (p.edition w.sent u).Matches (w.validators.find? url) →
      c.forgotten = true → c.etag = w.validators.find? url)
    (hfetch : after ((answers.fetcher d).fetch target url) w = (.ok body, w')) :
    body = (p.edition w.sent u).body := by
  have htracks := hhistory.tracks hp htargets
  obtain ⟨u', hurl', ⟨-, hbody, -⟩ | ⟨hsame, -, hholds⟩⟩ := hp.fetch_cases hfetch
  · obtain rfl : u' = u := Except.ok.inj (hurl'.symm.trans hurl)
    exact hbody
  · obtain rfl : u' = u := Except.ok.inj (hurl'.symm.trans hurl)
    obtain ⟨etag, hfind, hetag⟩ := id hsame
    obtain ⟨c, hcopy, hexplains⟩ := htracks.known hfind
    -- The page in the file and the page of this moment have one validator, so they are one page.
    have hown : c.etag = some etag := by
      rcases hexplains with hown | hnone | hforgotten
      · exact hown
      · exact absurd hnone (hmarked c hcopy hsame)
      · exact (hremembered c hcopy hsame hforgotten).trans hfind
    obtain ⟨u'', moment, hurl'', hfile, htag⟩ := htracks.file htarget hcopy
    obtain rfl : u'' = u' := Except.ok.inj (hurl''.symm.trans hurl)
    have hread := HttpFetcher.file_of_holds hholds
    change d.file? w.tree target = some body at hread
    obtain rfl : (p.edition moment u'').body = body := Option.some.inj (hfile.symm.trans hread)
    exact p.faithful hetag (Edition.etag_of_tag? (htag.symm.trans hown))

/-! ### A page that returns -/

def Server.returning : Server :=
  .ofTexts (fun moment _ => if moment = 1 then "2" else "1") fun moment _ => by
    split
    · exact List.all_eq_true.1 rfl
    · exact List.all_eq_true.1 rfl

def loopbackTarget (url : String) : Option String :=
  if url = "http://[::1]/a" then some "a.json" else none

theorem ownTargets_loopback : OwnTargets loopbackTarget := by
  have htarget {url target : String} (h : loopbackTarget url = some target) :
      url = "http://[::1]/a" ∧ target = "a.json" := by
    unfold loopbackTarget at h
    split at h
    · rename_i hurl
      exact ⟨hurl, (Option.some.inj h).symm⟩
    · cases h
  refine ⟨fun h => ?_, fun h => ?_, fun h h' => ?_⟩
  · rw [(htarget h).2]
    exact ⟨by decide, by decide⟩
  · rw [(htarget h).2]
    decide
  · rw [(htarget h).1, (htarget h').1]

/-- The world after the page was kept, and then the validators. -/
def World.keptOnce : World :=
  (World.empty 0).stored ["data", "a.json"] "http://[::1]/a" "1" "1".toUTF8

def World.persistedOnce : World :=
  { keptOnce with tree := keptOnce.tree.put ["data", validatorsFile] (.file keptOnce.validators.encode) }

theorem accepts_a : DataDirectory.data.Accepts "a.json" := by
  refine ⟨⟨?_, ?_, ?_, ?_⟩, ?_⟩ <;> with_unfolding_all decide

theorem standsAt_keptOnce : DataDirectory.data.StandsAt World.keptOnce.tree ["data"] :=
  (standsAt_empty 0).keeps (keepsBut_put rfl _)

theorem standsAt_persistedOnce : DataDirectory.data.StandsAt World.persistedOnce.tree ["data"] :=
  standsAt_keptOnce.keeps (keepsBut_put rfl _)

theorem fetch_keptOnce : after ((Server.returning.answers.fetcher .data).fetch "a.json" "http://[::1]/a")
    (.empty 0) = (.ok "1".toUTF8, .keptOnce) :=
  have hetag : (Server.returning.page (World.empty 0).sent .loopback).etag = some "1" := rfl
  HttpFetcher.fetch_changed parse_loopback isAddressable_loopback (standsAt_empty 0) accepts_a nofun nofun
    hetag rfl

theorem history_persistedOnce : History Server.returning.publisher Server.returning.answers .data loopbackTarget
    [.persisted, .kept "http://[::1]/a" (some "1")] .persistedOnce := by
  have hfiles (name : String) (hname : Path.IsSegment name) :
      DataDirectory.data.file? (World.empty 0).tree name = none := by
    rw [DataDirectory.file?, DataDirectory.placeOf_pathOf _ _ hname]
    rfl
  have hmade : History Server.returning.publisher Server.returning.answers .data loopbackTarget [] (.empty 0) :=
    .made hfiles (HttpFetcher.start_of_none (standsAt_empty 0) accepts_validatorsFile rfl)
  have hkept := hmade.visits (.changed rfl parse_loopback nofun fetch_keptOnce)
  rw [Server.tag?_publisher] at hkept
  exact hkept.visits (.persisted (HttpFetcher.persist_name _ standsAt_keptOnce accepts_validatorsFile rfl))

/-- The world after the fetcher was made anew, when the page has been another one in between. -/
def World.renewedOnce : World :=
  { persistedOnce.ask with validators := keptOnce.validators.sorted }

theorem distinct_keptOnce : World.keptOnce.validators.Distinct :=
  Validators.distinct_empty.set _ _

theorem known_once : World.keptOnce.validators.sorted.find? "http://[::1]/a" = some "1" := by
  rw [Validators.find?_sorted distinct_keptOnce]
  exact Validators.find?_set_self _ _ _

theorem start_renewedOnce : after (Server.returning.answers.fetcher .data).start World.persistedOnce.ask
    = (.ok (), .renewedOnce) :=
  HttpFetcher.start_of_file (w := World.persistedOnce.ask) standsAt_persistedOnce accepts_validatorsFile
    distinct_keptOnce (at?_put_self _ (by simp) _)

theorem fetch_renewedOnce : after ((Server.returning.answers.fetcher .data).fetch "a.json" "http://[::1]/a")
    .renewedOnce = (.ok "1".toUTF8, World.renewedOnce.ask) :=
  HttpFetcher.fetch_unchanged (w := .renewedOnce) parse_loopback isAddressable_loopback standsAt_persistedOnce
    accepts_a known_once rfl rfl

/-- A page is fetched again after it was another one in between, with a fetcher that was made anew. -/
theorem fetch_current_returning :
    let p := Server.returning.publisher
    let answers := Server.returning.answers
    let deeds := [Deed.renewed, .persisted, .kept "http://[::1]/a" (some "1")]
    p.Serves answers ∧ OwnTargets loopbackTarget ∧
      History p answers .data loopbackTarget deeds .renewedOnce ∧
      loopbackTarget "http://[::1]/a" = some "a.json" ∧ Url.parse "http://[::1]/a" = .ok .loopback ∧
      copy? "http://[::1]/a" deeds = some ⟨some "1", true, false⟩ ∧
      after ((answers.fetcher .data).fetch "a.json" "http://[::1]/a") .renewedOnce
        = (.ok "1".toUTF8, World.renewedOnce.ask) ∧
      "1".toUTF8 = (p.edition World.renewedOnce.sent .loopback).body := by
  intro p answers deeds
  have huncached : History p answers .data loopbackTarget [.persisted, .kept "http://[::1]/a" (some "1")]
      World.persistedOnce.ask :=
    history_persistedOnce.visits
      (.uncached (HttpFetcher.fetchUncached_brings parse_loopback isAddressable_loopback))
  have hrenewed : History p answers .data loopbackTarget deeds .renewedOnce :=
    huncached.visits (.renewed start_renewedOnce)
  have hcopy : copy? "http://[::1]/a" deeds = some ⟨some "1", true, false⟩ := rfl
  refine ⟨Server.returning.publisher_serves, ownTargets_loopback, hrenewed, rfl, parse_loopback, hcopy,
    fetch_renewedOnce, ?_⟩
  refine fetch_current Server.returning.publisher_serves ownTargets_loopback hrenewed rfl parse_loopback
    (fun c hc _ => ?_) (fun c hc _ hforgotten => ?_) fetch_renewedOnce
  · rw [hcopy] at hc
    cases hc
    simp
  · rw [hcopy] at hc
    cases hc
    cases hforgotten

/-- The world after the page was kept, the validators, and then the page that it has been in between. -/
def World.keptTwice : World :=
  persistedOnce.stored ["data", "a.json"] "http://[::1]/a" "2" "2".toUTF8

/-- The world after the fetcher was made anew, which knows the first validator again. -/
def World.renewedTwice : World :=
  { keptTwice with validators := keptOnce.validators.sorted }

theorem known_persistedOnce : World.persistedOnce.validators.find? "http://[::1]/a" = some "1" :=
  Validators.find?_set_self _ _ _

theorem fetch_keptTwice : after ((Server.returning.answers.fetcher .data).fetch "a.json" "http://[::1]/a")
    .persistedOnce = (.ok "2".toUTF8, .keptTwice) := by
  have hetag : (Server.returning.page World.persistedOnce.sent .loopback).etag = some "2" := rfl
  refine HttpFetcher.fetch_changed parse_loopback isAddressable_loopback standsAt_persistedOnce accepts_a ?_ ?_
    hetag rfl
  · rw [known_persistedOnce]
    decide
  · rw [known_persistedOnce]
    rintro etag ⟨⟩
    have hfirst : (Server.returning.page 0 .loopback).etag = some "1" := rfl
    exact Validators.isSendable_of_isVisible (Server.returning.visible hfirst)

theorem standsAt_keptTwice : DataDirectory.data.StandsAt World.keptTwice.tree ["data"] :=
  standsAt_persistedOnce.keeps (keepsBut_put rfl _)

theorem history_renewedTwice : History Server.returning.publisher Server.returning.answers .data loopbackTarget
    [.renewed, .kept "http://[::1]/a" (some "2"), .persisted, .kept "http://[::1]/a" (some "1")]
    .renewedTwice := by
  have hnew : ¬ (Server.returning.publisher.edition World.persistedOnce.sent .loopback).Matches
      (World.persistedOnce.validators.find? "http://[::1]/a") := by
    rw [Server.matches_iff, known_persistedOnce]
    rintro ⟨-, hsame⟩
    exact absurd hsame (by decide)
  have hkept := history_persistedOnce.visits (.changed rfl parse_loopback hnew fetch_keptTwice)
  rw [Server.tag?_publisher] at hkept
  have hstart : after (Server.returning.answers.fetcher .data).start World.keptTwice = (.ok (), .renewedTwice) :=
    HttpFetcher.start_of_file standsAt_keptTwice accepts_validatorsFile distinct_keptOnce
      ((at?_put_of_ne _ (by decide) _).trans (at?_put_self _ (by simp) _))
  exact hkept.visits (.renewed hstart)

/-- A page that was kept after the validators is taken for the one before it, when the server has returned to
that one and the fetcher was made anew. -/
theorem returned_page_missed :
    let p := Server.returning.publisher
    let answers := Server.returning.answers
    p.Serves answers ∧ OwnTargets loopbackTarget ∧
      (∃ deeds, History p answers .data loopbackTarget deeds .renewedTwice) ∧
      loopbackTarget "http://[::1]/a" = some "a.json" ∧ Url.parse "http://[::1]/a" = .ok .loopback ∧
      after ((answers.fetcher .data).fetch "a.json" "http://[::1]/a") .renewedTwice
        = (.ok "2".toUTF8, World.renewedTwice.ask) ∧
      "2".toUTF8 ≠ (p.edition World.renewedTwice.sent .loopback).body := by
  intro p answers
  have hfetch : after ((answers.fetcher .data).fetch "a.json" "http://[::1]/a") .renewedTwice
      = (.ok "2".toUTF8, World.renewedTwice.ask) :=
    HttpFetcher.fetch_unchanged (w := .renewedTwice) parse_loopback isAddressable_loopback standsAt_keptTwice
      accepts_a known_once rfl (at?_put_self _ (by simp) _)
  refine ⟨Server.returning.publisher_serves, ownTargets_loopback, ⟨_, history_renewedTwice⟩, rfl,
    parse_loopback, hfetch, ?_⟩
  change "2".toUTF8 ≠ "1".toUTF8
  decide

end StaticPage
