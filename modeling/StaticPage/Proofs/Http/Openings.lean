import StaticPage.Evaluation.Context
import StaticPage.Proofs.Http.Coherence
import StaticPage.Proofs.Storage.Keeping

/-!
# Making a context over the network

While a context is made, the world advances by one request for each eager binding and by nothing else. As
long as the fetcher's validators are backed, each of these requests brings what the server holds at its
moment, `fetch_eager`, so that making the context cannot fail at an eager binding.
-/

namespace StaticPage

open Context Relation

def Binding.isEager (b : Binding) : Bool :=
  !b.isLazy && !b.isManual

theorem Binding.isEager_iff {b : Binding} : b.isEager = true ↔ ∃ url, b.origin = .eager url := by
  unfold isEager isLazy isManual
  cases b.origin <;> simp

/-- Every page that an eager binding of a document is fetched from has a validator and holds JSON, at every
moment. -/
def Server.Serves (server : Server) (doc : Document) : Prop :=
  ∀ {b : Binding} {url : String} {u : Url}, b ∈ doc.bindings → b.origin = .eager url →
    Url.parse url = .ok u → ∀ moment, ∃ etag value, (server.page moment u).etag = some etag ∧
      Json.parse (server.page moment u).body = .ok value

variable {doc : Document} {server : Server} {d : DataDirectory} {here place : List String}
  {w w' : World} {b : Binding} {url : String} {u : Url} {ctx ctx' : Context}

/-! ### Eager bindings -/

theorem fetch_eager (hdoc : doc.Separate d here place) (hserves : server.Serves doc)
    (hw : Coherent doc server d here place w.validators w) (hb : b ∈ doc.bindings)
    (horigin : b.origin = .eager url) (hurl : Url.parse url = .ok u) :
    ∃ w', after ((server.answers.fetcher d).fetch b.target url) w
        = (.ok (server.page w.sent u).body, w') ∧ Advances doc server place w w' ∧
      w'.sent = w.sent + 1 ∧ ∃ bytes, w'.tree.at? (place ++ [b.target]) = some (.file bytes) := by
  obtain ⟨u', hurl', haddr⟩ := hdoc.valid hb horigin
  rw [hurl] at hurl'
  cases hurl'
  obtain ⟨etag, value, hetag, -⟩ := hserves hb horigin hurl w.sent
  have htarget := (hdoc.target hb horigin).1
  by_cases hknown : w.validators.find? url = some etag
  · obtain ⟨bytes, hfile, hbody⟩ := (hw.backed hb horigin hurl hknown).body
    rw [hbody w.sent (Nat.le_refl _) hetag]
    exact ⟨w.ask, HttpFetcher.fetch_unchanged hurl haddr hw.stands htarget hknown hetag hfile,
      .quiet rfl rfl (Nat.le_succ _), rfl, bytes, hfile⟩
  · have hsendable : ∀ e ∈ w.validators.find? url, Validators.isSendable e = true := by
      intro e he
      obtain ⟨moment, -, hseen⟩ := (hw.backed hb horigin hurl he).seen
      exact Validators.isSendable_of_isVisible (server.visible hseen)
    refine ⟨_, HttpFetcher.fetch_changed hurl haddr hw.stands htarget hknown hsendable hetag
      (hw.free hb horigin), .keeps hb horigin hurl hetag, rfl, _, FileTree.at?_put_self _ (by simp) _⟩

section

variable {store : Store (StateM World)} {fetcher : Fetcher (StateM World)} {w'' : World}

theorem bind_of_fetch (horigin : b.origin = .eager url) (hfree : ctx.isTaken b.name = false)
    {bytes : ByteArray} {value : Json.Value}
    (hfetch : after (fetcher.fetch b.target url) w = (.ok bytes, w'))
    (hparse : Json.parse bytes = .ok value) :
    outcome (Context.bind store fetcher ctx b) w
      = (.ok { ctx with values := ctx.values ++ [(b.name, value)] }, w') := by
  have hbytes : outcome (eagerBytes store fetcher b url) w = (.ok bytes, w') := by
    unfold eagerBytes
    rw [outcome_bind, outcome_lift_eq_ok.2 hfetch]
    rfl
  have hdecode : decode b bytes = .ok value := by
    rw [decode, hparse]
    rfl
  have hinsert : ctx.insert b.name value
      = .ok { ctx with values := ctx.values ++ [(b.name, value)] } := by
    unfold Context.insert
    rw [if_neg (by simp [hfree])]
  unfold Context.bind
  rw [horigin]
  simp only
  rw [outcome_bind, hbytes]
  simp only
  rw [hdecode, outcome_bind, outcome_except]
  simp only
  rw [hinsert, outcome_except]

/-- An eager binding fails for what could not be fetched, if there is no stored copy. -/
theorem bind_of_fetch_error (horigin : b.origin = .eager url) {cause : FetchFault}
    (hfetch : after (fetcher.fetch b.target url) w = (.error cause, w'))
    (hload : after (store.load b.target) w' = (.ok none, w'')) :
    outcome (Context.bind store fetcher ctx b) w = (.error (.fetch b.name b.target cause), w'') := by
  have hbytes : outcome (eagerBytes store fetcher b url) w
      = (.error (.fetch b.name b.target cause), w'') := by
    unfold eagerBytes
    rw [outcome_bind, outcome_lift_eq_ok.2 hfetch]
    simp only
    rw [outcome_bind, outcome_lift_eq_ok.2 hload]
    rfl
  unfold Context.bind
  rw [horigin]
  simp only
  rw [outcome_bind, hbytes]

end

theorem bind_eager (hdoc : doc.Separate d here place) (hserves : server.Serves doc)
    (hw : Coherent doc server d here place w.validators w) (hb : b ∈ doc.bindings)
    (horigin : b.origin = .eager url) (hurl : Url.parse url = .ok u)
    (hfree : ctx.isTaken b.name = false) :
    ∃ value w', Json.parse (server.page w.sent u).body = .ok value ∧
      outcome (Context.bind (server.answers.fetcher d).store (server.answers.fetcher d).fetcher ctx b) w
        = (.ok { ctx with values := ctx.values ++ [(b.name, value)] }, w') ∧
      Advances doc server place w w' ∧ w'.sent = w.sent + 1 ∧
      ∃ bytes, w'.tree.at? (place ++ [b.target]) = some (.file bytes) := by
  obtain ⟨w', hfetch, hadvances, hsent, hfile⟩ := fetch_eager hdoc hserves hw hb horigin hurl
  obtain ⟨etag, value, -, hparse⟩ := hserves hb horigin hurl w.sent
  exact ⟨value, w', hparse, bind_of_fetch horigin hfree hfetch hparse, hadvances, hsent, hfile⟩

/-! ### Other bindings -/

/-- Why a binding that is not eager cannot be made: its target cannot be read, or it is a manual one whose
data is missing or is not JSON. -/
inductive Unreadable (b : Binding) : Failure → Prop where
  | file (fault : FileFault) : Unreadable b (.file fault)
  | missing (h : b.isManual = true) : Unreadable b (.missingData b.name b.target)
  | malformed (h : b.isManual = true) (cause : Json.Fault) : Unreadable b (.decode b.name b.target cause)

/-- Nothing was sent and nothing kept; there may be warnings. -/
structure Still (w w' : World) : Prop where
  tree : w'.tree = w.tree
  validators : w'.validators = w.validators
  sent : w'.sent = w.sent

theorem Still.refl (w : World) : Still w w :=
  ⟨rfl, rfl, rfl⟩

theorem exists_outcome_load (answers : Answers) (d : DataDirectory) (target : String) (w : World) :
    ∃ loaded, outcome (liftM ((answers.fetcher d).store.load target) : ExceptT Failure (StateM World) _) w
      = (.ok loaded, w) := by
  obtain ⟨loaded, hload⟩ := DataDirectory.exists_after_load d target w
  exact ⟨loaded, outcome_lift_eq_ok.2 hload⟩

variable {answers : Answers} {r : Except Failure Context}

theorem addLazy_still {template : String} (hfree : ctx.isTaken b.name = false)
    (h : outcome (addLazy (answers.fetcher d).store ctx b template) w = (r, w')) :
    Still w w' ∧ ∀ failure, r = .error failure → Unreadable b failure := by
  obtain ⟨loaded, hload⟩ := exists_outcome_load answers d b.target w
  simp only [addLazy, hfree, Bool.false_eq_true, if_false] at h
  rw [outcome_bind, hload] at h
  cases loaded with
  | error fault =>
      cases h
      exact ⟨.refl w, fun failure hr => by cases hr; exact .file fault⟩
  | ok bytes =>
      simp only at h
      split at h
      · cases h
        exact ⟨⟨rfl, rfl, rfl⟩, fun failure hr => by cases hr⟩
      · cases h
        exact ⟨.refl w, fun failure hr => by cases hr⟩

theorem manualBytes_still (hmanual : b.isManual = true) {s : Except Failure ByteArray}
    (h : outcome (manualBytes (answers.fetcher d).store b) w = (s, w')) :
    w' = w ∧ ∀ failure, s = .error failure → Unreadable b failure := by
  obtain ⟨loaded, hload⟩ := exists_outcome_load answers d b.target w
  rw [manualBytes, outcome_bind, hload] at h
  cases loaded with
  | error fault =>
      cases h
      exact ⟨rfl, fun failure hr => by cases hr; exact .file fault⟩
  | ok bytes =>
      cases bytes with
      | none =>
          cases h
          exact ⟨rfl, fun failure hr => by cases hr; exact .missing hmanual⟩
      | some bytes =>
          cases h
          exact ⟨rfl, fun failure hr => by cases hr⟩

/-- Binding another name that is free sends nothing and keeps nothing. -/
theorem bind_other (hother : b.isEager = false) (hfree : ctx.isTaken b.name = false)
    (h : outcome (Context.bind (answers.fetcher d).store (answers.fetcher d).fetcher ctx b) w = (r, w')) :
    Still w w' ∧ ∀ failure, r = .error failure → Unreadable b failure := by
  unfold Context.bind at h
  cases horigin : b.origin with
  | eager url =>
      rw [Binding.isEager_iff.2 ⟨url, horigin⟩] at hother
      cases hother
  | lazy template =>
      rw [horigin] at h
      exact addLazy_still hfree h
  | manual =>
      have hmanual : b.isManual = true := by rw [Binding.isManual, horigin]
      rw [horigin] at h
      simp only at h
      rcases hbytes : outcome (manualBytes (answers.fetcher d).store b) w with ⟨s, w₁⟩
      obtain ⟨rfl, hfailure⟩ := manualBytes_still hmanual hbytes
      rw [outcome_bind, hbytes] at h
      cases s with
      | error failure =>
          cases h
          exact ⟨.refl w', fun failure hr => by cases hr; exact hfailure _ rfl⟩
      | ok bytes =>
          simp only at h
          rw [decode, outcome_bind, outcome_except] at h
          cases hparse : Json.parse bytes with
          | error cause =>
              rw [hparse] at h
              cases h
              exact ⟨.refl w', fun failure hr => by cases hr; exact .malformed hmanual cause⟩
          | ok value =>
              rw [hparse] at h
              simp only [Except.mapError] at h
              unfold Context.insert at h
              rw [outcome_except, if_neg (by simp [hfree])] at h
              cases h
              exact ⟨.refl w', fun failure hr => by cases hr⟩

/-! ### All bindings -/

/-- The file of every eager binding is there. -/
def Filled (bindings : List Binding) (place : List String) (t : FileTree) : Prop :=
  ∀ b ∈ bindings, b.isEager = true → ∃ bytes, t.at? (place ++ [b.target]) = some (.file bytes)

/-- What making a context of some bindings has brought: either every eager binding of them has the value
that its page had when it was asked for, and has its file, or one of them that is not eager could not be
read. -/
def Opened (server : Server) (place : List String) (bindings : List Binding) (moment : Nat) (t : FileTree) :
    Except Failure Context → Prop
  | .ok ctx => (∀ before b after url u, bindings = before ++ b :: after → b.origin = .eager url →
      Url.parse url = .ok u → ∃ value,
        Json.parse (server.page (moment + before.countP Binding.isEager) u).body = .ok value ∧
          ctx.value? b.name = some value) ∧ Filled bindings place t
  | .error failure => ∃ b ∈ bindings, b.isEager = false ∧ Unreadable b failure

theorem eq_of_singleton_split {α : Type} {a b : α} {before after : List α}
    (h : [a] = before ++ b :: after) : before = [] ∧ b = a := by
  cases before with
  | nil => exact ⟨rfl, (List.cons.inj h).1.symm⟩
  | cons c before => simp at h

theorem Opened.of_error {bindings bindings' : List Binding} {moment moment' : Nat} {t t' : FileTree}
    {failure : Failure} (h : Opened server place bindings moment t (.error failure))
    (hsub : bindings ⊆ bindings') : Opened server place bindings' moment' t' (.error failure) := by
  obtain ⟨b, hb, hother, hfailure⟩ := h
  exact ⟨b, hsub hb, hother, hfailure⟩

/-- What one binding has brought and what the others bring after it. -/
theorem Opened.cons {rest : List Binding} {moment : Nat} {t t' : FileTree}
    (h : Opened server place [b] moment t (.ok ctx))
    (hrest : Opened server place rest (moment + [b].countP Binding.isEager) t' r)
    (hvalues : ∀ ctx', r = .ok ctx' → ∀ name value, ctx.value? name = some value →
      ctx'.value? name = some value)
    (hfiles : ∀ file bytes, t.at? file = some (.file bytes) →
      ∃ bytes, t'.at? file = some (.file bytes)) :
    Opened server place (b :: rest) moment t' r := by
  cases r with
  | error failure => exact hrest.of_error (List.subset_cons_self b rest)
  | ok ctx' =>
      obtain ⟨hvalue, hfile⟩ := h
      refine ⟨fun before a after url u hsplit horigin hurl => ?_, fun a ha heager => ?_⟩
      · cases before with
        | nil =>
            cases hsplit
            obtain ⟨value, hparse, hfound⟩ := hvalue [] b [] url u rfl horigin hurl
            exact ⟨value, hparse, hvalues ctx' rfl b.name value hfound⟩
        | cons c before =>
            cases hsplit
            obtain ⟨value, hparse, hfound⟩ := hrest.1 before a after url u rfl horigin hurl
            rw [Nat.add_assoc, ← List.countP_append] at hparse
            exact ⟨value, hparse, hfound⟩
      · rcases List.mem_cons.1 ha with rfl | ha
        · obtain ⟨bytes, hat⟩ := hfile a (List.mem_singleton_self a) heager
          exact hfiles _ bytes hat
        · exact hrest.2 a ha heager

theorem isTaken_of_bind {store : Store (StateM World)} {fetcher : Fetcher (StateM World)}
    (h : outcome (Context.bind store fetcher ctx b) w = (.ok ctx', w')) {name : String}
    (hname : name ≠ b.name) : ctx'.isTaken name = ctx.isTaken name := by
  have hne : (name == b.name) = false := beq_eq_false_iff_ne.2 hname
  obtain ⟨-, ⟨value, rfl⟩ | ⟨template, bytes, -, rfl⟩⟩ := bind_cases store fetcher h
  · simp [isTaken, value?, lazy?, List.lookup_append, List.lookup_cons, hne]
  · have hother : (b.name == name) = false := beq_eq_false_iff_ne.2 hname.symm
    simp [isTaken, value?, lazy?, List.find?_append, LazyBinding.new, hother]

theorem value?_of_bind {store : Store (StateM World)} {fetcher : Fetcher (StateM World)}
    (h : outcome (Context.bind store fetcher ctx b) w = (.ok ctx', w')) {name : String}
    {value : Json.Value} (hvalue : ctx.value? name = some value) : ctx'.value? name = some value := by
  obtain ⟨-, ⟨new, rfl⟩ | ⟨template, bytes, -, rfl⟩⟩ := bind_cases store fetcher h
  · rw [value?] at hvalue ⊢
    rw [List.lookup_append, hvalue]
    rfl
  · exact hvalue

/-- Binding one free name advances a world by at most a request, and brings what it should. -/
theorem bind_step (hdoc : doc.Separate d here place) (hserves : server.Serves doc)
    (hb : b ∈ doc.bindings) (hfree : ctx.isTaken b.name = false)
    (hw : Coherent doc server d here place w.validators w)
    (h : outcome (Context.bind (server.answers.fetcher d).store (server.answers.fetcher d).fetcher ctx b)
      w = (r, w')) :
    Advances doc server place w w' ∧ w'.sent = w.sent + [b].countP Binding.isEager ∧
      Opened server place [b] w.sent w'.tree r := by
  by_cases heager : b.isEager = true
  · obtain ⟨url, horigin⟩ := Binding.isEager_iff.1 heager
    obtain ⟨u, hurl, -⟩ := hdoc.valid hb horigin
    obtain ⟨value, w₁, hparse, hbind, hadvances, hsent, hfile⟩ :=
      bind_eager hdoc hserves hw hb horigin hurl hfree
    rw [hbind] at h
    cases h
    have hnone : ctx.values.lookup b.name = none := by
      rw [isTaken, Bool.or_eq_false_iff] at hfree
      exact Option.isSome_eq_false_iff.1 hfree.1 |> Option.isNone_iff_eq_none.1
    refine ⟨hadvances, by simp [heager, hsent], ?_, by simpa [Filled] using fun _ => hfile⟩
    intro before a after url' u' hsplit horigin' hurl'
    obtain ⟨rfl, rfl⟩ := eq_of_singleton_split hsplit
    rw [horigin] at horigin'
    cases horigin'
    rw [hurl] at hurl'
    cases hurl'
    refine ⟨value, hparse, ?_⟩
    simp [value?, List.lookup_append, hnone]
  · have hother : b.isEager = false := by simpa using heager
    obtain ⟨⟨htree, hvalidators, hsent⟩, hfailure⟩ := bind_other hother hfree h
    refine ⟨.quiet htree hvalidators (Nat.le_of_eq hsent.symm), by simp [hother, hsent], ?_⟩
    cases r with
    | error failure => exact ⟨b, List.mem_cons_self, hother, hfailure failure rfl⟩
    | ok ctx' =>
        refine ⟨fun before a after url' u' hsplit horigin' _ => ?_, by simp [Filled, hother]⟩
        obtain ⟨-, rfl⟩ := eq_of_singleton_split hsplit
        rw [Binding.isEager_iff.2 ⟨url', horigin'⟩] at hother
        cases hother

/-- Making a context of some bindings advances a world by requests, and brings what it should. -/
theorem foldlM_bind (hdoc : doc.Separate d here place) (hserves : server.Serves doc)
    {bindings : List Binding} (hsub : bindings ⊆ doc.bindings)
    (hnames : (bindings.map (·.name)).Nodup) (hfree : ∀ b ∈ bindings, ctx.isTaken b.name = false)
    (hw : Coherent doc server d here place w.validators w)
    (h : outcome (bindings.foldlM
      (Context.bind (server.answers.fetcher d).store (server.answers.fetcher d).fetcher) ctx) w
        = (r, w')) :
    ReflTransGen (Advances doc server place) w w' ∧
      Opened server place bindings w.sent w'.tree r ∧
      ∀ ctx', r = .ok ctx' → ∀ name value, ctx.value? name = some value →
        ctx'.value? name = some value := by
  induction bindings generalizing ctx w with
  | nil =>
      cases h
      refine ⟨.refl, ⟨fun before b after url u hsplit => ?_, by simp [Filled]⟩, ?_⟩
      · simp at hsplit
      · intro ctx' h name value hvalue
        cases h
        exact hvalue
  | cons b rest ih =>
      rw [List.foldlM_cons, outcome_bind] at h
      rw [List.map_cons, List.nodup_cons] at hnames
      have hb : b ∈ doc.bindings := hsub List.mem_cons_self
      have hrest : rest ⊆ doc.bindings := fun a ha => hsub (List.mem_cons_of_mem _ ha)
      rcases hbind : outcome (Context.bind (server.answers.fetcher d).store
        (server.answers.fetcher d).fetcher ctx b) w with ⟨_ | ctx₁, w₁⟩
      · rw [hbind] at h
        cases h
        obtain ⟨hadvances, -, hopened⟩ :=
          bind_step hdoc hserves hb (hfree b List.mem_cons_self) hw hbind
        exact ⟨.single hadvances, hopened.of_error (by simp), fun _ h => by cases h⟩
      · rw [hbind] at h
        obtain ⟨hadvances, hsent, hfirst⟩ :=
          bind_step hdoc hserves hb (hfree b List.mem_cons_self) hw hbind
        have hfree₁ : ∀ a ∈ rest, ctx₁.isTaken a.name = false := by
          intro a ha
          have hne : a.name ≠ b.name := fun heq => hnames.1 (List.mem_map.2 ⟨a, ha, heq⟩)
          rw [isTaken_of_bind hbind hne]
          exact hfree a (List.mem_cons_of_mem _ ha)
        obtain ⟨hchain, hopened, hkept⟩ :=
          ih hrest hnames.2 hfree₁ (hadvances.coherent hdoc hw) h
        refine ⟨.head hadvances hchain, ?_, ?_⟩
        · -- The rest was bound from the moment after `b`, and what `b` brought is kept.
          rw [hsent] at hopened
          exact hfirst.cons hopened hkept fun file bytes hat => exists_file_of_advances hchain hat
        · intro ctx' hr name value hfound
          exact hkept ctx' hr name value (value?_of_bind hbind hfound)

end StaticPage
